import Depot.Proofs.Body.Recorded
import Depot.Proofs.Feed.Delivery
import Depot.Proofs.Range.Rendering
import Depot.Proofs.Service.Answered
import Depot.Service.Access

/-!
# Recorded sizes

The size that an access entry records comes from two places: that of a complete body is its length, that of a
streamed one the sum of the reports of its delivery. `Service.recorded_of_answer` compares it with the bytes that the
connection gets up to the end or the error of the body. The two are equal for complete bodies, for whole artifacts
and for single windows, unless the source fails; a body of parts always has more bytes than are recorded.
-/

namespace Depot

/-! ## Deliveries -/

theorem received_readFrames (pieces : List Bytes) (rest : List Frame) :
    (readFrames (pieces.map .data ++ rest)).1 = pieces.flatten ++ (readFrames rest).1 := by
  induction pieces with
  | nil => rfl
  | cons piece later ih =>
    rw [List.map_cons, List.cons_append, readFrames, ih, List.flatten_cons, List.append_assoc]

theorem Delivery.received_fst (d : Delivery) : d.received.1 = d.sent.flatten := by
  rw [received, frames, received_readFrames]
  cases d.outcome <;> exact List.append_nil _

/-- What the reports of a delivery leave out. -/
theorem Delivery.recorded_of (shape : Shape) (source : Source) :
    ∃ framing missing, shape.Recorded (of shape source).outcome (of shape source).received.1.length
      (of shape source).shipment.shipped framing missing := by
  obtain ⟨outcome, bytes, -, -, events⟩ := of_puts shape source
  obtain ⟨framing, missing, recorded⟩ := shape.recorded_write source
  refine ⟨framing, missing, ?_⟩
  have shipped : (of shape source).shipment.shipped = Progress.reported (of shape source).events := by
    rw [shipment, Shipment.noteAll_shipped]
    exact Nat.zero_add _
  rw [received_fst, bytes, shipped, outcome, events]
  exact recorded

namespace Service

variable {σ : Type} [Store σ]

/-! ## Two ends of an artifact -/

/-- The first and the last of three bytes are requested. -/
def endsRequest : Request :=
  { Request.ofPath .get "/artifacts/a" with fields := ⟨[⟨"range", utf8 "bytes=0-0,2-2"⟩]⟩ }

/-- The artifact of which the ends are requested. -/
def endsShelf : Shelf :=
  ⟨[("a", .kept ⟨3, "c0ffee", none⟩ (.ofBytes [120, 121, 122]))]⟩

/-- The windows of the ends. -/
def endsWindows : WindowSet :=
  ⟨[⟨0, 0, 3, by decide, by decide⟩, ⟨2, 2, 3, by decide, by decide⟩], by decide, by decide⟩

theorem exists_ends : ∃ download,
    Download.frame? "a" ⟨3, "c0ffee", none⟩ (Ask.ofFields .get endsRequest.fields) = some download ∧
      download.shape = .parts endsWindows ∧
      (({} : Service).answer endsRequest endsShelf).1 =
        some ⟨download.head, .streamed (.of download.shape (.ofBytes [120, 121, 122]))⟩ := by
  have dated : (Artifact.mk 3 "c0ffee" none).Dated := by
    intro moment changed
    cases changed
  obtain ⟨download, framed⟩ := Download.exists_frame? dated "a" (Ask.ofFields .get endsRequest.fields)
  have asked : Ask.ofFields .get endsRequest.fields = ⟨.get, some "bytes=0-0,2-2", none⟩ := by decide +kernel
  have read : RangeHeader.windows "bytes=0-0,2-2" 3 = RangeHeader.assemble endsWindows.windows := by rfl
  have divided : download.shape = .parts endsWindows := by
    have chosen : Choice.of ⟨3, "c0ffee", none⟩ ⟨.get, some "bytes=0-0,2-2", none⟩ = .ranged _ endsWindows :=
      Choice.of_windows (read.trans (RangeHeader.assemble_windows endsWindows))
    rw [Download.shape_of_frame? framed, asked, chosen]
    rfl
  have body : ¬ download.Bare endsRequest.method := by
    rw [Download.Bare, divided]
    decide
  exact ⟨download, framed, divided, answer_of_frame? (by decide +kernel) (by rfl) framed body (by decide)⟩

/-! ## Answers -/

/-- The size that the entry of an answer records is the number of bytes that the connection gets of a complete body.
Of a streamed one, it leaves out what frames parts and what a source that failed kept from being reported, which is
less than a tenth of what was requested, and nothing else. So it is right for a whole artifact or a single window
unless the source fails, and it is too small for parts. -/
theorem recorded_of_answer {s : Service} {request : Request} {store : σ} {answer : Answer} (timing : Timing)
    (answered : (s.answer request store).1 = some answer) :
    (∀ body, answer.content = .fixed body →
      (entryOf request answer timing).bodyBytes = answer.content.received.1.length) ∧
    ∀ delivery, answer.content = .streamed delivery → ∃ name artifact source download framing missing,
      s.route request = .artifact name ∧ (Store.fetch name store).1 = .found (artifact, source) ∧
      Download.frame? name artifact (Ask.ofFields request.method request.fields) = some download ∧
      delivery = .of download.shape source ∧
      download.shape.Recorded delivery.outcome answer.content.received.1.length
        (entryOf request answer timing).bodyBytes framing missing ∧
      ((∀ windows, download.shape ≠ .parts windows) → (∀ e, delivery.outcome ≠ .error (.io e)) →
        (entryOf request answer timing).bodyBytes = answer.content.received.1.length) ∧
      ∀ windows, download.shape = .parts windows →
        (entryOf request answer timing).bodyBytes < answer.content.received.1.length := by
  constructor
  · intro body fixed
    change answer.content.recordedBytes = _
    rw [fixed]
    rfl
  · intro delivery streamed
    obtain ⟨name, artifact, source, download, route, fetched, framed, -, same⟩ :=
      exists_download_of_streamed answered streamed
    obtain ⟨framing, missing, account⟩ := Delivery.recorded_of download.shape source
    have recorded : download.shape.Recorded delivery.outcome answer.content.received.1.length
        (entryOf request answer timing).bodyBytes framing missing := by
      change download.shape.Recorded delivery.outcome answer.content.received.1.length answer.content.recordedBytes
        framing missing
      rw [streamed, same]
      exact account
    exact ⟨name, artifact, source, download, framing, missing, route, fetched, framed, same, recorded,
      recorded.eq_of_plain, fun _ => recorded.lt_of_parts⟩

/-- Fewer bytes are recorded of the two parts than are sent. -/
theorem recorded_of_answer_parts : ∃ answer, (({} : Service).answer endsRequest endsShelf).1 = some answer ∧
    (entryOf endsRequest answer ⟨⟨⟨0, 0⟩, 0⟩, 0⟩).bodyBytes < answer.content.received.1.length := by
  obtain ⟨download, framed, divided, answered⟩ := exists_ends
  obtain ⟨name, artifact, source, found, framing, missing, route, fetched, found_framed, -, -, -, parts⟩ :=
    (recorded_of_answer ⟨⟨⟨0, 0⟩, 0⟩, 0⟩ answered).2 _ rfl
  obtain rfl : name = "a" := by
    have requested : ({} : Service).route endsRequest = .artifact "a" := by decide +kernel
    exact Route.artifact.inj (route.symm.trans requested)
  obtain ⟨rfl, rfl⟩ : artifact = ⟨3, "c0ffee", none⟩ ∧ source = .ofBytes [120, 121, 122] := by
    have shelved : (Store.fetch "a" endsShelf).1 = .found (⟨3, "c0ffee", none⟩, .ofBytes [120, 121, 122]) := by rfl
    cases fetched.symm.trans shelved
    exact ⟨rfl, rfl⟩
  cases framed.symm.trans found_framed
  exact ⟨_, answered, parts endsWindows divided⟩

/-- Of an artifact whose source fails behind the first of twenty bytes, that byte is sent and none is recorded. -/
theorem not_recorded_of_failed :
    let request := Request.ofPath .get "/artifacts/b"
    let failing : Conduct := { Conduct.smooth with faults := [⟨1, some ⟨.other, "bad sector"⟩, 1⟩] }
    let shelf : Shelf := ⟨[("b", .kept ⟨20, "c0ffee", none⟩ (.ofBytes (List.replicate 20 120) failing))]⟩
    (({} : Service).answer request shelf).1.map (fun answer =>
        ((entryOf request answer ⟨⟨⟨0, 0⟩, 0⟩, 0⟩).bodyBytes, answer.content.received.1.length)) =
      some (0, 1) := by
  decide +kernel

end Service

end Depot
