import Depot.Feed.Traffic
import Depot.Proofs.Feed.Delivery
import Depot.Proofs.Feed.Traffic
import Depot.Proofs.Service.Answered

/-!
# Streamed answers

The body of a download reaches the client through a buffer and a bounded frame queue. `Service.answer_streams`
says that this cannot be told from writing the body to memory: whatever the capacity of the queue and the order
in which task and connection take turns, the client gets the head of the download, the bytes that would be in
memory, and then either the end or, if the body could not be written, one error with the text of the failure.
-/

namespace Depot

/-- The frames bring what a run has written: its bytes, and after them its failure, if it has failed. -/
def Conveys (frames : List Frame) (run : CopyRun Sink) : Prop :=
  ∃ pieces : List Bytes, pieces.flatten = run.outlet.toList ∧
    (∀ n, run.outcome = .ok n → frames = pieces.map .data) ∧
    ∀ e, run.outcome = .error e → frames = pieces.map .data ++ [.failure ⟨.other, e.message⟩]

theorem Delivery.conveys_frames (shape : Shape) (source : Source) :
    Conveys (Delivery.of shape source).frames (shape.write source ({} : Sink)) := by
  obtain ⟨outcome, bytes, -⟩ := Delivery.of_puts shape source
  refine ⟨(Delivery.of shape source).sent, bytes, fun n ok => ?_, fun e failed => ?_⟩
  · rw [frames, outcome, ok, List.append_nil]
  · rw [frames, outcome, failed]
    rfl

namespace Service

variable {σ : Type} [Store σ] {request : Request} {name : String} {store : σ} {answer : Answer}

/-- A `GET` for an artifact that is answered with 200 or 206 streams the download. -/
theorem streams_of_status {s : Service} (method : request.method = .get)
    (answered : (s.answerArtifact request name store).1 = some answer)
    (status : answer.head.status = 200 ∨ answer.head.status = 206) :
    ∃ artifact source download, (Store.fetch name store).1 = .found (artifact, source) ∧
      Download.frame? name artifact (Ask.ofFields request.method request.fields) = some download ∧
      answer = ⟨download.head, .streamed (.of download.shape source)⟩ := by
  have meets := s.meets_answerArtifact request name store
  rw [answered] at meets
  cases meets with
  | refused =>
    rw [Answer.status_ofStoreError] at status
    split at status <;> rcases status with status | status <;> cases status
  | crashed => rcases status with status | status <;> cases status
  | bare fetched framed bare =>
    rcases bare with head | nothing
    · rw [method] at head
      cases head
    · rw [Download.status_of_frame? framed, nothing] at status
      rcases status with status | status <;> cases status
  | streamed fetched framed => exact ⟨_, _, _, fetched, framed, rfl⟩

/-- A streamed answer has the head of the download, and its frames bring exactly what writing the body to
memory comes to. Whatever the capacity of the queue and the schedule, the client has taken the first of these
frames at any time and all of them when it sees the end, and it sees the end if both sides keep taking turns. -/
theorem answer_streams {s : Service} (route : s.route request = .artifact name)
    (method : request.method = .get) (answered : (s.answer request store).1 = some answer)
    (status : answer.head.status = 200 ∨ answer.head.status = 206) :
    ∃ artifact source download delivery frames,
      (Store.fetch name store).1 = .found (artifact, source) ∧
      Download.frame? name artifact (Ask.ofFields request.method request.fields) = some download ∧
      answer = ⟨download.head, .streamed delivery⟩ ∧
      Conveys frames (download.shape.write source ({} : Sink)) ∧
      (∀ schedule, ((Traffic.start s.capacity delivery).run schedule).taken <+: frames ∧
        (((Traffic.start s.capacity delivery).run schedule).ended = true →
          ((Traffic.start s.capacity delivery).run schedule).taken = frames)) ∧
      ∃ enough, ∀ rounds : List (List Turn),
        (∀ round ∈ rounds, Turn.task ∈ round ∧ Turn.connection ∈ round) → enough ≤ rounds.length →
          ((Traffic.start s.capacity delivery).run rounds.flatten).ended = true := by
  have routed : (s.answerArtifact request name store).1 = some answer := by
    rw [← answered, Service.answer, route, answerRoute]
  obtain ⟨artifact, source, download, fetched, framed, same⟩ :=
    streams_of_status method routed status
  obtain ⟨-, -, filled, -⟩ := Delivery.of_puts download.shape source
  have course := Traffic.onCourse_start s.capacity filled
  refine ⟨artifact, source, download, .of download.shape source, _, fetched, framed, same,
    Delivery.conveys_frames download.shape source, fun schedule => ?_, Traffic.work _,
    fun rounds both => course.ended_of_rounds rounds both⟩
  exact ⟨Traffic.taken_isPrefix s.capacity filled schedule, Traffic.taken_of_ended s.capacity filled⟩

/-- A queue without room of its own and an artifact of which the source brings only two bytes of four: these come first,
and then an error that says so. -/
theorem answer_streams_truncated :
    ∃ (request : Request) (shelf : Shelf) (answer : Answer) (download : Download)
      (delivery : Delivery) (frames : List Frame) (pieces : List Bytes),
      request.path = "/artifacts/a" ∧
      shelf = ⟨[("a", .kept ⟨4, "c0ffee", none⟩ (.ofBytes [1, 2]))]⟩ ∧
      (({ capacity := 0 } : Service).answer request shelf).1 = some answer ∧
      answer = ⟨download.head, .streamed delivery⟩ ∧
      Conveys frames (download.shape.write (.ofBytes [1, 2]) ({} : Sink)) ∧
      pieces.flatten = [1, 2] ∧
      frames = pieces.map .data ++ [.failure ⟨.other, "2 of 4 bytes could not be written to client"⟩] ∧
      ∀ schedule, ((Traffic.start 0 delivery).run schedule).ended = true →
        ((Traffic.start 0 delivery).run schedule).taken = frames := by
  let service : Service := { capacity := 0 }
  let request : Request := .ofPath .get "/artifacts/a"
  let shelf : Shelf := ⟨[("a", .kept ⟨4, "c0ffee", none⟩ (.ofBytes [1, 2]))]⟩
  have route : service.route request = .artifact "a" := by decide
  have complete : ((service.answer request shelf).1.map fun a => a.head.status) = some 200 := by
    decide
  obtain ⟨answer, answered, status⟩ := Option.map_eq_some_iff.1 complete
  obtain ⟨artifact, source, download, delivery, frames, fetched, framed, same, conveys, runs, -⟩ :=
    answer_streams route rfl answered (.inl status)
  have found : (Store.fetch "a" shelf).1 = .found (⟨4, "c0ffee", none⟩, .ofBytes [1, 2]) := rfl
  rw [found] at fetched
  cases fetched
  obtain ⟨-, -, shape, -⟩ := Download.frame?_eq_some_iff.1 framed
  change download.shape = .whole 4 at shape
  have written : ((Shape.whole 4).write (.ofBytes [1, 2]) ({} : Sink)).outcome = .error (.shortfall 4 2) ∧
      ((Shape.whole 4).write (.ofBytes [1, 2]) ({} : Sink)).outlet.toList = [1, 2] := by
    decide +kernel
  have ⟨pieces, bytes, _, failed⟩ := conveys
  rw [shape] at bytes failed
  exact ⟨request, shelf, answer, download, delivery, frames, pieces, rfl, rfl, answered, same, conveys,
    bytes.trans written.2, failed _ written.1, fun schedule => (runs schedule).2⟩

end Service

end Depot
