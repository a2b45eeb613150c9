import Depot.Proofs.Download.Head
import Depot.Service.Answer
import Depot.Store.Shelf

/-!
# What requests come to

`Service.Meets` lists what a request for an artifact may come to, with the reason: the store refuses the name or
breaks down, the last change has no HTTP date, only the head is sent, or the body is streamed, for which there
may be no queue. Every other route has an answer of fixed content. `Service.answered_iff` puts this together:
which statuses there are, and which requests are answered at all.
-/

namespace Depot

/-- A request without any fields. -/
def Request.ofPath (method : Method) (path : String) : Request :=
  ⟨method, path, .http11, {}, ⟨.v4 [127, 0, 0, 1], 0, 4711⟩⟩

/-- There can be a frame queue for the bodies of downloads. -/
def Service.CanStream (s : Service) : Prop :=
  s.capacity ≤ FrameQueue.maxCapacity

instance (s : Service) : Decidable s.CanStream :=
  inferInstanceAs (Decidable (_ ≤ _))

theorem Service.send?_streamed (s : Service) (head : Head) (delivery : Delivery) :
    s.send? ⟨head, .streamed delivery⟩ = if s.CanStream then some ⟨head, .streamed delivery⟩ else none := by
  unfold send?
  dsimp only
  by_cases queue : s.CanStream
  · have made : FrameQueue.create? s.capacity = some (.create s.capacity) := if_pos queue
    rw [made, if_pos queue]
    rfl
  · have refused : FrameQueue.create? s.capacity = none := if_neg queue
    rw [refused, if_neg queue]
    rfl

/-- An answer to this request for this download holds no more than the head. -/
def Download.Bare (method : Method) (download : Download) : Prop :=
  method = .head ∨ download.shape = .unsatisfiable

instance (method : Method) (download : Download) : Decidable (download.Bare method) :=
  inferInstanceAs (Decidable (_ ∨ _))

theorem Answer.ofDownload_of_bare {method : Method} {download : Download} (bare : download.Bare method)
    (source : Source) : ofDownload method source download = ⟨download.head, .fixed []⟩ :=
  if_pos bare

theorem Answer.ofDownload_of_not_bare {method : Method} {download : Download} (body : ¬ download.Bare method)
    (source : Source) :
    ofDownload method source download = ⟨download.head, .streamed (.of download.shape source)⟩ :=
  if_neg body

namespace Service

variable {σ : Type} [Store σ]

/-! ## Requests for an artifact -/

/-- What a request for an artifact may come to. -/
inductive Meets (s : Service) (request : Request) (name : String) (store : σ) : Option Answer → Prop
  | refused {e : StoreError} (fetched : (Store.fetch name store).1 = .refused e) :
    Meets s request name store (some (.ofStoreError e))
  | crashed (fetched : (Store.fetch name store).1 = .crashed) :
    Meets s request name store (some (.ofReply .serverError))
  /-- The last change has no HTTP date. -/
  | undated {artifact : Artifact} {source : Source}
    (fetched : (Store.fetch name store).1 = .found (artifact, source)) (undated : ¬ artifact.Dated) :
    Meets s request name store none
  | bare {artifact : Artifact} {source : Source} {download : Download}
    (fetched : (Store.fetch name store).1 = .found (artifact, source))
    (framed : Download.frame? name artifact (Ask.ofFields request.method request.fields) = some download)
    (bare : download.Bare request.method) :
    Meets s request name store (some ⟨download.head, .fixed []⟩)
  | streamed {artifact : Artifact} {source : Source} {download : Download}
    (fetched : (Store.fetch name store).1 = .found (artifact, source))
    (framed : Download.frame? name artifact (Ask.ofFields request.method request.fields) = some download)
    (body : ¬ download.Bare request.method) (queue : s.CanStream) :
    Meets s request name store (some ⟨download.head, .streamed (.of download.shape source)⟩)
  /-- There is no queue for the body. -/
  | unqueued {artifact : Artifact} {source : Source} {download : Download}
    (fetched : (Store.fetch name store).1 = .found (artifact, source))
    (framed : Download.frame? name artifact (Ask.ofFields request.method request.fields) = some download)
    (body : ¬ download.Bare request.method) (noQueue : ¬ s.CanStream) :
    Meets s request name store none

theorem meets_answerArtifact (s : Service) (request : Request) (name : String) (store : σ) :
    s.Meets request name store (s.answerArtifact request name store).1 := by
  unfold answerArtifact
  split
  · rename_i e _ fetched
    exact .refused (by rw [fetched])
  · rename_i fetched
    exact .crashed (by rw [fetched])
  · rename_i artifact source rest result
    have fetched : (Store.fetch name store).1 = .found (artifact, source) := by rw [result]
    dsimp only
    rcases framed : Download.frame? name artifact (Ask.ofFields request.method request.fields) with _ | download
    · refine .undated fetched fun dated => ?_
      obtain ⟨download, framed'⟩ := Download.exists_frame? dated name (Ask.ofFields request.method request.fields)
      cases framed.symm.trans framed'
    · rw [Option.bind_some]
      by_cases body : download.Bare request.method
      · rw [Answer.ofDownload_of_bare body]
        exact .bare fetched framed body
      · rw [Answer.ofDownload_of_not_bare body, send?_streamed]
        split
        · rename_i queue
          exact .streamed fetched framed body queue
        · rename_i noQueue
          exact .unqueued fetched framed body noQueue

/-- A download that has a body, for which there can be a queue, is the answer. -/
theorem answer_of_frame? {s : Service} {request : Request} {store : σ} {name : String} {artifact : Artifact}
    {source : Source} {download : Download} (route : s.route request = .artifact name)
    (fetched : (Store.fetch name store).1 = .found (artifact, source))
    (framed : Download.frame? name artifact (Ask.ofFields request.method request.fields) = some download)
    (body : ¬ download.Bare request.method) (queue : s.CanStream) :
    (s.answer request store).1 = some ⟨download.head, .streamed (.of download.shape source)⟩ := by
  have meets := s.meets_answerArtifact request name store
  rw [answer, route, answerRoute]
  generalize (s.answerArtifact request name store).1 = result at meets ⊢
  cases meets with
  | refused other | crashed other => cases fetched.symm.trans other
  | undated found undated =>
    cases fetched.symm.trans found
    exact absurd ((Download.exists_frame?_iff _ _ _).1 ⟨_, framed⟩) undated
  | bare found found_framed bare =>
    cases fetched.symm.trans found
    cases framed.symm.trans found_framed
    exact absurd bare body
  | streamed found found_framed =>
    cases fetched.symm.trans found
    cases framed.symm.trans found_framed
    rfl
  | unqueued _ _ _ noQueue => exact absurd queue noQueue

end Service

/-! ## Statuses -/

theorem Answer.status_ofStoreError (e : StoreError) :
    (ofStoreError e).head.status = if e.isNotFound then 404 else 500 := by
  unfold ofStoreError
  split <;> rfl

theorem Answer.not_ok_ofStoreError (e : StoreError) : (ofStoreError e).head.status ≠ 200 := by
  rw [status_ofStoreError]
  split <;> decide

theorem Answer.status_checksum (content disposition : String) (headOnly : Bool) :
    (ofReply (.checksum content disposition headOnly)).head.status =
      if Head.isSendable disposition then 200 else 500 := by
  unfold Reply.checksum
  split <;> rfl

namespace Service

variable {σ : Type} [Store σ]

/-- The statuses of answers. -/
def statuses : List Nat := [200, 204, 206, 404, 405, 416, 500]

theorem status_ofStoreError_mem (e : StoreError) : (Answer.ofStoreError e).head.status ∈ statuses := by
  rw [Answer.status_ofStoreError]
  split <;> decide

theorem answerChecksum_fst (request : Request) (artifact file : String) (store : σ) :
    (answerChecksum request artifact file store).1 =
      match (Store.describe artifact store).1 with
      | .refused e => .ofStoreError e
      | .crashed => .ofReply .serverError
      | .found found => .ofReply (.checksum (checksumLine found.hash artifact) (Attachment.disposition file)
          (request.method = .head)) := by
  unfold answerChecksum
  split <;> rename_i described <;> rw [described]

theorem status_answerChecksum_mem (request : Request) (artifact file : String) (store : σ) :
    (answerChecksum request artifact file store).1.head.status ∈ statuses := by
  rw [answerChecksum_fst]
  rcases (Store.describe artifact store).1 with found | e | _
  · dsimp only
    rw [Answer.status_checksum]
    split <;> decide
  · exact status_ofStoreError_mem e
  · change 500 ∈ statuses
    decide

theorem status_frame?_mem {name : String} {artifact : Artifact} {ask : Ask} {download : Download}
    (framed : Download.frame? name artifact ask = some download) : download.head.status ∈ statuses := by
  rw [Download.status_of_frame? framed]
  cases download.shape <;> simp [Shape.status, statuses]

theorem status_ne_of_frame? {name : String} {artifact : Artifact} {ask : Ask} {download : Download}
    (framed : Download.frame? name artifact ask = some download) :
    ¬ (download.head.status = 404 ∨ download.head.status = 500) := by
  rw [Download.status_of_frame? framed]
  cases download.shape <;> simp [Shape.status]

theorem Meets.status_mem {s : Service} {request : Request} {name : String} {store : σ} {answer : Answer}
    (meets : s.Meets request name store (some answer)) : answer.head.status ∈ statuses := by
  cases meets with
  | refused => exact status_ofStoreError_mem _
  | crashed => decide
  | bare _ framed => exact status_frame?_mem framed
  | streamed _ framed => exact status_frame?_mem framed

theorem status_answerRoute_mem {s : Service} {request : Request} {store : σ} {route : Route} {answer : Answer}
    (answered : (s.answerRoute request store route).1 = some answer) : answer.head.status ∈ statuses := by
  cases route with
  | options | refused | health | nowhere | unreadable =>
    cases answered
    decide
  | checksum artifact file =>
    cases answered
    exact status_answerChecksum_mem request artifact file store
  | artifact name =>
    have meets := s.meets_answerArtifact request name store
    rw [show (s.answerArtifact request name store).1 = some answer from answered] at meets
    exact meets.status_mem

/-! ## Bodies that are streamed -/

theorem content_answerChecksum (request : Request) (artifact file : String) (store : σ) :
    ∃ body, (answerChecksum request artifact file store).1.content = .fixed body := by
  rw [answerChecksum_fst]
  rcases (Store.describe artifact store).1 with found | e | _ <;> exact ⟨_, rfl⟩

/-- Only the body of an artifact is streamed, and its delivery is that of the download. -/
theorem exists_download_of_streamed {s : Service} {request : Request} {store : σ} {answer : Answer}
    {delivery : Delivery} (answered : (s.answer request store).1 = some answer)
    (streamed : answer.content = .streamed delivery) :
    ∃ name artifact source download, s.route request = .artifact name ∧
      (Store.fetch name store).1 = .found (artifact, source) ∧
      Download.frame? name artifact (Ask.ofFields request.method request.fields) = some download ∧
      ¬ download.Bare request.method ∧ delivery = .of download.shape source := by
  rw [Service.answer] at answered
  cases route : s.route request with
  | options | refused | health | nowhere | unreadable =>
    rw [route] at answered
    obtain rfl := Option.some.inj answered
    cases streamed
  | checksum artifact file =>
    rw [route] at answered
    obtain rfl := Option.some.inj answered
    obtain ⟨body, fixed⟩ := content_answerChecksum request artifact file store
    cases fixed.symm.trans streamed
  | artifact name =>
    have meets := s.meets_answerArtifact request name store
    rw [route, answerRoute] at answered
    rw [answered] at meets
    cases meets with
    | refused | crashed | bare => cases streamed
    | streamed fetched framed body =>
      cases streamed
      exact ⟨name, _, _, _, rfl, fetched, framed, body, rfl⟩

/-! ## Requests that are answered -/

/-- The last change of an artifact has a date, and there can be a queue for its body, if one is to be sent. -/
def CanSend (s : Service) (request : Request) (name : String) (artifact : Artifact) : Prop :=
  artifact.Dated ∧ (s.CanStream ∨ ∀ download,
    Download.frame? name artifact (Ask.ofFields request.method request.fields) = some download →
      download.Bare request.method)

theorem exists_answerArtifact_iff (s : Service) (request : Request) (name : String) (store : σ) :
    (∃ answer, (s.answerArtifact request name store).1 = some answer) ↔
      ∀ artifact source, (Store.fetch name store).1 = .found (artifact, source) →
        s.CanSend request name artifact := by
  have meets := s.meets_answerArtifact request name store
  generalize (s.answerArtifact request name store).1 = result at meets ⊢
  rcases result with _ | answer
  · refine iff_of_false (by simp) fun all => ?_
    cases meets with
    | undated fetched undated => exact undated (all _ _ fetched).1
    | unqueued fetched framed body noQueue =>
      rcases (all _ _ fetched).2 with queue | bare
      · exact noQueue queue
      · exact body (bare _ framed)
  · refine iff_of_true ⟨answer, rfl⟩ fun artifact source fetched => ?_
    cases meets with
    | refused other | crashed other => cases fetched.symm.trans other
    | bare found framed bare =>
      cases fetched.symm.trans found
      refine ⟨(Download.exists_frame?_iff _ _ _).1 ⟨_, framed⟩, .inr fun download framed' => ?_⟩
      cases framed.symm.trans framed'
      exact bare
    | streamed found framed body queue =>
      cases fetched.symm.trans found
      exact ⟨(Download.exists_frame?_iff _ _ _).1 ⟨_, framed⟩, .inl queue⟩

theorem exists_answerRoute_iff (s : Service) (request : Request) (store : σ) (route : Route) :
    (∃ answer, (s.answerRoute request store route).1 = some answer) ↔
      ∀ name artifact source, route = .artifact name →
        (Store.fetch name store).1 = .found (artifact, source) → s.CanSend request name artifact := by
  cases route with
  | options | refused | health | nowhere | unreadable | checksum =>
    exact iff_of_true ⟨_, rfl⟩ (fun _ _ _ same => by cases same)
  | artifact name =>
    refine (s.exists_answerArtifact_iff request name store).trans ⟨fun all other artifact source same => ?_,
      fun all artifact source => all name artifact source rfl⟩
    cases same
    exact all artifact source

/-- Every answer has one of seven statuses, and every request has an answer but one for an artifact that is
found and cannot be sent: its last change has no date, or there can be no queue for its body. The first is a
matter of the last change alone, which decides whether a download can be framed under a name and for a request. -/
theorem answered_iff (s : Service) (request : Request) (store : σ) :
    (∀ answer, (s.answer request store).1 = some answer → answer.head.status ∈ statuses) ∧
      ((∃ answer, (s.answer request store).1 = some answer) ↔
        ∀ name artifact source, s.route request = .artifact name →
          (Store.fetch name store).1 = .found (artifact, source) → s.CanSend request name artifact) ∧
      ∀ name artifact ask, (∃ download, Download.frame? name artifact ask = some download) ↔
        artifact.Dated :=
  ⟨fun _ answered => status_answerRoute_mem answered, s.exists_answerRoute_iff request store (s.route request),
    Download.exists_frame?_iff⟩

/-- An artifact that was last changed a second before 1970 has no answer. -/
theorem not_answered_before_1970 :
    (({} : Service).answer (.ofPath .get "/artifacts/a")
      (⟨[("a", .kept ⟨1, "c0ffee", some ⟨-1, 0⟩⟩ (.ofBytes [1]))]⟩ : Shelf)).1.isNone = true := by
  decide

end Service

end Depot
