import Depot.Proofs.Download.Resumption
import Depot.Proofs.Service.Answered

/-!
# The head of an answer alone

A request by `HEAD` gets the head of the answer that `GET` gets if it asks for no ranges. The two take different
ways: the one ends before a body is made, the other needs a queue for it. `Service.head_mirrors_get` says that
status and fields are the same wherever `GET` is answered, that both are answered or neither is if there can be
queues, and that a head without a body still tells the length of the complete body.
-/

namespace Depot

namespace Request

/-- The request by `HEAD`. -/
def headOnly (request : Request) : Request :=
  { request with method := .head }

/-- The request by `GET`, for no ranges. -/
def unranged (request : Request) : Request :=
  { request with method := .get, fields := request.fields.remove "range" }

variable (request : Request) (artifact : Artifact)

theorem choice_headOnly :
    Choice.of artifact (Ask.ofFields request.headOnly.method request.headOnly.fields) = .plain :=
  rfl

theorem choice_unranged :
    Choice.of artifact (Ask.ofFields request.unranged.method request.unranged.fields) = .plain := by
  have range : (request.fields.remove "range").get? "range" = none := Fields.get?_remove_self _ _
  simp only [unranged, Choice.of, Choice.considered, Ask.ofFields, Ask.firstText, range, Option.map_none, if_true]

theorem frame?_headOnly (name : String) :
    Download.frame? name artifact (Ask.ofFields request.headOnly.method request.headOnly.fields) =
      Download.frame? name artifact (Ask.ofFields request.unranged.method request.unranged.fields) := by
  apply Download.frame?_congr
  rw [choice_headOnly, choice_unranged]

end Request

theorem Answer.head_ofDownload (method : Method) (source : Source) (download : Download) :
    (ofDownload method source download).head = download.head := by
  unfold ofDownload
  split <;> rfl

theorem Answer.head_checksum (content disposition : String) (headOnly other : Bool) :
    (ofReply (.checksum content disposition headOnly)).head =
      (ofReply (.checksum content disposition other)).head := by
  unfold Reply.checksum
  split <;> rfl

namespace Service

variable {σ : Type} [Store σ] (s : Service) (request : Request)

/-! ## Equal heads -/

theorem map_head_send? (method : Method) (source : Source) (download : Download) :
    (s.send? (Answer.ofDownload method source download)).map Answer.head =
      if download.Bare method ∨ s.CanStream then some download.head else none := by
  by_cases body : download.Bare method
  · rw [Answer.ofDownload_of_bare body, if_pos (.inl body)]
    rfl
  · rw [Answer.ofDownload_of_not_bare body, send?_streamed]
    by_cases queue : s.CanStream
    · rw [if_pos queue, if_pos (.inr queue)]
      rfl
    · rw [if_neg queue, if_neg (not_or.2 ⟨body, queue⟩)]
      rfl

/-- The answer by `HEAD` has the head of the answer by `GET`, if there is one, and there is one if there is one by
`HEAD` and there can be a queue. -/
structure Mirrors (headOnly full : Option Answer) : Prop where
  head_of_full : ∀ answer, full = some answer → headOnly.map Answer.head = some answer.head
  head_eq : s.CanStream → headOnly.map Answer.head = full.map Answer.head

theorem mirrors_of_head_eq {headOnly full : Option Answer}
    (same : headOnly.map Answer.head = full.map Answer.head) : s.Mirrors headOnly full where
  head_of_full := by
    intro answer answered
    rw [answered] at same
    exact same
  head_eq := fun _ => same

theorem answerArtifact_mirrors (name : String) (store : σ) :
    s.Mirrors (s.answerArtifact request.headOnly name store).1 (s.answerArtifact request.unranged name store).1 := by
  unfold answerArtifact
  split
  · exact s.mirrors_of_head_eq rfl
  · exact s.mirrors_of_head_eq rfl
  · rename_i artifact source rest _
    dsimp only
    rw [request.frame?_headOnly]
    rcases Download.frame? name artifact (Ask.ofFields request.unranged.method request.unranged.fields) with
      _ | download
    · exact s.mirrors_of_head_eq rfl
    · -- A head alone needs no queue.
      have bare : download.Bare request.headOnly.method := .inl rfl
      rw [Option.bind_some, Option.bind_some]
      refine ⟨fun answer sent => ?_, fun queue => ?_⟩
      · rw [map_head_send?, if_pos (.inl bare), eq_of_send? sent, Answer.head_ofDownload]
      · rw [map_head_send?, map_head_send?, if_pos (.inl bare), if_pos (.inr queue)]

theorem answerRoute_mirrors (route : Route) (store : σ) :
    s.Mirrors (s.answerRoute request.headOnly store route).1 (s.answerRoute request.unranged store route).1 := by
  cases route with
  | artifact name => exact s.answerArtifact_mirrors request name store
  | checksum artifact file =>
    apply s.mirrors_of_head_eq
    rw [answerRoute, answerRoute, Option.map_some, Option.map_some, answerChecksum_fst, answerChecksum_fst]
    rcases (Store.describe artifact store).1 with found | e | _
    · exact congrArg some (Answer.head_checksum _ _ _ _)
    · rfl
    · rfl
  | options | refused | health | nowhere | unreadable => exact s.mirrors_of_head_eq rfl

/-! ## Lengths -/

/-- The length of the complete body that is found under a route: of the artifact, or of the checksum file. -/
def fullLength? (store : σ) : Route → Option Nat
  | .artifact name =>
    match (Store.fetch name store).1 with
    | .found (artifact, _) => some artifact.size
    | _ => none
  | .checksum artifact _ =>
    match (Store.describe artifact store).1 with
    | .found found => some (utf8 (found.hash ++ "  " ++ artifact)).length
    | _ => none
  | _ => none

/-- The answer has no body, but says how long the complete one is that is found under the route. -/
structure Announces (route : Route) (store : σ) (answer : Answer) : Prop where
  empty : answer.content.received = ([], none)
  length : ∃ n, fullLength? store route = some n ∧
    answer.head.fields.get? "content-length" = some (utf8 (decimal n))

variable {s request} {store : σ} {answer : Answer}

theorem announces_of_artifact {name : String}
    (answered : (s.answerArtifact request.headOnly name store).1 = some answer)
    (ok : answer.head.status = 200) : Announces (.artifact name) store answer := by
  have meets := s.meets_answerArtifact request.headOnly name store
  rw [answered] at meets
  cases meets with
  | refused => exact absurd ok (Answer.not_ok_ofStoreError _)
  | crashed => cases ok
  | bare fetched framed =>
    obtain ⟨date, -, shape, head⟩ := Download.frame?_eq_some_iff.1 framed
    rw [request.choice_headOnly] at shape
    refine ⟨rfl, _, by rw [fullLength?, fetched], ?_⟩
    rw [shape] at head
    rw [head]
    simp [Head.withShape, Choice.shape]
  | streamed _ _ body => exact absurd (.inl rfl) body

theorem announces_of_checksum {artifact file : String}
    (ok : (answerChecksum request.headOnly artifact file store).1.head.status = 200) :
    Announces (.checksum artifact file) store (answerChecksum request.headOnly artifact file store).1 := by
  rw [answerChecksum_fst] at ok ⊢
  rcases described : (Store.describe artifact store).1 with found | e | _
  · rw [described, Answer.status_checksum] at ok
    split at ok
    · rename_i sendable
      dsimp only
      rw [Answer.ofReply, Reply.checksum, if_pos sendable]
      exact ⟨rfl, _, by rw [fullLength?, described]; rfl, rfl⟩
    · cases ok
  · rw [described] at ok
    exact absurd ok (Answer.not_ok_ofStoreError e)
  · rw [described] at ok
    cases ok

/-- For every state and every request: if `GET` for no ranges is answered, then `HEAD` is answered with the same
status and fields, and if there can be frame queues, then one of them is answered exactly if the other is. What
`HEAD` is answered with 200, other than a health report, has no body but the length of the complete one. -/
theorem head_mirrors_get (s : Service) (request : Request) (store : σ) :
    s.Mirrors (s.answer request.headOnly store).1 (s.answer request.unranged store).1 ∧
      ∀ answer, (s.answer request.headOnly store).1 = some answer → answer.head.status = 200 →
        s.routePath request.path ≠ .health → Announces (s.routePath request.path) store answer := by
  refine ⟨s.answerRoute_mirrors request (s.routePath request.path) store, fun answer answered ok other => ?_⟩
  change (s.answerRoute request.headOnly store (s.routePath request.path)).1 = some answer at answered
  cases route : s.routePath request.path with
  | artifact name =>
    rw [route] at answered
    exact announces_of_artifact answered ok
  | checksum artifact file =>
    rw [route] at answered
    cases answered
    exact announces_of_checksum ok
  | health => exact absurd route other
  | options | refused | nowhere | unreadable =>
    rw [route] at answered
    cases answered
    cases ok

/-- A queue of 2 ^ 61 frames is one too large: the head of a download is answered, the download is not. -/
theorem head_without_get :
    let s : Service := { capacity := 2305843009213693952 }
    let shelf : Shelf := ⟨[("a", .kept ⟨1, "c0ffee", none⟩ (.ofBytes [1]))]⟩
    let request : Request := .ofPath .head "/artifacts/a"
    (s.answer request.headOnly shelf).1.map (fun answer => answer.head.status) = some 200 ∧
      (s.answer request.unranged shelf).1.isNone = true := by
  decide

end Service

end Depot
