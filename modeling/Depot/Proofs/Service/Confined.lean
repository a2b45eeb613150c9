import Depot.Proofs.Service.Checksum
import Depot.Proofs.Store.Confined

/-!
# Requests stay in the directory

The name that a request leads to goes through several hands: the route prefix is taken off the path, the rest is
decoded, and the checksum suffix may be taken off again before the name is looked up. `Service.LooksUp` says which
names can come out, and `Service.Confined` what an archive does with them, whatever it is asked.
`Service.requests_confined` says so of every request and of every run of requests.
-/

namespace Depot

namespace Service

/-! ## Names that are looked up -/

/-- A request asks for what lies under a name: for an artifact, or for a checksum file, whose name is that of the
artifact with the suffix. -/
inductive LooksUp (s : Service) (request : Request) : String → Prop
  | artifact {name : String} (_ : s.LeadsTo request.path name) (_ : s.route request = .artifact name) :
    LooksUp s request name
  | checksum {name : String} (_ : s.LeadsTo request.path (name ++ s.checksumSuffix))
    (_ : s.route request = .checksum name (name ++ s.checksumSuffix)) : LooksUp s request name

theorem eq_of_routeName {s : Service} {decoded : String} {route : Route} (routed : s.routeName decoded = route) :
    route = .artifact decoded ∨
      ∃ name, decoded = name ++ s.checksumSuffix ∧ route = .checksum name (name ++ s.checksumSuffix) := by
  subst routed
  rw [routeName]
  rcases stripped : stripTextSuffix? s.checksumSuffix decoded with _ | name
  · exact .inl rfl
  · dsimp only
    split
    · exact .inl rfl
    · obtain ⟨kept, split_, rfl⟩ := Option.map_eq_some_iff.1 stripped
      have whole : decoded = String.ofList kept ++ s.checksumSuffix := by
        rw [← String.toList_inj, String.toList_append, String.toList_ofList]
        exact stripSuffix?_eq_some_iff.1 split_
      exact .inr ⟨_, whole, by rw [← whole]⟩

/-- A route to an artifact or a checksum file comes from what the rest of the path stands for. -/
theorem leadsTo_of_routePath {s : Service} {path : String} {route : Route} (routed : s.routePath path = route)
    (found : (∃ name, route = .artifact name) ∨ ∃ name file, route = .checksum name file) :
    ∃ decoded, s.LeadsTo path decoded ∧ s.routeName decoded = route := by
  have noOther : route ≠ .health ∧ route ≠ .nowhere ∧ ∀ encoded fault, route ≠ .unreadable encoded fault := by
    rcases found with ⟨name, rfl⟩ | ⟨name, file, rfl⟩ <;>
      exact ⟨Route.noConfusion, Route.noConfusion, fun _ _ => Route.noConfusion⟩
  obtain ⟨noHealth, somewhere, readable⟩ := noOther
  rw [routePath] at routed
  split at routed
  · exact absurd routed.symm noHealth
  · rcases stripped : stripTextPrefix? s.routePrefix path with _ | encoded
    · rw [stripped] at routed
      exact absurd routed.symm somewhere
    · rw [stripped] at routed
      dsimp only at routed
      rcases decoded : Percent.decode encoded with fault | name
      · rw [decoded] at routed
        exact absurd routed.symm (readable encoded fault)
      · rw [decoded] at routed
        exact ⟨name, ⟨encoded, stripped, decoded⟩, routed⟩

variable {s : Service} {request : Request} {name : String}

theorem routePath_of_route {route : Route} (routed : s.route request = route)
    (found : (∃ name, route = .artifact name) ∨ ∃ name file, route = .checksum name file) :
    s.routePath request.path = route := by
  rw [Service.route] at routed
  rcases method : request.method with _ | _ | _ | other
  all_goals rw [method] at routed
  · exact routed
  · exact routed
  · rcases found with ⟨name, rfl⟩ | ⟨name, file, rfl⟩ <;> cases routed
  · rcases found with ⟨name, rfl⟩ | ⟨name, file, rfl⟩ <;> cases routed

theorem LooksUp.of_artifact (routed : s.route request = .artifact name) : s.LooksUp request name := by
  obtain ⟨decoded, leads, named⟩ := leadsTo_of_routePath (routePath_of_route routed (.inl ⟨_, rfl⟩)) (.inl ⟨_, rfl⟩)
  rcases eq_of_routeName named with same | ⟨other, -, same⟩
  · cases same
    exact .artifact leads routed
  · cases same

theorem LooksUp.of_checksum {file : String} (routed : s.route request = .checksum name file) :
    s.LooksUp request name := by
  obtain ⟨decoded, leads, named⟩ :=
    leadsTo_of_routePath (routePath_of_route routed (.inr ⟨_, _, rfl⟩)) (.inr ⟨_, _, rfl⟩)
  rcases eq_of_routeName named with same | ⟨other, whole, same⟩
  · cases same
  · cases same
    exact .checksum (whole ▸ leads) routed

/-! ## One request -/

section

variable {σ : Type} [Store σ]

theorem snd_answerArtifact (s : Service) (request : Request) (name : String) (store : σ) :
    (s.answerArtifact request name store).2 = (Store.fetch name store).2 := by
  unfold answerArtifact
  split <;> rename_i fetched <;> rw [fetched]

theorem answerArtifact_fst (s : Service) (request : Request) (name : String) (store : σ) :
    (s.answerArtifact request name store).1 =
      match (Store.fetch name store).1 with
      | .refused e => some (.ofStoreError e)
      | .crashed => some (.ofReply .serverError)
      | .found (artifact, source) =>
        (Download.frame? name artifact (Ask.ofFields request.method request.fields)).bind fun download =>
          s.send? (Answer.ofDownload request.method source download) := by
  unfold answerArtifact
  split <;> rename_i fetched <;> rw [fetched]

theorem snd_answerChecksum (request : Request) (artifact file : String) (store : σ) :
    (answerChecksum request artifact file store).2 = (Store.describe artifact store).2 := by
  unfold answerChecksum
  split <;> rename_i described <;> rw [described]

end

/-- What a request does to an archive, and what it is answered from. -/
structure Confined (s : Service) (request : Request) (a : Archive) : Prop where
  /-- Nothing is opened but a child of the directory whose name is looked up. -/
  opens : (s.answer request a).2.opened = a.opened ∨
    ∃ name home, s.LooksUp request name ∧ Archive.IsName name ∧ a.home = .ok home ∧
      (s.answer request a).2.opened = (home ++ [name]) :: a.opened
  /-- An answer about a name either tells nothing, or the child of that name is a regular file, and a body that is
  streamed is the content of that file. -/
  serves : ∀ name answer, s.LooksUp request name → (s.answer request a).1 = some answer →
    answer = .ofReply .notFound ∨ answer = .ofReply .serverError ∨
      ∃ home content modified, a.home = .ok home ∧ a.top.at? (home ++ [name]) = some (.file content modified) ∧
        ∀ delivery, answer.content = .streamed delivery → ∃ shape, delivery = .of shape (.ofBytes content)
  /-- What is empty, one dot or two, or has a slash, a backslash or the null character in it, is not there, and nothing
  is opened. -/
  refuses : ∀ name, s.LooksUp request name →
    name = "" ∨ name = "." ∨ name = ".." ∨ '/' ∈ name.toList ∨ '\\' ∈ name.toList ∨ '\x00' ∈ name.toList →
      s.answer request a = (some (.ofReply .notFound), a)

theorem state_of_looksUp {a : Archive} (looks : s.LooksUp request name) :
    (s.answer request a).2 = (a.inspect name).2 := by
  cases looks with
  | artifact _ routed =>
    rw [answer, routed]
    exact s.snd_answerArtifact request name a
  | checksum _ routed =>
    rw [answer, routed]
    exact snd_answerChecksum request name _ a

/-- A request leaves the archive alone or describes what the one name that it looks up leads to. -/
theorem state_answer (s : Service) (request : Request) (a : Archive) :
    (s.answer request a).2 = a ∨ ∃ name, s.LooksUp request name ∧ (s.answer request a).2 = (a.inspect name).2 := by
  cases routed : s.route request with
  | options | refused | health | nowhere | unreadable =>
    left
    rw [answer, routed]
    rfl
  | artifact name => exact .inr ⟨name, .of_artifact routed, state_of_looksUp (.of_artifact routed)⟩
  | checksum name file => exact .inr ⟨name, .of_checksum routed, state_of_looksUp (.of_checksum routed)⟩

theorem answer_of_file_error {a : Archive} {e : StoreError} (looks : s.LooksUp request name)
    (missing : a.file name = .error e) : (s.answer request a).1 = some (.ofStoreError e) := by
  obtain ⟨fetched, described⟩ := Archive.lookups_of_error missing
  cases looks with
  | artifact _ routed => rw [answer, routed, answerRoute, answerArtifact_fst, fetched]
  | checksum _ routed =>
    rw [answer, routed]
    change some (answerChecksum request name _ a).1 = _
    rw [answerChecksum_fst, described]

/-- A body that is streamed is the content of the file. -/
theorem streamed_of_file_ok {a : Archive} {content : Bytes} {modified : Moment} {answer : Answer}
    {delivery : Delivery} (looks : s.LooksUp request name) (present : a.file name = .ok (content, modified))
    (answered : (s.answer request a).1 = some answer) (streamed : answer.content = .streamed delivery) :
    ∃ shape, delivery = .of shape (.ofBytes content) := by
  obtain ⟨artifact, fetched, described⟩ := Archive.lookups_of_ok present
  cases looks with
  | artifact _ routed =>
    have meets := s.meets_answerArtifact request name a
    rw [Service.answer, routed, answerRoute] at answered
    rw [answered] at meets
    cases meets with
    | refused other | crashed other => cases fetched.symm.trans other
    | bare => cases streamed
    | streamed found =>
      cases fetched.symm.trans found
      cases streamed
      exact ⟨_, rfl⟩
  | checksum _ routed =>
    rw [Service.answer, routed] at answered
    change some (answerChecksum request name _ a).1 = _ at answered
    rw [answerChecksum_fst, described] at answered
    obtain rfl := Option.some.inj answered
    exact Content.noConfusion streamed

theorem confined (s : Service) (request : Request) (a : Archive) : s.Confined request a where
  opens := by
    rcases s.state_answer request a with same | ⟨name, looks, state⟩
    · exact .inl (congrArg Archive.opened same)
    · rw [state]
      rcases a.opened_inspect name with same | ⟨named, home, atHome, opened⟩
      · exact .inl same
      · exact .inr ⟨name, home, looks, named, atHome, opened⟩
  serves := by
    intro name answer looks answered
    cases file : a.file name with
    | error e =>
      rw [answer_of_file_error looks file] at answered
      cases answered
      unfold Answer.ofStoreError
      split
      · exact .inl rfl
      · exact .inr (.inl rfl)
    | ok found =>
      obtain ⟨-, home, atHome, regular⟩ := Archive.exists_regular_of_file file
      exact .inr (.inr ⟨home, _, _, atHome, regular, fun _ => streamed_of_file_ok looks file answered⟩)
  refuses := by
    intro name looks forbidden
    obtain ⟨file, untouched⟩ := a.file_of_not_isName (Archive.not_isName_iff.2 forbidden)
    have state : (s.answer request a).2 = a := (state_of_looksUp looks).trans (congrArg Prod.snd untouched)
    exact Prod.ext (answer_of_file_error looks file) state

/-! ## Runs of requests -/

section

variable {σ : Type} [Store σ]

/-- The answers to some requests, one after another, and the store after them. -/
def answerAll (s : Service) : List Request → σ → List (Option Answer) × σ
  | [], store => ([], store)
  | request :: rest, store =>
    let (answer, store) := s.answer request store
    let (answers, store) := s.answerAll rest store
    (answer :: answers, store)

end

theorem home_answer (s : Service) (request : Request) (a : Archive) : (s.answer request a).2.home = a.home := by
  rcases s.state_answer request a with same | ⟨name, -, state⟩
  · rw [same]
  · rw [state, a.home_inspect]

/-- Archives that agree give the same answer, and then still agree. -/
theorem answer_agrees {a b : Archive} (agrees : a.Agrees b) (s : Service) (request : Request) :
    (s.answer request a).1 = (s.answer request b).1 ∧ (s.answer request a).2.Agrees (s.answer request b).2 := by
  rw [answer, answer]
  cases s.route request with
  | options | refused | health | nowhere | unreadable => exact ⟨rfl, agrees⟩
  | artifact name =>
    rw [answerRoute, answerRoute, answerArtifact_fst, answerArtifact_fst, snd_answerArtifact, snd_answerArtifact,
      (agrees.lookups name).1]
    exact ⟨rfl, (agrees.inspect name).2⟩
  | checksum name file =>
    change some (answerChecksum request name file a).1 = some (answerChecksum request name file b).1 ∧
      Archive.Agrees (answerChecksum request name file a).2 (answerChecksum request name file b).2
    rw [answerChecksum_fst, answerChecksum_fst, snd_answerChecksum, snd_answerChecksum, (agrees.lookups name).2]
    exact ⟨rfl, (agrees.inspect name).2⟩

theorem answerAll_agrees {a b : Archive} (agrees : a.Agrees b) (s : Service) (requests : List Request) :
    (s.answerAll requests a).1 = (s.answerAll requests b).1 := by
  induction requests generalizing a b with
  | nil => rfl
  | cons request rest ih =>
    obtain ⟨same, still⟩ := answer_agrees agrees s request
    exact congrArg₂ List.cons same (ih still)

/-- Everything that requests open is a child of the directory. -/
theorem opened_answerAll (s : Service) (requests : List Request) (a : Archive) (place : Place)
    (opened : place ∈ (s.answerAll requests a).2.opened) :
    place ∈ a.opened ∨ ∃ request ∈ requests, ∃ name home,
      s.LooksUp request name ∧ Archive.IsName name ∧ a.home = .ok home ∧ place = home ++ [name] := by
  induction requests generalizing a with
  | nil => exact .inl opened
  | cons request rest ih =>
    rcases ih (s.answer request a).2 opened with before | ⟨later, member, name, home, looks, named, atHome, same⟩
    · rcases (s.confined request a).opens with same | ⟨name, home, looks, named, atHome, added⟩
      · exact .inl (same ▸ before)
      · rw [added] at before
        rcases List.mem_cons.1 before with same | before
        · exact .inr ⟨request, List.mem_cons_self, name, home, looks, named, atHome, same⟩
        · exact .inl before
    · rw [home_answer] at atHome
      exact .inr ⟨later, List.mem_cons_of_mem _ member, name, home, looks, named, atHome, same⟩

/-- Whatever is asked of an archive, nothing is opened but children of its directory that a request names, and
nothing is told but of regular files among them. Archives that show the same files cannot be told apart. -/
theorem requests_confined (s : Service) (a : Archive) :
    (∀ request, s.Confined request a) ∧
      (∀ requests, ∀ place ∈ (s.answerAll requests a).2.opened, place ∈ a.opened ∨
        ∃ request ∈ requests, ∃ name home,
          s.LooksUp request name ∧ Archive.IsName name ∧ a.home = .ok home ∧ place = home ++ [name]) ∧
      ∀ b, a.Agrees b → ∀ requests, (s.answerAll requests a).1 = (s.answerAll requests b).1 :=
  ⟨fun request => s.confined request a, fun requests => s.opened_answerAll requests a,
    fun _ agrees => answerAll_agrees agrees s⟩

/-- A file beside the directory does not show, neither by a slash that is encoded nor by dots that are left when a
suffix is taken off. -/
theorem requests_confined_secret :
    let beside : Archive :=
      { top := .directory [("data", .directory [("a", .file [120] ⟨5, 0⟩)]), ("secret", .file [33] ⟨5, 0⟩)]
        root := ["data"] }
    let alone : Archive :=
      { top := .directory [("data", .directory [("a", .file [120] ⟨5, 0⟩)])], root := ["data"] }
    let requests : List Request := ["/artifacts/a", "/artifacts/%2e%2e%2fsecret", "/artifacts/...SHA256SUM"].map
      (.ofPath .get)
    beside.Agrees alone ∧
      (({} : Service).answerAll requests beside).1 = (({} : Service).answerAll requests alone).1 ∧
      (({} : Service).answerAll requests beside).1.map (·.map (·.head.status)) = [some 200, some 404, some 404] ∧
      (({} : Service).answerAll requests beside).2.opened = [["data", "a"]] := by
  intro beside alone requests
  have atHome : beside.home = .ok ["data"] ∧ alone.home = .ok ["data"] := by decide +kernel
  have files : beside.files = alone.files := by
    rw [Archive.files, Archive.files, atHome.1, atHome.2]
    rfl
  have agrees : beside.Agrees alone := ⟨files, rfl⟩
  exact ⟨agrees, (requests_confined {} beside).2.2 alone agrees requests, by decide +kernel, by decide +kernel⟩

end Service

end Depot
