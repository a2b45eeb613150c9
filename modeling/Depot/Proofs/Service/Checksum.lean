import Depot.Proofs.Attachment.Disposition
import Depot.Proofs.Service.Answered
import Depot.Proofs.Store.Memory
import Depot.Store.Shelf

/-!
# Checksum files

The checksum file of an artifact lies under the name of the artifact with a suffix. It is looked up in another
way than the artifact and answered with a head of its own. In a `LawfulStore` the two ways find the same artifact
or fail in the same way; archives and shelves are lawful. `Service.checksum_of_download` says how the answers go
together: the checksum file of an artifact that can be downloaded is there if its own name may be sent, and a
store that refuses the artifact refuses its checksum file with the same answer.
-/

namespace Depot

/-! ## Lookups that agree -/

/-- A store that describes what it hands out. -/
class LawfulStore (σ : Type) [Store σ] : Prop where
  describe_eq : ∀ (name : String) (store : σ),
    (Store.describe name store).1 = (Store.fetch name store).1.map Prod.fst

instance : LawfulStore Archive where
  describe_eq name a := by
    change (a.describe name).1 = (a.fetch name).1.map Prod.fst
    unfold Archive.describe Archive.fetch
    rcases a.inspect name with ⟨e | ⟨file, artifact⟩, rest⟩ <;> rfl

instance : LawfulStore Shelf where
  describe_eq name s := by
    change s.describe name = (s.find name).map Prod.fst
    unfold Shelf.describe
    rcases s.find name with ⟨artifact, source⟩ | e | _ <;> rfl

namespace Service

/-! ## Names in paths -/

/-- The path leads to the name: the name is what the rest of the path behind the prefix stands for. -/
def LeadsTo (s : Service) (path name : String) : Prop :=
  ∃ encoded, stripTextPrefix? s.routePrefix path = some encoded ∧ Percent.decode encoded = .ok name

variable {s : Service} {path name : String}

theorem LeadsTo.routePath (leads : s.LeadsTo path name) (unwatched : s.healthEnabled = false) :
    s.routePath path = s.routeName name := by
  obtain ⟨encoded, stripped, decoded⟩ := leads
  have noHealth : ¬ (s.healthEnabled ∧ (path = s.livenessPath ∨ path = s.readinessPath)) := by
    rw [unwatched]
    exact fun both => Bool.false_ne_true both.1
  rw [Service.routePath, if_neg noHealth, stripped]
  dsimp only
  rw [decoded]

theorem routeName_of_not_suffix (plain : ¬ s.checksumSuffix.toList <:+ name.toList) :
    s.routeName name = .artifact name := by
  have kept : stripTextSuffix? s.checksumSuffix name = none := by
    rw [stripTextSuffix?, Option.map_eq_none_iff, Option.eq_none_iff_forall_ne_some]
    intro rest stripped
    exact plain ⟨rest, (stripSuffix?_eq_some_iff.1 stripped).symm⟩
  rw [routeName, kept]

theorem routeName_append_suffix (named : name ≠ "") :
    s.routeName (name ++ s.checksumSuffix) = .checksum name (name ++ s.checksumSuffix) := by
  have stripped : stripTextSuffix? s.checksumSuffix (name ++ s.checksumSuffix) = some name := by
    rw [stripTextSuffix?, String.toList_append, stripSuffix?_eq_some_iff.2 rfl, Option.map_some, String.ofList_toList]
  rw [routeName, stripped]
  exact if_neg named

/-! ## Checksum files -/

/-- The answer is a text file with the given line. -/
structure IsChecksumFile (line : String) (answer : Answer) : Prop where
  status : answer.head.status = 200
  type : answer.head.fields.get? "content-type" = some (utf8 "text/plain")
  length : answer.head.fields.get? "content-length" = some (utf8 (decimal (utf8 line).length))
  body : answer.content.received = (utf8 line, none)

/-- A checksum file that `GET` asks for is answered if its name may be sent, and is a failure otherwise. -/
theorem checksum_cases (hash artifact file : String) :
    (IsControlFree (String.ofList (file.toList.take 78)) →
        IsChecksumFile (hash ++ "  " ++ artifact)
          (.ofReply (.checksum (checksumLine hash artifact) (Attachment.disposition file) false))) ∧
      (¬ IsControlFree (String.ofList (file.toList.take 78)) →
        Answer.ofReply (.checksum (checksumLine hash artifact) (Attachment.disposition file) false) =
            .ofReply .serverError ∧
          (Answer.ofReply (.checksum (checksumLine hash artifact) (Attachment.disposition file) false)).head.status =
            500) := by
  have sendable_iff : Head.isSendable (Attachment.disposition file) = true ↔
      IsControlFree (String.ofList (file.toList.take 78)) := by
    rw [Attachment.isSendable_disposition, Head.isSendable_iff]
    rfl
  rw [← checksumLine]
  constructor
  · intro free
    rw [Reply.checksum, if_pos (sendable_iff.2 free)]
    exact ⟨rfl, rfl, rfl, rfl⟩
  · intro control
    rw [Reply.checksum, if_neg (mt sendable_iff.1 control)]
    exact ⟨rfl, rfl⟩

variable {σ : Type} [Store σ] [LawfulStore σ]

/-- Take a name that is not that of a checksum file. Whatever is asked for besides, its checksum file has an answer.
If the artifact is answered with 200, then this is the file with its hash and name, provided that the first 78
characters of the name of the file hold no byte that a field value may not have, and otherwise a failure of the
service. If the store refuses the artifact, then this is the same refusal. -/
theorem checksum_of_download {get sum : Request} (store : σ) (unwatched : s.healthEnabled = false)
    (named : name ≠ "") (plain : ¬ s.checksumSuffix.toList <:+ name.toList)
    (getMethod : get.method = .get) (getLeads : s.LeadsTo get.path name)
    (sumMethod : sum.method = .get) (sumLeads : s.LeadsTo sum.path (name ++ s.checksumSuffix)) :
    ∃ second, (s.answer sum store).1 = some second ∧ ∀ first, (s.answer get store).1 = some first →
      (first.head.status = 200 → ∃ artifact source, (Store.fetch name store).1 = .found (artifact, source) ∧
        (IsControlFree (String.ofList ((name ++ s.checksumSuffix).toList.take 78)) →
          IsChecksumFile (artifact.hash ++ "  " ++ name) second) ∧
        (¬ IsControlFree (String.ofList ((name ++ s.checksumSuffix).toList.take 78)) →
          second = .ofReply .serverError ∧ second.head.status = 500)) ∧
      (first.head.status = 404 ∨ first.head.status = 500 → second = first) := by
  have getRoute : s.route get = .artifact name := by
    rw [route, getMethod]
    exact (getLeads.routePath unwatched).trans (routeName_of_not_suffix plain)
  have sumRoute : s.route sum = .checksum name (name ++ s.checksumSuffix) := by
    rw [route, sumMethod]
    exact (sumLeads.routePath unwatched).trans (routeName_append_suffix named)
  refine ⟨(answerChecksum sum name (name ++ s.checksumSuffix) store).1, ?_, fun first answered => ?_⟩
  · rw [Service.answer, sumRoute, answerRoute]
  rw [Service.answer, getRoute, answerRoute] at answered
  have meets := s.meets_answerArtifact get name store
  rw [answered] at meets
  have full : decide (sum.method = .head) = false := by
    rw [sumMethod]
    rfl
  rw [answerChecksum_fst, LawfulStore.describe_eq, full]
  cases meets with
  | @refused e fetched =>
    rw [fetched]
    exact ⟨fun ok => absurd ok (Answer.not_ok_ofStoreError e), fun _ => rfl⟩
  | crashed fetched =>
    rw [fetched]
    exact ⟨fun ok => (by cases ok), fun _ => rfl⟩
  | bare fetched framed =>
    rw [fetched, Lookup.map]
    dsimp only
    exact ⟨fun _ => ⟨_, _, rfl, checksum_cases _ _ _⟩, fun failed => absurd failed (status_ne_of_frame? framed)⟩
  | streamed fetched framed =>
    rw [fetched, Lookup.map]
    dsimp only
    exact ⟨fun _ => ⟨_, _, rfl, checksum_cases _ _ _⟩, fun failed => absurd failed (status_ne_of_frame? framed)⟩

/-- A name that has to be put in quotes. -/
theorem checksum_of_download_quoted :
    let s : Service := { healthEnabled := false }
    let shelf : Shelf := ⟨[("a;b", .kept ⟨1, "c0ffee", none⟩ (.ofBytes [120]))]⟩
    ∃ second, (s.answer (.ofPath .get "/artifacts/a%3Bb.SHA256SUM") shelf).1 =
      some second ∧ IsChecksumFile "c0ffee  a;b" second := by
  intro s shelf
  let get : Request := .ofPath .get "/artifacts/a;b"
  let sum : Request := .ofPath .get "/artifacts/a%3Bb.SHA256SUM"
  have getLeads : s.LeadsTo get.path "a;b" := ⟨"a;b", by decide, by decide⟩
  have sumLeads : s.LeadsTo sum.path ("a;b" ++ s.checksumSuffix) := ⟨"a%3Bb.SHA256SUM", by decide, by decide⟩
  obtain ⟨second, answered, agrees⟩ :=
    checksum_of_download shelf rfl (by decide) (by decide) rfl getLeads rfl sumLeads
  have complete : ((s.answer get shelf).1.map fun first => first.head.status) = some 200 := by decide
  obtain ⟨first, downloaded, ok⟩ := Option.map_eq_some_iff.1 complete
  obtain ⟨artifact, source, found, file, -⟩ := (agrees first downloaded).1 ok
  cases found
  exact ⟨second, answered, file (Head.isSendable_iff.1 (by decide))⟩

/-- The name of an artifact is a control character. The artifact can be downloaded, under no name; its checksum
file cannot. -/
theorem no_checksum_of_download_control :
    let s : Service := { healthEnabled := false }
    let shelf : Shelf := ⟨[("\x01", .kept ⟨1, "c0ffee", none⟩ (.ofBytes [120]))]⟩
    (s.answer (.ofPath .get "/artifacts/%01") shelf).1.map
        (fun answer => answer.head.status) = some 200 ∧
      (s.answer (.ofPath .get "/artifacts/%01.SHA256SUM") shelf).1.map
        (fun answer => answer.head.status) = some 500 := by
  decide

end Service

end Depot
