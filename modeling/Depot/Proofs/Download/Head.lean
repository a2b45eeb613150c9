import Depot.Download.Head
import Depot.Proofs.Attachment.Reading
import Depot.Proofs.Calendar.HttpDate

/-!
# The head of a download

An artifact can be framed exactly if its last change is unknown or has an HTTP date, whatever is asked for
(`Download.exists_frame?_iff`). `Head.Identifies` is what the head then says of the artifact itself: its name,
its tag, its date and how it may be asked for, each in one field and whatever the request was
(`Download.identifies_of_frame?`). The fields that describe the body leave these alone (`Head.get?_withShape`).
-/

namespace Depot

/-! ## Setting fields -/

namespace Fields

@[simp] theorem get?_setText (fields : Fields) (name value other : String) :
    (fields.setText name value).get? other =
      if name = other then some (utf8 value) else fields.get? other := by
  unfold setText
  split
  · rename_i same
    subst same
    exact get?_set_self fields name (utf8 value)
  · rename_i ne
    exact get?_set_of_ne ne

@[simp] theorem get?_empty (name : String) : ({} : Fields).get? name = none :=
  rfl

/-- No two fields have one name. -/
def Distinct (fields : Fields) : Prop :=
  (fields.entries.map Field.name).Nodup

theorem distinct_empty : Distinct {} :=
  List.nodup_nil

theorem Distinct.setText {fields : Fields} (distinct : fields.Distinct) (name value : String) :
    (fields.setText name value).Distinct := by
  have others : ((fields.remove name).entries.map Field.name).Nodup :=
    distinct.sublist (List.filter_sublist.map Field.name)
  have fresh : name ∉ (fields.remove name).entries.map Field.name := by
    intro member
    obtain ⟨field, kept, same⟩ := List.mem_map.1 member
    have ne : field.name ≠ name := by simpa using (List.mem_filter.1 kept).2
    exact ne same
  unfold Distinct Fields.setText Fields.set Fields.add
  rw [List.map_append, List.nodup_append]
  refine ⟨others, List.pairwise_singleton _ name, ?_⟩
  rintro other member _ (_ | ⟨_, ⟨⟩⟩) rfl
  exact fresh member

/-- If names are distinct, the first field of a name is the only one. -/
theorem Distinct.filter_eq {fields : Fields} (distinct : fields.Distinct) {name : String} {value : Bytes}
    (found : fields.get? name = some value) :
    fields.entries.filter (fun field => field.name = name) = [⟨name, value⟩] := by
  obtain ⟨field, first, rfl⟩ := Option.map_eq_some_iff.1 found
  have named : field.name = name := by simpa using List.find?_some first
  rw [← List.head?_filter] at first
  have single : ((fields.entries.filter fun field => field.name = name).map Field.name).Nodup :=
    distinct.sublist (List.filter_sublist.map Field.name)
  have same : ∀ other ∈ fields.entries.filter (fun field => field.name = name), other.name = name := by
    simp
  generalize fields.entries.filter (fun field => field.name = name) = chosen at first single same
  rcases chosen with _ | ⟨head, _ | ⟨second, rest⟩⟩
  · cases first
  · cases first
    rw [← named]
  · have repeated : head.name = second.name :=
      (same head List.mem_cons_self).trans (same second (by simp)).symm
    exact absurd (repeated ▸ List.mem_cons_self) (List.nodup_cons.1 single).1

end Fields

/-! ## Dates -/

/-- The last change is unknown or lies in the years 1970 to 9999. -/
def Artifact.Dated (a : Artifact) : Prop :=
  ∀ moment, a.modified = some moment → 0 ≤ moment.secs ∧ moment.secs < 253402300800

theorem Artifact.Dated.exists_dateText? {artifact : Artifact} (dated : artifact.Dated) :
    ∃ date, Head.dateText? artifact.modified = some date := by
  unfold Head.dateText?
  split
  · exact ⟨none, rfl⟩
  · rename_i moment known
    obtain ⟨since, before⟩ := dated moment known
    obtain ⟨text, rendered⟩ := HttpDate.exists_render? since before
    exact ⟨some text, by rw [rendered, Option.map_some]⟩

theorem Artifact.dated_of_dateText? {artifact : Artifact} {date : Option String}
    (written : Head.dateText? artifact.modified = some date) : artifact.Dated := by
  intro moment known
  rw [known, Head.dateText?] at written
  obtain ⟨text, rendered, -⟩ := Option.map_eq_some_iff.1 written
  unfold HttpDate.render? at rendered
  split at rendered
  · rename_i inside
    exact inside
  · cases rendered

/-! ## Fields of the artifact -/

namespace Head

/-- The head says what the artifact is, each thing in one field: a receiver reads the first 78 characters of its
name, its hash in quotes and the second of its last change. -/
structure Identifies (name : String) (artifact : Artifact) (head : Head) : Prop where
  distinct : head.fields.Distinct
  named : IsControlFree (String.ofList (name.toList.take 78)) →
    ∃ value, Attachment.readValue? value.toList = some (name.toList.take 78, []) ∧
      head.fields.get? "content-disposition" = some (utf8 ("attachment;filename=" ++ value))
  unnamed : ¬ IsControlFree (String.ofList (name.toList.take 78)) →
    head.fields.get? "content-disposition" = some (utf8 "attachment")
  tagged : IsControlFree artifact.hash →
    head.fields.get? "etag" = some (utf8 ("\"" ++ artifact.hash ++ "\""))
  untagged : ¬ IsControlFree artifact.hash → head.fields.get? "etag" = none
  undated : artifact.modified = none → head.fields.get? "last-modified" = none
  dated : ∀ moment, artifact.modified = some moment →
    ∃ text, HttpDate.render? moment.secs = some text ∧ HttpDate.read? text = some moment.secs ∧
      head.fields.get? "last-modified" = some (utf8 text)
  ranges : head.fields.get? "accept-ranges" = some (utf8 "bytes")
  unsniffed : head.fields.get? "x-content-type-options" = some (utf8 "nosniff")

theorem dispositionValue_of_isControlFree {name : String}
    (free : IsControlFree (String.ofList (name.toList.take 78))) :
    dispositionValue name = "attachment;filename=" ++ Attachment.encode name :=
  if_pos ((Attachment.isSendable_disposition name).trans (isSendable_iff.2 free))

theorem dispositionValue_of_not_isControlFree {name : String}
    (control : ¬ IsControlFree (String.ofList (name.toList.take 78))) : dispositionValue name = "attachment" :=
  if_neg fun sendable => control (isSendable_iff.1 ((Attachment.isSendable_disposition name).symm.trans sendable))

/-- The quotes around a hash may always be sent. -/
theorem isSendable_strongTag_iff (hash : String) : isSendable (strongTag hash) = true ↔ IsControlFree hash := by
  have quote : isSendable "\"" = true := by decide
  rw [strongTag, isSendable_append, isSendable_append, quote, Bool.true_and, Bool.and_true, isSendable_iff]

theorem distinct_withShape (artifact : Artifact) (shape : Shape) {fields : Fields}
    (distinct : fields.Distinct) : (withShape artifact shape fields).Distinct := by
  cases shape with
  | whole => exact distinct.setText _ _
  | single => exact (distinct.setText _ _).setText _ _
  | parts => exact distinct.setText _ _
  | unsatisfiable => exact distinct.setText _ _

theorem distinct_artifactFields (name : String) (date : Option String) (artifact : Artifact) :
    (artifactFields name date artifact).Distinct := by
  have named := Fields.distinct_empty.setText "content-disposition" (dispositionValue name)
  have dated : (withDate date (({} : Fields).setText "content-disposition"
      (dispositionValue name))).Distinct := by
    cases date with
    | none => exact named
    | some text => exact named.setText _ _
  have tagged : (withTag artifact.hash (withDate date (({} : Fields).setText "content-disposition"
      (dispositionValue name)))).Distinct := by
    unfold withTag
    split
    · exact dated.setText _ _
    · exact dated
  exact ((tagged.setText _ _).setText _ _).setText _ _

/-- A field that does not describe the body is that of the artifact. -/
theorem get?_withShape (artifact : Artifact) (shape : Shape) (fields : Fields) {name : String}
    (noLength : "content-length" ≠ name) (noPlace : "content-range" ≠ name)
    (noType : "content-type" ≠ name) : (withShape artifact shape fields).get? name = fields.get? name := by
  cases shape <;> simp [withShape, noLength, noPlace, noType]

theorem get?_withDate (date : Option String) (fields : Fields) (name : String) :
    (withDate date fields).get? name =
      if "last-modified" = name then (date.map utf8).or (fields.get? name) else fields.get? name := by
  cases date with
  | none => simp [withDate]
  | some text => simp [withDate]

theorem get?_withTag (hash : String) (fields : Fields) (name : String) :
    (withTag hash fields).get? name =
      if isSendable (strongTag hash) = true ∧ "etag" = name then some (utf8 (strongTag hash))
      else fields.get? name := by
  unfold withTag
  split
  · rename_i sendable
    simp [sendable]
  · rename_i unsendable
    simp [unsendable]

end Head

namespace Download

variable {name : String} {artifact : Artifact} {ask : Ask} {download : Download}

/-- A download is framed exactly if the last change can be written as a date, in one way. -/
theorem frame?_eq_some_iff :
    frame? name artifact ask = some download ↔
      ∃ date, Head.dateText? artifact.modified = some date ∧
        download.shape = (Choice.of artifact ask).shape artifact ∧
        download.head = ⟨download.shape.status,
          Head.withShape artifact download.shape (Head.artifactFields name date artifact)⟩ := by
  unfold frame? Head.frame?
  constructor
  · intro framed
    obtain ⟨head, headed, rfl⟩ := Option.map_eq_some_iff.1 framed
    obtain ⟨date, written, rfl⟩ := Option.map_eq_some_iff.1 headed
    exact ⟨date, written, rfl, rfl⟩
  · rintro ⟨date, written, shape, head⟩
    obtain ⟨head', shape'⟩ := download
    dsimp only at shape head
    subst shape head
    simp only [written, Option.map_some]

/-- A download can be framed whatever is asked for. -/
theorem exists_frame? (dated : artifact.Dated) (name : String) (ask : Ask) :
    ∃ download, frame? name artifact ask = some download := by
  obtain ⟨date, written⟩ := dated.exists_dateText?
  simp only [frame?, Head.frame?, written, Option.map_some]
  exact ⟨_, rfl⟩

/-- Whether a download can be framed is decided by the last change alone. -/
theorem exists_frame?_iff (name : String) (artifact : Artifact) (ask : Ask) :
    (∃ download, frame? name artifact ask = some download) ↔ artifact.Dated := by
  constructor
  · intro ⟨download, framed⟩
    obtain ⟨date, written, -⟩ := frame?_eq_some_iff.1 framed
    exact Artifact.dated_of_dateText? written
  · intro dated
    exact exists_frame? dated name ask

theorem status_of_frame? (framed : frame? name artifact ask = some download) :
    download.head.status = download.shape.status := by
  obtain ⟨date, -, -, head⟩ := frame?_eq_some_iff.1 framed
  rw [head]

theorem get?_disposition_of_frame? (framed : frame? name artifact ask = some download) :
    download.head.fields.get? "content-disposition" = some (utf8 (Head.dispositionValue name)) := by
  obtain ⟨date, -, -, head⟩ := frame?_eq_some_iff.1 framed
  simp [head, Head.get?_withShape, Head.artifactFields, Head.get?_withTag, Head.get?_withDate]

theorem identifies_of_frame? (framed : frame? name artifact ask = some download) :
    download.head.Identifies name artifact := by
  have disposition := get?_disposition_of_frame? framed
  obtain ⟨date, written, -, head⟩ := frame?_eq_some_iff.1 framed
  have sendable := Head.isSendable_strongTag_iff artifact.hash
  constructor
  · rw [head]
    exact Head.distinct_withShape artifact download.shape (Head.distinct_artifactFields name date artifact)
  · intro free
    have read := Attachment.readValue?_encode name [] (by simp)
    rw [List.append_nil] at read
    rw [disposition, Head.dispositionValue_of_isControlFree free]
    exact ⟨Attachment.encode name, read, rfl⟩
  · intro control
    rw [disposition, Head.dispositionValue_of_not_isControlFree control]
  · intro free
    change _ = some (utf8 (strongTag artifact.hash))
    simp [head, Head.get?_withShape, Head.artifactFields, Head.get?_withTag, sendable.2 free]
  · intro control
    simp [head, Head.get?_withShape, Head.artifactFields, Head.get?_withTag, Head.get?_withDate,
      mt sendable.1 control]
  · intro unknown
    rw [unknown, Head.dateText?] at written
    cases written
    simp [head, Head.get?_withShape, Head.artifactFields, Head.get?_withTag, Head.get?_withDate]
  · intro moment known
    rw [known, Head.dateText?] at written
    obtain ⟨text, rendered, rfl⟩ := Option.map_eq_some_iff.1 written
    refine ⟨text, rendered, HttpDate.read?_of_render? rendered, ?_⟩
    simp [head, Head.get?_withShape, Head.artifactFields, Head.get?_withTag, Head.get?_withDate]
  · simp [head, Head.get?_withShape, Head.artifactFields]
  · simp [head, Head.get?_withShape, Head.artifactFields]

end Download

end Depot
