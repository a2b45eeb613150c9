import Depot.Proofs.Download.Complete
import Depot.Proofs.Download.Resumption

/-!
# Values that cannot be read

The text that stands for a value that cannot be read is no range header (`RangeHeader.windows_unreadable`), and it is
neither the tag of a version nor a date (`IfRange.judge_unreadable`). So such a value is never mistaken for one that
could be read: `Download.unreadable_never_ranged` says that no part of an artifact is sent on account of it.

`IfRange.Applies` states when a condition holds, of the bytes that were sent and without that text.
-/

namespace Depot

/-- Some byte of the value does not stand for a character of its own. -/
def IsUnreadable (value : Bytes) : Prop :=
  ∃ b ∈ value, ¬ (b = 9 ∨ 32 ≤ b ∧ b ≤ 126)

theorem readText?_eq_none_iff {value : Bytes} : readText? value = none ↔ IsUnreadable value := by
  have unreadable : value.all isTextByte = false ↔ IsUnreadable value := by
    simp [IsUnreadable, isTextByte]
  rw [← unreadable, readText?]
  cases value.all isTextByte <;> simp

/-! ## Conditions -/

namespace IfRange

/-- The condition of a request holds of an artifact. There is none, or it can be read and is the tag of the version or
a date that is not before the second of the last change. -/
def Applies (condition : Option Bytes) (artifact : Artifact) : Prop :=
  ∀ value, condition = some value → ∃ text, readText? value = some text ∧
    (text = "\"" ++ artifact.hash ++ "\"" ∨
      ∃ secs, HttpDate.read? text = some secs ∧ ∀ moment, artifact.modified = some moment → moment.secs ≤ secs)

/-- A condition that could not be read is no tag, whatever the hash is, and no date. -/
theorem judge_unreadable (hash : String) (modified : Option Moment) :
    judge (some Ask.unreadable) (strongTag hash) modified = .unreadable Ask.unreadable := by
  have noTag : Ask.unreadable ≠ strongTag hash := by
    intro same
    have quoted : Ask.unreadable.toList.head? = some '"' := by
      rw [same, toList_strongTag]
      rfl
    exact absurd quoted (by decide)
  have noDate : HttpDate.read? Ask.unreadable = none := by decide
  simp only [judge, if_neg noTag, noDate]

theorem judge_holds_iff (text : String) (artifact : Artifact) :
    (judge (some text) (strongTag artifact.hash) artifact.modified).holds = true ↔
      text = "\"" ++ artifact.hash ++ "\"" ∨
        ∃ secs, HttpDate.read? text = some secs ∧ ∀ moment, artifact.modified = some moment → moment.secs ≤ secs := by
  change _ ↔ text = strongTag artifact.hash ∨ _
  by_cases tag : text = strongTag artifact.hash
  · simp [judge, tag, Verdict.holds]
  · cases read : HttpDate.read? text with
    | none => simp [judge, tag, read, Verdict.holds]
    | some secs => cases artifact.modified <;> simp [judge, tag, read, Verdict.holds]

/-- The verdict on what a request asks is that on the bytes that it sent. -/
theorem holds_iff_applies (fields : Fields) (artifact : Artifact) :
    (judge (Ask.firstText fields "if-range") (strongTag artifact.hash) artifact.modified).holds = true ↔
      Applies (fields.get? "if-range") artifact := by
  cases sent : fields.get? "if-range" with
  | none => simp [Ask.firstText, sent, Applies, judge, Verdict.holds]
  | some value =>
    rw [Ask.firstText, sent, Option.map_some]
    cases read : readText? value with
    | none => simp [Applies, read, judge_unreadable, Verdict.holds]
    | some text => simp [Applies, read, judge_holds_iff]

theorem not_applies_of_unreadable {value : Bytes} (unreadable : IsUnreadable value) (artifact : Artifact) :
    ¬ Applies (some value) artifact := by
  intro applies
  obtain ⟨text, read, -⟩ := applies value rfl
  rw [readText?_eq_none_iff.2 unreadable] at read
  cases read

end IfRange

/-! ## Ranges -/

theorem RangeHeader.windows_unreadable (total : Nat) :
    windows Ask.unreadable total = .error (.unsupportedUnit Ask.unreadable) := by
  have noUnit : stripPrefix? unit.toList Ask.unreadable.toList = none := by decide
  rw [windows, noUnit]

namespace Choice

variable {artifact : Artifact} {fields : Fields}

/-- If the condition of a range does not hold, the whole artifact is served. -/
theorem shape_of_not_applies (fails : ¬ IfRange.Applies (fields.get? "if-range") artifact) :
    (Choice.of artifact (.ofFields .get fields)).shape artifact = .whole artifact.size := by
  refine shape_of_not_holds .get _ (Bool.eq_false_iff.2 fun holds => fails ?_)
  exact (IfRange.holds_iff_applies fields artifact).1 holds

/-- A range that cannot be read is refused if its condition holds. -/
theorem shape_of_unreadable_range {value : Bytes} (sent : fields.get? "range" = some value)
    (unreadable : IsUnreadable value) (applies : IfRange.Applies (fields.get? "if-range") artifact) :
    (Choice.of artifact (.ofFields .get fields)).shape artifact = .unsatisfiable := by
  have range : Ask.firstText fields "range" = some Ask.unreadable := by
    rw [Ask.firstText, sent, Option.map_some, readText?_eq_none_iff.2 unreadable, Option.getD_none]
  have holds := (IfRange.holds_iff_applies fields artifact).2 applies
  rw [Ask.ofFields, Choice.of_eq_of_holds .get _ holds, range]
  simp only [Choice.of, considered, if_true, IfRange.judge, IfRange.Verdict.holds, RangeHeader.windows_unreadable,
    shape]

end Choice

/-! ## Answers -/

namespace Download

/-- The download is the answer to a `GET` that asks for no range. -/
def SendsAll (name : String) (artifact : Artifact) (download : Download) : Prop :=
  download.shape = .whole artifact.size ∧ download.head.status = 200 ∧
    frame? name artifact ⟨.get, none, none⟩ = some download

theorem sendsAll_of_shape {name : String} {artifact : Artifact} {ask : Ask} {download : Download}
    (framed : frame? name artifact ask = some download)
    (whole : (Choice.of artifact ask).shape artifact = .whole artifact.size) : SendsAll name artifact download := by
  have shape := (shape_of_frame? framed).trans whole
  refine ⟨shape, ?_, ?_⟩
  · rw [status_of_frame? framed, shape]
    rfl
  · rw [← framed]
    exact frame?_congr name whole.symm

/-- Of all fields of a `GET`, the first range and the first condition settle the answer. If that range cannot be read,
it is refused or, if its condition does not hold, all of the artifact is sent; if that condition cannot be read, all of
the artifact is sent. -/
theorem unreadable_never_ranged {artifact : Artifact} (dated : artifact.Dated) (name : String) (fields : Fields) :
    ∃ download, frame? name artifact (.ofFields .get fields) = some download ∧
      (∀ other : Fields, other.get? "range" = fields.get? "range" →
        other.get? "if-range" = fields.get? "if-range" →
          frame? name artifact (.ofFields .get other) = some download) ∧
      (∀ range, fields.get? "range" = some range → IsUnreadable range →
        download.head.status ≠ 206 ∧
        (IfRange.Applies (fields.get? "if-range") artifact →
          download.shape = .unsatisfiable ∧ download.head.status = 416) ∧
        (¬ IfRange.Applies (fields.get? "if-range") artifact → SendsAll name artifact download)) ∧
      ∀ condition, fields.get? "if-range" = some condition → IsUnreadable condition →
        SendsAll name artifact download := by
  obtain ⟨download, framed⟩ := exists_frame? dated name (.ofFields .get fields)
  have whole (fails : ¬ IfRange.Applies (fields.get? "if-range") artifact) : SendsAll name artifact download :=
    sendsAll_of_shape framed (Choice.shape_of_not_applies fails)
  refine ⟨download, framed, fun other range condition => ?_, fun range sent unreadable => ?_, ?_⟩
  · have same : Ask.ofFields .get other = Ask.ofFields .get fields := by
      simp only [Ask.ofFields, Ask.firstText, range, condition]
    rw [same, framed]
  · have refused (applies : IfRange.Applies (fields.get? "if-range") artifact) :
        download.shape = .unsatisfiable ∧ download.head.status = 416 := by
      have shape := (shape_of_frame? framed).trans (Choice.shape_of_unreadable_range sent unreadable applies)
      refine ⟨shape, ?_⟩
      rw [status_of_frame? framed, shape]
      rfl
    refine ⟨?_, refused, whole⟩
    by_cases applies : IfRange.Applies (fields.get? "if-range") artifact
    · rw [(refused applies).2]
      decide
    · rw [(whole applies).2.1]
      decide
  · intro condition sent unreadable
    rw [sent] at whole
    exact whole (IfRange.not_applies_of_unreadable unreadable artifact)

/-- A range with a byte outside ASCII is refused although a range that can be read follows it. -/
theorem unreadable_never_ranged_repeated :
    (Artifact.mk 100 "v1" none).Dated ∧ IsUnreadable (utf8 "bytes=0-9" ++ [255]) ∧
      ∃ download, frame? "tool.bin" ⟨100, "v1", none⟩ (.ofFields .get
          ⟨[⟨"range", utf8 "bytes=0-9" ++ [255]⟩, ⟨"range", utf8 "bytes=0-9"⟩]⟩) = some download ∧
        download.shape = .unsatisfiable ∧ download.head.status = 416 := by
  have dated : (Artifact.mk 100 "v1" none).Dated := by
    rintro moment ⟨⟩
  have unreadable : IsUnreadable (utf8 "bytes=0-9" ++ [255]) := by
    refine ⟨255, List.mem_append_right _ List.mem_cons_self, ?_⟩
    decide
  obtain ⟨download, framed, -, onRange, -⟩ := unreadable_never_ranged dated "tool.bin"
    ⟨[⟨"range", utf8 "bytes=0-9" ++ [255]⟩, ⟨"range", utf8 "bytes=0-9"⟩]⟩
  obtain ⟨-, refused, -⟩ := onRange _ rfl unreadable
  have unconditional : IfRange.Applies none ⟨100, "v1", none⟩ := by
    rintro value ⟨⟩
  exact ⟨dated, unreadable, download, framed, refused unconditional⟩

end Download

end Depot
