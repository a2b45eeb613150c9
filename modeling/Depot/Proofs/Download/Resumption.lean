import Depot.Proofs.Download.Head

/-!
# Resumed downloads

A client that holds part of an artifact names what it holds in `If-Range`, by the entity tag or by the date of
the last change. A tag is quoted and a date is not, so neither is ever taken for the other
(`IfRange.judge_otherTag`, `IfRange.judge_date`).

* `Download.resumed_by_tag`: the tag of the version at hand changes nothing about the answer, and every other
  tag leads to the whole artifact.
* `Download.resumed_by_date`: a date holds from the second of the last change on, so the date that an answer
  shows changes nothing about the next one.
-/

namespace Depot

/-! ## Conditions -/

theorem toList_strongTag (hash : String) : (strongTag hash).toList = '"' :: (hash.toList ++ ['"']) := by
  simp [strongTag]

theorem strongTag_injective {held hash : String} (same : strongTag held = strongTag hash) : held = hash := by
  have chars := congrArg String.toList same
  rw [toList_strongTag, toList_strongTag, List.cons_inj_right, List.append_left_inj] at chars
  exact String.toList_inj.1 chars

namespace IfRange

theorem judge_sameTag (hash : String) (modified : Option Moment) :
    judge (some (strongTag hash)) (strongTag hash) modified = .sameTag := by
  simp only [judge, if_true]

/-- The tag of another version is not read as a date, whatever the two hashes are. -/
theorem judge_otherTag {held hash : String} (ne : held ≠ hash) (modified : Option Moment) :
    judge (some (strongTag held)) (strongTag hash) modified = .unreadable (strongTag held) := by
  have other : strongTag held ≠ strongTag hash := fun same => ne (strongTag_injective same)
  have noDate : HttpDate.read? (strongTag held) = none := by
    rw [← String.ofList_toList (s := strongTag held), toList_strongTag]
    exact HttpDate.read?_quoted held.toList
  simp only [judge, if_neg other, noDate]

/-- The date of a second is not taken for a tag and is weighed by that second. -/
theorem judge_date {secs : Int} {text : String} (rendered : HttpDate.render? secs = some text) (hash : String)
    (modified : Option Moment) :
    (judge (some text) (strongTag hash) modified).holds = true ↔
      ∀ moment, modified = some moment → moment.secs ≤ secs := by
  have noTag : text ≠ strongTag hash := by
    intro same
    apply (HttpDate.isPlainText_of_render? rendered).2
    rw [same, toList_strongTag]
    rfl
  simp only [judge, if_neg noTag, HttpDate.read?_of_render? rendered]
  cases modified with
  | none => simp [Verdict.holds]
  | some moment => simp [Verdict.holds]

end IfRange

/-! ## Choices -/

namespace Choice

variable {artifact : Artifact} {condition : Option String} (method : Method) (range : Option String)

/-- A condition that holds might as well be left out. -/
theorem of_eq_of_holds
    (holds : (IfRange.judge condition (strongTag artifact.hash) artifact.modified).holds = true) :
    Choice.of artifact ⟨method, range, condition⟩ = Choice.of artifact ⟨method, range, none⟩ := by
  have free : (IfRange.judge none (strongTag artifact.hash) artifact.modified).holds = true := rfl
  simp only [Choice.of, considered, holds, free, if_true]

/-- If the condition does not hold, the whole artifact is served. -/
theorem shape_of_not_holds
    (fails : (IfRange.judge condition (strongTag artifact.hash) artifact.modified).holds = false) :
    (Choice.of artifact ⟨method, range, condition⟩).shape artifact = .whole artifact.size := by
  unfold Choice.of
  split
  · rfl
  · simp only [fails, Bool.false_eq_true, if_false, shape]

end Choice

/-! ## Requests -/

namespace Ask

theorem ofFields_set_condition (method : Method) (fields : Fields) {text : String} (plain : IsPlainText text) :
    ofFields method (fields.set "if-range" (utf8 text)) = ⟨method, firstText fields "range", some text⟩ := by
  have range : firstText (fields.set "if-range" (utf8 text)) "range" = firstText fields "range" := by
    rw [firstText, Fields.get?_set_of_ne (by decide), firstText]
  have condition : firstText (fields.set "if-range" (utf8 text)) "if-range" = some text := by
    rw [firstText, Fields.get?_set_self, Option.map_some, readText?_utf8 plain, Option.getD_some]
  rw [ofFields, range, condition]

theorem ofFields_remove_condition (method : Method) (fields : Fields) :
    ofFields method (fields.remove "if-range") = ⟨method, firstText fields "range", none⟩ := by
  have range : firstText (fields.remove "if-range") "range" = firstText fields "range" := by
    rw [firstText, Fields.get?_remove_of_ne (by decide), firstText]
  have condition : firstText (fields.remove "if-range") "if-range" = none := by
    rw [firstText, Fields.get?_remove_self, Option.map_none]
  rw [ofFields, range, condition]

end Ask

/-! ## Answers -/

namespace Download

theorem frame?_congr (name : String) {artifact : Artifact} {ask other : Ask}
    (same : (Choice.of artifact ask).shape artifact = (Choice.of artifact other).shape artifact) :
    frame? name artifact ask = frame? name artifact other := by
  simp only [frame?, same]

/-- The tag that a client holds either is that of the version at hand, and then the answer is the one without
a condition, or it is not, and then the whole artifact is sent. -/
theorem resumed_by_tag {artifact : Artifact} (dated : artifact.Dated) (name held : String)
    (range : Option String) :
    ∃ download, frame? name artifact ⟨.get, range, some ("\"" ++ held ++ "\"")⟩ = some download ∧
      (held = artifact.hash → frame? name artifact ⟨.get, range, none⟩ = some download) ∧
      (held ≠ artifact.hash → download.shape = .whole artifact.size ∧ download.head.status = 200 ∧
        download.head.fields.get? "content-length" = some (utf8 (decimal artifact.size)) ∧
        frame? name artifact ⟨.get, none, none⟩ = some download) := by
  obtain ⟨download, framed⟩ := exists_frame? dated name ⟨.get, range, some (strongTag held)⟩
  refine ⟨download, framed, ?_, ?_⟩
  · intro same
    have holds : (IfRange.judge (some (strongTag held)) (strongTag artifact.hash)
        artifact.modified).holds = true := by
      rw [same, IfRange.judge_sameTag]
      rfl
    rw [← framed]
    exact frame?_congr name (congrArg (Choice.shape artifact) (Choice.of_eq_of_holds .get range holds).symm)
  · intro ne
    have fails : (IfRange.judge (some (strongTag held)) (strongTag artifact.hash)
        artifact.modified).holds = false := by
      rw [IfRange.judge_otherTag ne]
      rfl
    have whole := Choice.shape_of_not_holds .get range fails
    obtain ⟨date, -, shape, head⟩ := frame?_eq_some_iff.1 framed
    rw [whole] at shape
    rw [shape] at head
    refine ⟨shape, ?_, ?_, ?_⟩
    · rw [head]
      rfl
    · rw [head]
      simp [Head.withShape]
    · rw [← framed]
      exact frame?_congr name whole.symm

/-- The tag of an old version asks for a range of the new one, and the whole new version is sent. -/
theorem resumed_by_stale_tag :
    (Artifact.mk 100 "v2" (some ⟨1700000000, 750000000⟩)).Dated ∧
      ∃ download, frame? "tool.bin" ⟨100, "v2", some ⟨1700000000, 750000000⟩⟩
          ⟨.get, some "bytes=50-", some "\"v1\""⟩ = some download ∧
        download.shape = .whole 100 ∧ download.head.status = 200 := by
  have dated : (Artifact.mk 100 "v2" (some ⟨1700000000, 750000000⟩)).Dated := by
    rintro moment ⟨⟩
    decide
  obtain ⟨download, framed, -, other⟩ := resumed_by_tag dated "tool.bin" "v1" (some "bytes=50-")
  obtain ⟨shape, status, -, -⟩ := other (by decide)
  exact ⟨dated, download, framed, shape, status⟩

/-- A date holds exactly from the second of the last change on. So a client that gives back the date it was
sent is answered as if it had stated no condition, wherever in its second the change lies. -/
theorem resumed_by_date {secs : Int} (since : 0 ≤ secs) (before : secs < 253402300800) :
    ∃ text, HttpDate.render? secs = some text ∧
      (∀ hash modified, (IfRange.judge (some text) (strongTag hash) modified).holds = true ↔
        ∀ moment, modified = some moment → moment.secs ≤ secs) ∧
      ∀ name artifact nanos ask, artifact.modified = some ⟨secs, nanos⟩ →
        ∃ sent value, frame? name artifact ask = some sent ∧
          sent.head.fields.get? "last-modified" = some value ∧
          ∀ fields : Fields, frame? name artifact (Ask.ofFields .get (fields.set "if-range" value)) =
            frame? name artifact (Ask.ofFields .get (fields.remove "if-range")) := by
  obtain ⟨text, rendered⟩ := HttpDate.exists_render? since before
  refine ⟨text, rendered, fun hash modified => IfRange.judge_date rendered hash modified, ?_⟩
  intro name artifact nanos ask known
  have dated : artifact.Dated := by
    intro moment same
    rw [known] at same
    cases same
    exact ⟨since, before⟩
  obtain ⟨sent, framed⟩ := exists_frame? dated name ask
  obtain ⟨text', rendered', -, shown⟩ := (identifies_of_frame? framed).dated _ known
  obtain rfl : text = text' := Option.some.inj (rendered.symm.trans rendered')
  refine ⟨sent, utf8 text, framed, shown, ?_⟩
  intro fields
  have holds : (IfRange.judge (some text) (strongTag artifact.hash) artifact.modified).holds = true := by
    rw [IfRange.judge_date rendered, known]
    rintro moment ⟨⟩
    exact Int.le_refl secs
  have plain := (HttpDate.isPlainText_of_render? rendered).1
  rw [Ask.ofFields_set_condition .get fields plain, Ask.ofFields_remove_condition]
  exact frame?_congr name (congrArg (Choice.shape artifact) (Choice.of_eq_of_holds .get _ holds))

/-- The date of the last second of February 2100 holds for a change within that second and not for one in the
next. -/
theorem resumed_by_date_february :
    ∃ text, HttpDate.render? 4107542399 = some text ∧
      (IfRange.judge (some text) (strongTag "v1") (some ⟨4107542399, 500000000⟩)).holds = true ∧
      (IfRange.judge (some text) (strongTag "v1") (some ⟨4107542400, 0⟩)).holds = false := by
  obtain ⟨text, rendered, weighed, -⟩ :=
    resumed_by_date (show (0 : Int) ≤ 4107542399 by decide) (by decide)
  refine ⟨text, rendered, (weighed _ _).2 ?_, ?_⟩
  · rintro moment ⟨⟩
    decide
  · rw [← Bool.not_eq_true, weighed]
    intro early
    exact absurd (early _ rfl) (by decide)

end Download

end Depot
