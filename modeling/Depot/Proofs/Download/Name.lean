import Depot.Proofs.Download.Head

/-!
# The name of a download

The head of a download names it in one field, and `Download.name_reads_back` says what a receiver makes of that
field: the part of the name that was not cut off if it may be sent, and no name otherwise.
-/

namespace Depot

namespace Head

/-- The attachment name is sent exactly if no control byte but the tab is in the part of the name that is not cut
off. -/
theorem dispositionValue_cases (name : String) :
    (∀ b ∈ utf8 (String.ofList (name.toList.take 78)), (b < 32 → b = 9) ∧ b ≠ 127) ∧
        dispositionValue name = "attachment;filename=" ++ Attachment.encode name ∨
      (∃ b ∈ utf8 (String.ofList (name.toList.take 78)), b < 32 ∧ b ≠ 9 ∨ b = 127) ∧
        dispositionValue name = "attachment" := by
  by_cases free : IsControlFree (String.ofList (name.toList.take 78))
  · exact .inl ⟨free, dispositionValue_of_isControlFree free⟩
  · obtain ⟨b, member, refused⟩ := not_forall₂.1 free
    refine .inr ⟨⟨b, member, ?_⟩, dispositionValue_of_not_isControlFree free⟩
    by_contra allowed
    obtain ⟨low, visible⟩ := not_or.1 allowed
    exact refused ⟨fun control => by_contra fun other => low ⟨control, other⟩, visible⟩

end Head

namespace Download

/-- The value that stands for a name is read back to its end as the first 78 characters of the name, and behind it
stands what was put there; so the name can neither end the value early nor add a parameter, and names of at most 78
characters have different values. Every head of a download under the name has one attachment name, which is this
value unless it has a control byte other than the tab. -/
theorem name_reads_back (name : String) :
    (∀ rest : List Char, (∀ c ∈ rest.head?, c = ';') →
      Attachment.readValue? ((Attachment.encode name).toList ++ rest) = some (name.toList.take 78, rest)) ∧
    Attachment.readDisposition? (Attachment.disposition name).toList =
      some ("attachment".toList, [("filename".toList, name.toList.take 78)]) ∧
    (∀ other : String, name.length ≤ 78 → other.length ≤ 78 →
      Attachment.encode name = Attachment.encode other → name = other) ∧
    ∀ (artifact : Artifact) (ask : Ask),
      ((∃ download, frame? name artifact ask = some download) ↔ artifact.Dated) ∧
      ∀ download, frame? name artifact ask = some download →
        ∃ value,
          download.head.fields.entries.filter (fun field => field.name = "content-disposition") =
            [⟨"content-disposition", utf8 value⟩] ∧
          ((∀ b ∈ utf8 (String.ofList (name.toList.take 78)), (b < 32 → b = 9) ∧ b ≠ 127) ∧
              value = "attachment;filename=" ++ Attachment.encode name ∨
            (∃ b ∈ utf8 (String.ofList (name.toList.take 78)), b < 32 ∧ b ≠ 9 ∨ b = 127) ∧
              value = "attachment") := by
  refine ⟨Attachment.readValue?_encode name, Attachment.readDisposition?_disposition name,
    fun other short otherShort => Attachment.encode_injective short otherShort, fun artifact ask => ?_⟩
  refine ⟨exists_frame?_iff name artifact ask, fun download framed => ?_⟩
  exact ⟨Head.dispositionValue name,
    (identifies_of_frame? framed).distinct.filter_eq (get?_disposition_of_frame? framed),
    Head.dispositionValue_cases name⟩

/-- A name that looks like the end of a value and another parameter is read back as it is. -/
theorem name_reads_back_quoted :
    let name := "a\";b=c"
    let value := Attachment.encode name
    value = "\"a\\\";b=c\"" ∧ (∀ c ∈ ";d=e".toList.head?, c = ';') ∧
      Attachment.readValue? (value.toList ++ ";d=e".toList) = some (name.toList, ";d=e".toList) ∧
      ∃ download, frame? name ⟨1, "c0ffee", none⟩ ⟨.get, none, none⟩ = some download ∧
        download.head.fields.entries.filter (fun field => field.name = "content-disposition") =
          [⟨"content-disposition", utf8 ("attachment;filename=" ++ value)⟩] ∧
        (name.length ≤ 78 ∧ value = Attachment.encode (String.ofList ['a', '"', ';', 'b', '=', 'c'])) ∧
        name = String.ofList ['a', '"', ';', 'b', '=', 'c'] := by
  intro name value
  obtain ⟨readsBack, -, injective, fields⟩ := name_reads_back name
  have written : value = "\"a\\\";b=c\"" := by decide
  have follows : ∀ c ∈ ";d=e".toList.head?, c = ';' := by
    intro c first
    cases first
    rfl
  have whole : name.toList.take 78 = name.toList := by decide
  have short : name.length ≤ 78 := by decide
  have same : value = Attachment.encode (String.ofList ['a', '"', ';', 'b', '=', 'c']) := by decide
  have dated : (Artifact.mk 1 "c0ffee" none).Dated := by
    intro moment changed
    cases changed
  obtain ⟨framable, alone⟩ := fields ⟨1, "c0ffee", none⟩ ⟨.get, none, none⟩
  obtain ⟨download, framed⟩ := framable.2 dated
  have reads := readsBack ";d=e".toList follows
  rw [whole] at reads
  have visible : (utf8 (String.ofList (name.toList.take 78))).all isValueByte = true := by decide
  obtain ⟨sent, only, ⟨-, named⟩ | ⟨⟨b, member, refused⟩, -⟩⟩ := alone download framed
  · exact ⟨written, follows, reads, download, framed, named ▸ only, ⟨short, same⟩,
      injective _ short (by decide) same⟩
  · obtain ⟨low, noDelete⟩ := (isValueByte_iff b).1 (List.all_eq_true.1 visible b member)
    obtain ⟨control, noTab⟩ | delete := refused
    · exact absurd (low control) noTab
    · exact absurd delete noDelete

end Download

end Depot
