import Depot.Attachment.Reader
import Depot.Proofs.Attachment.Disposition

/-!
# Attachment names are read back

A receiver that reads the attachment name of a download gets the part of the name that was sent, and nothing else:
behind the value stands what was put there, whatever the name is (`Attachment.readValue?_encode`), so the name adds
no parameter of its own (`Attachment.readDisposition?_disposition`). Names that are not cut off are told apart by
what is sent (`Attachment.encode_injective`).
-/

namespace Depot

namespace Attachment

/-! ## Values -/

/-- An escaped text ends at the quote behind it and not before. -/
theorem readQuoted?_escape (chars rest : List Char) :
    readQuoted? (escape chars ++ '"' :: rest) = some (chars, rest) := by
  induction chars with
  | nil => rfl
  | cons c later ih =>
    unfold escape
    by_cases special : c = '"' ∨ c = '\\'
    · rw [if_pos special]
      change (readQuoted? (escape later ++ '"' :: rest)).map _ = _
      rw [ih]
      rfl
    · obtain ⟨noQuote, noBackslash⟩ := not_or.1 special
      rw [if_neg special, List.cons_append, readQuoted?, ih]
      · rfl
      · exact noQuote
      · intro d behind same
        exact absurd same noBackslash

/-- A value is put in quotes for exactly those characters at which a receiver takes a bare one to end. -/
theorem specials_eq_tspecials : specials = tspecials := by
  decide

/-- A value is read back to its end, whatever name it stands for, if nothing or another parameter follows. -/
theorem readValue?_encode (name : String) (rest : List Char) (ends : ∀ c ∈ rest.head?, c = ';') :
    readValue? ((encode name).toList ++ rest) = some (shorten name, rest) := by
  unfold encode
  split
  · rw [String.toList_ofList, List.cons_append, List.cons_append, List.append_assoc, readValue?]
    exact readQuoted?_escape (shorten name) rest
  · rename_i bare
    rw [String.toList_ofList]
    have plain : ∀ c ∈ shorten name, (!tspecials.contains c) = true := by
      intro c member
      cases special : tspecials.contains c with
      | false => rfl
      | true =>
        rw [← specials_eq_tspecials] at special
        exact absurd (List.any_eq_true.2 ⟨c, member, special⟩) bare
    -- Neither the name nor what follows begins with a quote, so the value is read as a bare one.
    have noQuote : ∀ later, shorten name ++ rest ≠ '"' :: later := by
      intro later same
      cases front : shorten name with
      | nil =>
        rw [front, List.nil_append] at same
        have quote := ends '"' (by rw [same]; rfl)
        exact absurd quote (by decide)
      | cons c chars =>
        rw [front, List.cons_append] at same
        have quote : c = '"' := (List.cons.inj same).1
        have special := plain c (front ▸ List.mem_cons_self)
        rw [quote] at special
        exact absurd special (by decide)
    unfold readValue?
    split
    · rename_i later same
      exact absurd same (noQuote later)
    · rw [List.takeWhile_append_of_pos plain, List.dropWhile_append_of_pos plain]
      rcases rest with _ | ⟨c, later⟩
      · rw [List.takeWhile_nil, List.append_nil, List.dropWhile_nil]
      · obtain rfl := ends c rfl
        rw [List.takeWhile_cons_of_neg (by decide), List.append_nil, List.dropWhile_cons_of_neg (by decide)]

/-- Names that are not cut off have different values. -/
theorem encode_injective {name other : String} (short : name.length ≤ maxLength)
    (otherShort : other.length ≤ maxLength) (same : encode name = encode other) : name = other := by
  have whole : ∀ {name : String}, name.length ≤ maxLength → shorten name = name.toList := fun short =>
    List.take_of_length_le (String.length_toList ▸ short)
  have read := readValue?_encode name [] (by simp)
  rw [same, readValue?_encode other [] (by simp)] at read
  have chars := congrArg Prod.fst (Option.some.inj read)
  rw [whole short, whole otherShort] at chars
  exact String.toList_inj.1 chars.symm

/-! ## Parameters -/

/-- A parameter is read up to the end of its value. -/
theorem readParameters?_cons {name value chars behind : List Char} (named : ∀ c ∈ name, c ≠ '=')
    (read : readValue? value = some (chars, behind)) :
    readParameters? (';' :: (name ++ '=' :: value)) =
      (readParameters? behind).map fun others => (name, chars) :: others := by
  have plain : ∀ c ∈ name, decide (c ≠ '=') = true := fun c member => decide_eq_true (named c member)
  have front : (name ++ '=' :: value).takeWhile (· ≠ '=') = name := by
    rw [List.takeWhile_append_of_pos plain, List.takeWhile_cons_of_neg (by decide), List.append_nil]
  have back : (name ++ '=' :: value).dropWhile (· ≠ '=') = '=' :: value := by
    rw [List.dropWhile_append_of_pos plain, List.dropWhile_cons_of_neg (by decide)]
  rw [readParameters?, front]
  split
  · rename_i assigned
    rw [back] at assigned
    cases assigned
  · rename_i assigned
    rw [back] at assigned
    cases assigned
    split
    · rename_i result
      rw [read] at result
      cases result
    · rename_i result
      rw [read] at result
      cases result
      rfl

/-- The name is the only parameter that is read, whatever characters it has. -/
theorem readDisposition?_disposition (name : String) :
    readDisposition? (disposition name).toList =
      some ("attachment".toList, [("filename".toList, shorten name)]) := by
  have fixed : "attachment;filename=".toList = "attachment".toList ++ (';' :: ("filename".toList ++ ['='])) := by
    decide
  have text : (disposition name).toList =
      "attachment".toList ++ ';' :: ("filename".toList ++ '=' :: (encode name).toList) :=
    calc (disposition name).toList
      _ = "attachment;filename=".toList ++ (encode name).toList := String.toList_append
      _ = "attachment".toList ++ (';' :: ("filename".toList ++ ['='])) ++ (encode name).toList :=
        congrArg (fun front => front ++ (encode name).toList) fixed
      _ = _ := by simp only [List.append_assoc, List.cons_append, List.nil_append]
  have type : ∀ c ∈ "attachment".toList, decide (c ≠ ';') = true := List.all_eq_true.1 rfl
  have parameter : ∀ c ∈ "filename".toList, c ≠ '=' := by simp
  have value := readValue?_encode name [] (by simp)
  rw [List.append_nil] at value
  rw [text, readDisposition?, List.dropWhile_append_of_pos type, List.takeWhile_append_of_pos type,
    List.dropWhile_cons_of_neg (by decide), List.takeWhile_cons_of_neg (by decide), List.append_nil,
    readParameters?_cons parameter value, readParameters?]
  rfl

end Attachment

end Depot
