import Depot.Json.Reader
import Depot.Proofs.Text.Numeral
import Mathlib.Data.List.TakeWhile

/-!
# JSON is read as it is written

`Json.Reads` says of a value that the reader gets it from its compact text and leaves what follows. It holds of texts
whatever their characters are, since every character is read from what it is escaped as
(`Json.readChars?_escapeChar`), of natural numbers and of null, and of an object if it holds of its members
(`Json.reads_object`). A value of which it holds is the one that its text alone is read as (`Json.Reads.read?_render`).
-/

namespace Depot

namespace Json

/-! ## Texts -/

/-- The characters with an escape of two characters, and the second of these. -/
def shortEscapes : List (Char × Char) :=
  [('"', '"'), ('\\', '\\'), (Char.ofNat 8, 'b'), (Char.ofNat 12, 'f'), ('\n', 'n'), ('\r', 'r'), ('\t', 't')]

theorem escapeChar_of_mem_shortEscapes : ∀ p ∈ shortEscapes,
    escapeChar p.1 = ['\\', p.2] ∧ p.2 ≠ 'u' ∧ shortEscape? p.2 = some p.1 := by
  decide

/-- All other characters are escaped by their number if they are control characters, and else not at all. -/
theorem escapeChar_of_not_short {c : Char} (long : ∀ p ∈ shortEscapes, p.1 ≠ c) :
    c ≠ '"' ∧ c ≠ '\\' ∧
      escapeChar c = if c.toNat < 32 then ['\\', 'u', '0', '0', hexDigit (c.toNat / 16), hexDigit (c.toNat % 16)]
        else [c] := by
  simp only [shortEscapes, List.forall_mem_cons, List.not_mem_nil, false_implies, implies_true, and_true] at long
  obtain ⟨quote, escape, backspace, feed, newline, return_, tab⟩ := long
  have code {n : Nat} (other : Char.ofNat n ≠ c) : c.toNat ≠ n := fun same => other (by rw [← same, Char.ofNat_toNat])
  refine ⟨Ne.symm quote, Ne.symm escape, ?_⟩
  rw [escapeChar, if_neg (Ne.symm quote), if_neg (Ne.symm escape), if_neg (code backspace), if_neg (code feed),
    if_neg (Ne.symm newline), if_neg (Ne.symm return_), if_neg (Ne.symm tab)]

theorem readChars?_short {letter meant : Char} (noUnicode : letter ≠ 'u') (short : shortEscape? letter = some meant)
    (rest : List Char) :
    readChars? ('\\' :: letter :: rest) = (readChars? rest).map fun (chars, rest) => (meant :: chars, rest) := by
  rw [readChars?, short]
  intro _ _ _ _ _ same
  exact absurd same noUnicode

theorem readChars?_plain {c : Char} (noQuote : c ≠ '"') (noEscape : c ≠ '\\') (visible : ¬ c.toNat < 32)
    (rest : List Char) :
    readChars? (c :: rest) = (readChars? rest).map fun (chars, rest) => (c :: chars, rest) := by
  rw [readChars?, if_neg visible]
  · exact noQuote
  · intro _ _ _ _ _ same
    exact absurd same noEscape
  · intro _ _ same
    exact absurd same noEscape

theorem readHex4?_hexDigit {n : Nat} (small : n < 32) :
    readHex4? '0' '0' (hexDigit (n / 16)) (hexDigit (n % 16)) = some n := by
  have high := hexValue?_hexDigit (n / 16) (by omega)
  have low := hexValue?_hexDigit (n % 16) (by omega)
  have zero : hexValue? '0' = some 0 := by decide
  have sum : 4096 * 0 + 256 * 0 + 16 * (n / 16) + n % 16 = n := by omega
  simp only [readHex4?, zero, high, low, Option.bind_eq_bind, Option.bind_some, sum]

/-- A character is read from what it is written as. -/
theorem readChars?_escapeChar (c : Char) (rest : List Char) :
    readChars? (escapeChar c ++ rest) = (readChars? rest).map fun (chars, rest) => (c :: chars, rest) := by
  by_cases short : ∃ p ∈ shortEscapes, p.1 = c
  · obtain ⟨p, member, rfl⟩ := short
    obtain ⟨escaped, noUnicode, meant⟩ := escapeChar_of_mem_shortEscapes p member
    rw [escaped]
    exact readChars?_short noUnicode meant rest
  · obtain ⟨noQuote, noEscape, escaped⟩ := escapeChar_of_not_short fun p member same => short ⟨p, member, same⟩
    rw [escaped]
    split
    · rename_i control
      have noHigh : ¬ (0xd800 ≤ c.toNat ∧ c.toNat < 0xdc00) := by omega
      have noLow : ¬ (0xdc00 ≤ c.toNat ∧ c.toNat < 0xe000) := by omega
      simp only [List.cons_append, List.nil_append, readChars?, readHex4?_hexDigit control, if_neg noHigh,
        if_neg noLow, Char.ofNat_toNat]
    · rename_i visible
      exact readChars?_plain noQuote noEscape visible rest

theorem readChars?_quoted (chars rest : List Char) :
    readChars? (chars.flatMap escapeChar ++ '"' :: rest) = some (chars, rest) := by
  induction chars with
  | nil => rw [List.flatMap_nil, List.nil_append, readChars?]
  | cons c chars ih => rw [List.flatMap_cons, List.append_assoc, readChars?_escapeChar, ih, Option.map_some]

/-! ## Numbers -/

/-- What follows does not go on with a number. -/
def EndsNumber (rest : List Char) : Prop :=
  ∀ c ∈ rest.head?, c.isDigit = false ∧ c ≠ '.' ∧ c ≠ 'e' ∧ c ≠ 'E'

theorem endsNumber_nil : EndsNumber [] := by
  intro c member
  cases member

theorem endsNumber_cons {c : Char} (ends : c.isDigit = false ∧ c ≠ '.' ∧ c ≠ 'e' ∧ c ≠ 'E') (rest : List Char) :
    EndsNumber (c :: rest) := by
  rintro d ⟨⟩
  exact ends

section Numbers

variable {rest : List Char}

theorem EndsNumber.takeWhile_eq (ends : EndsNumber rest) : rest.takeWhile Char.isDigit = [] := by
  cases rest with
  | nil => rfl
  | cons c rest => exact List.takeWhile_cons_of_neg (Bool.eq_false_iff.1 (ends c rfl).1)

theorem EndsNumber.dropWhile_eq (ends : EndsNumber rest) : rest.dropWhile Char.isDigit = rest := by
  cases rest with
  | nil => rfl
  | cons c rest => exact List.dropWhile_cons_of_neg (Bool.eq_false_iff.1 (ends c rfl).1)

/-- Only zero begins with a zero, so all digits of a number are read. -/
theorem readWhole?_decimal (n : Nat) (ends : EndsNumber rest) :
    readWhole? ((decimal n).toList ++ rest) = some (n, rest) := by
  have digits : ∀ c ∈ (decimal n).toList, c.isDigit = true := fun c => Decimal.isDigit_of_mem_decimal
  have taken : ((decimal n).toList ++ rest).takeWhile Char.isDigit = (decimal n).toList := by
    rw [List.takeWhile_append_of_pos digits, ends.takeWhile_eq, List.append_nil]
  have left : ((decimal n).toList ++ rest).dropWhile Char.isDigit = rest := by
    rw [List.dropWhile_append_of_pos digits, ends.dropWhile_eq]
  rcases Nat.eq_zero_or_pos n with rfl | pos
  · have zero : (decimal 0).toList = ['0'] := by decide
    rw [zero, List.singleton_append]
    cases rest with
    | nil => rfl
    | cons c rest => exact if_neg (Bool.eq_false_iff.1 (ends c rfl).1)
  · rw [readWhole?.eq_def]
    split
    · rename_i rest' begins
      have first := Decimal.head?_decimal pos
      obtain ⟨d, ds, same⟩ := List.exists_cons_of_ne_nil (Decimal.decimal_ne_nil n)
      rw [same, List.cons_append] at begins
      cases begins
      exact absurd (congrArg List.head? same) first
    · rw [taken, Decimal.read?_decimal, left]

theorem readNumber?_ofNat (n : Nat) (ends : EndsNumber rest) :
    readNumber? ((decimal n).toList ++ rest) = some (.ofNat n, rest) := by
  have noFraction : readFraction? rest = some ([], rest) := by
    unfold readFraction?
    split
    · exact absurd rfl (ends '.' rfl).2.1
    · rfl
  have noExponent : readExponent? rest = some (none, rest) := by
    unfold readExponent?
    split
    · rename_i c rest
      obtain ⟨-, -, small, large⟩ := ends c rfl
      exact if_neg (not_or.2 ⟨small, large⟩)
    · rfl
  have noSign : ∀ text, (decimal n).toList ++ rest ≠ '-' :: text := by
    intro text same
    obtain ⟨d, ds, digits⟩ := List.exists_cons_of_ne_nil (Decimal.decimal_ne_nil n)
    rw [digits, List.cons_append] at same
    obtain ⟨rfl, -⟩ := List.cons.inj same
    have digit : '-'.isDigit = true := Decimal.isDigit_of_mem_decimal (digits ▸ List.mem_cons_self)
    exact absurd digit (by decide)
  unfold readNumber?
  split
  · rename_i signed
    split at signed
    · exact absurd ‹_› (noSign _)
    · cases signed
      simp only [readWhole?_decimal n ends, noFraction, noExponent, Number.ofNat]

end Numbers

/-! ## Values -/

/-- With fuel for every character of its text, the value is read from the beginning of a longer text that does not go
on with a number there; objects and arrays may be nested `depth` deep. -/
def Reads (depth : Nat) (value : Json) : Prop :=
  ∀ fuel rest, (render value).length < fuel → EndsNumber rest →
    readValue? fuel depth (render value ++ rest) = some (value, rest)

section Values

variable {depth : Nat}

theorem skipBlanks_cons {c : Char} (solid : isBlank c = false) (rest : List Char) :
    skipBlanks (c :: rest) = c :: rest :=
  List.dropWhile_cons_of_neg (Bool.eq_false_iff.1 solid)

theorem reads_null : Reads depth .null := by
  intro fuel rest enough _
  cases fuel with
  | zero => cases enough
  | succ fuel =>
    rw [readValue?, render]
    rfl

theorem exists_quoted (text : String) (rest : List Char) :
    ∃ inner, quote text ++ rest = '"' :: inner ∧ readChars? inner = some (text.toList, rest) := by
  refine ⟨text.toList.flatMap escapeChar ++ '"' :: rest, ?_, readChars?_quoted _ _⟩
  simp [quote]

theorem reads_string (text : String) : Reads depth (.string text) := by
  intro fuel rest enough _
  cases fuel with
  | zero => cases enough
  | succ fuel =>
    obtain ⟨inner, quoted, read⟩ := exists_quoted text rest
    rw [readValue?, render, quoted, skipBlanks_cons rfl]
    simp only [read, Option.map_some, String.ofList_toList]

theorem render_ofNat (n : Nat) : render (.number (.ofNat n)) = (decimal n).toList := by
  simp [render, Number.render, Number.ofNat]

theorem reads_number (n : Nat) : Reads depth (.number (.ofNat n)) := by
  intro fuel rest enough ends
  cases fuel with
  | zero => cases enough
  | succ fuel =>
    have read := readNumber?_ofNat n ends
    obtain ⟨d, ds, digits⟩ := List.exists_cons_of_ne_nil (Decimal.decimal_ne_nil n)
    have digit : d.isDigit = true := Decimal.isDigit_of_mem_decimal (digits ▸ List.mem_cons_self)
    have solid : isBlank d = false := by
      refine Bool.eq_false_iff.2 fun blank => ?_
      simp only [isBlank, Bool.or_eq_true, decide_eq_true_eq] at blank
      rcases blank with ((rfl | rfl) | rfl) | rfl <;> exact absurd digit (by decide)
    rw [digits, List.cons_append] at read
    rw [readValue?, render_ofNat, digits, List.cons_append, skipBlanks_cons solid]
    -- No other value begins with a digit.
    split
    case h_7 => rw [read, Option.map_some]
    all_goals
      rename_i begins
      obtain ⟨rfl, -⟩ := List.cons.inj begins
      exact absurd digit (by decide)

/-- The last member is read up to the brace behind it. -/
theorem readMembers?_last {value : Json} {fuel : Nat} (reads : Reads depth value)
    (enough : (render value).length < fuel) (name : String) (rest : List Char) :
    readMembers? (fuel + 1) depth (quote name ++ ':' :: (render value ++ '\x7d' :: rest)) =
      some ([(name, value)], rest) := by
  obtain ⟨inner, quoted, read⟩ := exists_quoted name (':' :: (render value ++ '\x7d' :: rest))
  have colon := skipBlanks_cons (show isBlank ':' = false from rfl) (render value ++ '\x7d' :: rest)
  have brace := skipBlanks_cons (show isBlank '\x7d' = false from rfl) rest
  have here := reads fuel ('\x7d' :: rest) enough (endsNumber_cons (by decide) rest)
  rw [readMembers?, quoted, skipBlanks_cons rfl]
  simp only [read, colon, here, brace, String.ofList_toList]

/-- Another member is read up to the comma behind it, and the later ones follow. -/
theorem readMembers?_next {value : Json} {fuel : Nat} (reads : Reads depth value)
    (enough : (render value).length < fuel) (name : String) {rest after : List Char} {later : List (String × Json)}
    (follow : readMembers? fuel depth rest = some (later, after)) :
    readMembers? (fuel + 1) depth (quote name ++ ':' :: (render value ++ ',' :: rest)) =
      some ((name, value) :: later, after) := by
  obtain ⟨inner, quoted, read⟩ := exists_quoted name (':' :: (render value ++ ',' :: rest))
  have colon := skipBlanks_cons (show isBlank ':' = false from rfl) (render value ++ ',' :: rest)
  have comma := skipBlanks_cons (show isBlank ',' = false from rfl) rest
  have here := reads fuel (',' :: rest) enough (endsNumber_cons (by decide) rest)
  rw [readMembers?, quoted, skipBlanks_cons rfl]
  simp only [read, colon, here, comma, follow, Option.map_some, String.ofList_toList]

theorem readMembers?_render {members : List (String × Json)} (nonempty : members ≠ [])
    (reads : ∀ m ∈ members, Reads depth m.2) {fuel : Nat} (enough : (renderMembers members).length < fuel)
    (rest : List Char) : readMembers? fuel depth (renderMembers members ++ '\x7d' :: rest) = some (members, rest) := by
  induction members generalizing fuel with
  | nil => exact absurd rfl nonempty
  | cons first others ih =>
    obtain ⟨name, value⟩ := first
    obtain ⟨here, later⟩ := List.forall_mem_cons.1 reads
    dsimp only at here
    cases fuel with
    | zero => cases enough
    | succ fuel =>
      cases others with
      | nil =>
        rw [renderMembers, List.length_append, List.length_cons] at enough
        rw [renderMembers, List.append_assoc, List.cons_append]
        exact readMembers?_last here (by omega) name rest
      | cons second more =>
        have written : renderMembers ((name, value) :: second :: more) =
            quote name ++ ':' :: (render value ++ ',' :: renderMembers (second :: more)) := by
          rw [renderMembers]
          · simp
          · exact List.cons_ne_nil _ _
        rw [written] at enough ⊢
        simp only [List.length_append, List.length_cons] at enough
        have shorter : (renderMembers (second :: more)).length < fuel := by omega
        have follow := ih (List.cons_ne_nil second more) later shorter
        rw [List.append_assoc, List.cons_append, List.append_assoc, List.cons_append]
        exact readMembers?_next here (by omega) name follow

/-- An object is read if its members are. -/
theorem reads_object {members : List (String × Json)} (reads : ∀ m ∈ members, Reads depth m.2) :
    Reads (depth + 1) (.object members) := by
  intro fuel rest enough _
  cases fuel with
  | zero => cases enough
  | succ fuel =>
    have written : render (.object members) ++ rest = '\x7b' :: (renderMembers members ++ '\x7d' :: rest) := by
      simp [render]
    rw [render, List.length_append, List.length_cons] at enough
    rw [readValue?, written, skipBlanks_cons rfl]
    cases members with
    | nil => rfl
    | cons first others =>
      have shorter : (renderMembers (first :: others)).length < fuel := by omega
      have read := readMembers?_render (List.cons_ne_nil first others) reads shorter rest
      obtain ⟨inner, quoted⟩ : ∃ inner, renderMembers (first :: others) ++ '\x7d' :: rest = '"' :: inner := by
        cases others <;> exact ⟨_, rfl⟩
      rw [quoted] at read ⊢
      have opened := skipBlanks_cons (show isBlank '"' = false from rfl) inner
      simp only [opened, read, Option.map_some]
      rfl

end Values

/-- A value that can be read is what its text is read as. -/
theorem Reads.read?_render {value : Json} (reads : Reads maxDepth value) : read? (render value) = some value := by
  have read := reads ((render value).length + 1) [] (Nat.lt_succ_self _) endsNumber_nil
  rw [List.append_nil] at read
  rw [read?, read]
  rfl

end Json

end Depot
