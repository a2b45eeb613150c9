import Depot.Attachment

/-!
# Reading attachment names

`Attachment.readValue?` reads the value of a parameter as a receiver does: a quoted text, in which a
backslash stands before a character that is meant as it is, or everything up to the first special
character. `Attachment.readDisposition?` reads a type and all the parameters behind it.
-/

namespace Depot

namespace Attachment

/-- Reads a quoted text up to its closing quote. -/
def readQuoted? : List Char → Option (List Char × List Char)
  | [] => none
  | '"' :: rest => some ([], rest)
  | '\\' :: c :: rest => (readQuoted? rest).map fun (chars, rest) => (c :: chars, rest)
  | c :: rest => (readQuoted? rest).map fun (chars, rest) => (c :: chars, rest)

/-- The characters at which a receiver takes a bare value to end. -/
def tspecials : List Char :=
  "()<>@,;:\\\"/[]?=".toList

/-- Reads a value and gives what stands behind it. -/
def readValue? (text : List Char) : Option (List Char × List Char) :=
  match text with
  | '"' :: rest => readQuoted? rest
  | _ => some (text.takeWhile fun c => !tspecials.contains c, text.dropWhile fun c => !tspecials.contains c)

theorem length_lt_of_readQuoted? {text chars rest : List Char}
    (read : readQuoted? text = some (chars, rest)) : rest.length < text.length := by
  fun_induction readQuoted? text generalizing chars with
  | case1 => cases read
  | case2 rest =>
    cases read
    exact Nat.lt_succ_self _
  | case3 c later ih =>
    obtain ⟨⟨front, back⟩, found, same⟩ := Option.map_eq_some_iff.1 read
    cases same
    exact Nat.lt_succ_of_lt (Nat.lt_succ_of_lt (ih found))
  | case4 c later _ _ ih =>
    obtain ⟨⟨front, back⟩, found, same⟩ := Option.map_eq_some_iff.1 read
    cases same
    exact Nat.lt_succ_of_lt (ih found)

theorem length_le_of_readValue? {text chars rest : List Char} (read : readValue? text = some (chars, rest)) :
    rest.length ≤ text.length := by
  unfold readValue? at read
  split at read
  · exact Nat.le_of_lt (Nat.lt_succ_of_lt (length_lt_of_readQuoted? read))
  · cases read
    exact (List.dropWhile_sublist _).length_le

/-- Reads parameters to the end: each is a semicolon, a name, an equals sign and a value. -/
def readParameters? (text : List Char) : Option (List (List Char × List Char)) :=
  match text with
  | [] => some []
  | ';' :: parameter =>
    match assigned : parameter.dropWhile (· ≠ '=') with
    | [] => none
    | _ :: value =>
      match result : readValue? value with
      | none => none
      | some (chars, behind) =>
        have : behind.length < parameter.length + 1 := by
          have shorter := length_le_of_readValue? result
          have within := (List.dropWhile_sublist (l := parameter) (· ≠ '=')).length_le
          rw [assigned, List.length_cons] at within
          omega
        (readParameters? behind).map fun others => (parameter.takeWhile (· ≠ '='), chars) :: others
  | _ => none
termination_by text.length

/-- Reads a header value that is a type with parameters. -/
def readDisposition? (text : List Char) : Option (List Char × List (List Char × List Char)) :=
  (readParameters? (text.dropWhile (· ≠ ';'))).map fun parameters => (text.takeWhile (· ≠ ';'), parameters)

end Attachment

end Depot
