import Depot.Range.Header

/-!
# The grammar of `Range` headers

Which texts are written as a header, said without reading them: `Spec.Written` relates an item to its text
and `RangeHeader.Lists` a list of items to a comma-separated text. `Spec.text` and `RangeHeader.text` give
one such text, in which numbers have no leading zeros.
-/

namespace Depot

/-- A non-empty run of digits for a number below `positionBound`; leading zeros are allowed. -/
def IsNumeral (digits : List Char) : Prop :=
  digits ≠ [] ∧ (∀ c ∈ digits, c.isDigit = true) ∧ Nat.ofDigitChars 10 digits 0 < positionBound

namespace Spec

/-- The text is written as the item. -/
inductive Written : List Char → Spec → Prop
  | between {first last : List Char} (_ : IsNumeral first) (_ : IsNumeral last) :
    Written (first ++ '-' :: last) (between (Nat.ofDigitChars 10 first 0) (Nat.ofDigitChars 10 last 0))
  | since {first : List Char} (_ : IsNumeral first) :
    Written (first ++ ['-']) (since (Nat.ofDigitChars 10 first 0))
  | final {count : List Char} (_ : IsNumeral count) :
    Written ('-' :: count) (final (Nat.ofDigitChars 10 count 0))

/-- The text of an item, without leading zeros. -/
def text : Spec → String
  | between first last => decimal first ++ "-" ++ decimal last
  | since first => decimal first ++ "-"
  | final count => "-" ++ decimal count

end Spec

/-- The item that asks for exactly the positions of a window. -/
def Window.spec (w : Window) : Spec :=
  .between w.first w.last

namespace RangeHeader

/-- The text lists the items, with commas between them. -/
inductive Lists : List Char → List Spec → Prop
  | last {item : List Char} {spec : Spec} (_ : Spec.Written item spec) : Lists item [spec]
  | more {item list : List Char} {spec : Spec} {specs : List Spec} (_ : Spec.Written item spec)
    (_ : Lists list specs) : Lists (item ++ ',' :: list) (spec :: specs)

/-- The text is the unit and a list of items, or the unit alone. -/
def IsWellFormed (header : String) : Prop :=
  ∃ list, header.toList = "bytes=".toList ++ list ∧ (list = [] ∨ ∃ specs, Lists list specs)

/-- The header that lists some items. -/
def text (specs : List Spec) : String :=
  "bytes=" ++ String.intercalate "," (specs.map Spec.text)

end RangeHeader

end Depot
