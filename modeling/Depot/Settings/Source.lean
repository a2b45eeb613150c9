import Depot.Json.Reader
import Depot.Number.Power
import Depot.Settings.Value
import Depot.Text.Affix
import Depot.Toml.Reader

/-!
# Sources of settings

What files and the environment give. A file is written in JSON or in TOML. Numbers of JSON are integers of 64
bits where they can be; any other is a double that is found in up to three roundings, of its digits, of the
power of ten, and of their product. In the environment, `ARTIFACTS__SERVER__PORT` gives the text for
`server.port`.
-/

namespace Depot

namespace Settings

namespace Value

/-! ## JSON -/

/-- Appends digits to a number as long as it has 64 bits, and gives the digits that are left. -/
def takeDigits : Nat → List Char → Nat × List Char
  | n, [] => (n, [])
  | n, c :: rest =>
    if 10 * n + (c.toNat - '0'.toNat) < wordBound then takeDigits (10 * n + (c.toNat - '0'.toNat)) rest
    else (n, c :: rest)

/-- The significand of a decimal, and the power of ten that it lacks. Digits that do not fit are dropped. -/
def significand (whole fraction : List Char) : Nat × Int :=
  let (n, more) := takeDigits 0 whole
  let (n, dropped) := takeDigits n fraction
  (n, (more.length : Int) + dropped.length - fraction.length)

/-- The double nearest to a power of ten. -/
def powerOfTen (k : Nat) : Double :=
  Double.nearest (tenTo k) 1

/-- A significand times a power of ten, unless it is too large. -/
def scaled? (n : Nat) (exponent : Int) : Option Double :=
  if n = 0 then some (Double.ofNat 0)
  else if 308 < exponent then none
  else if 0 ≤ exponent then
    let d := (Double.ofNat n).mul (powerOfTen exponent.toNat)
    if d.Overflows then none else some d
  else if -308 ≤ exponent then some ((Double.ofNat n).div (powerOfTen (-exponent).toNat))
  else if -616 ≤ exponent then
    some (((Double.ofNat n).div (powerOfTen 308)).div (powerOfTen (-exponent - 308).toNat))
  else some (Double.ofNat 0)

/-- The value of a number. -/
def ofNumber? (n : Json.Number) : Option Value :=
  let (size, power) := significand (Nat.toDigits 10 n.whole) n.fraction
  if n.fraction = [] ∧ n.exponent = none ∧ !n.negative ∧ n.whole < signedBound then some (integer n.whole)
  else if n.fraction = [] ∧ n.exponent = none ∧ n.negative ∧ 0 < n.whole ∧ n.whole ≤ signedBound then
    some (integer (-n.whole))
  else (scaled? size (power + n.exponent.getD 0)).map fun d => float (.finite n.negative d)

mutual

/-- What a JSON value gives. -/
def ofJson? : Json → Option Value
  | .null => some unset
  | .boolean b => some (boolean b)
  | .number n => ofNumber? n
  | .string s => some (text s)
  | .array items => (ofItems? items).map list
  | .object members => (ofMembers? members).map table

/-- What the items of an array give. -/
def ofItems? : List Json → Option (List Value)
  | [] => some []
  | item :: rest =>
    match ofJson? item with
    | none => none
    | some v => (ofItems? rest).map (v :: ·)

/-- What the members of an object give. Of several members of one name the last one counts, but all of them
must give something. -/
def ofMembers? : List (String × Json) → Option (List (String × Value))
  | [] => some []
  | (name, member) :: rest =>
    match ofJson? member with
    | none => none
    | some v =>
      (ofMembers? rest).map fun later =>
        if (later.lookup name).isSome then later else (name, v) :: later

end

/-! ## TOML -/

mutual

/-- What a TOML value gives; dates and times are given as text. -/
def ofToml : Toml → Value
  | .string s | .moment s => text s
  | .boolean b => boolean b
  | .integer n => integer n
  | .float d => float d
  | .array items => list (ofTomlItems items)
  | .table members => table (ofTomlMembers members)

/-- What the items of an array give. -/
def ofTomlItems : List Toml → List Value
  | [] => []
  | item :: rest => ofToml item :: ofTomlItems rest

/-- What the members of a table give. -/
def ofTomlMembers : List (String × Toml) → List (String × Value)
  | [] => []
  | (name, member) :: rest => (name, ofToml member) :: ofTomlMembers rest

end

end Value

/-! ## Files -/

/-- How a file is written. -/
inductive Format
  | json
  | toml
deriving DecidableEq, Repr

namespace Format

/-- What the name of a file ends with. -/
def suffix : Format → String
  | json => ".json"
  | toml => ".toml"

/-- The format of a file by its name. -/
def ofName? (name : String) : Option Format :=
  [json, toml].find? fun format =>
    match stripTextSuffix? format.suffix name with
    | some stem => stem.toList.getLast?.any (· ≠ '/')
    | none => false

/-- What a file gives; the whole must be a table. -/
def read? (format : Format) (text : String) : Option (List (String × Value)) :=
  match format with
  | json =>
    match (Json.read? text.toList).bind Value.ofJson? with
    | some (.table members) => some members
    | _ => none
  | toml => (Toml.read? text.toList).map Value.ofTomlMembers

end Format

/-- The files that may be meant by a name which no file has: those of this name and the suffix of a format. -/
def suffixed (name : String) : List (String × Format) :=
  [Format.json, Format.toml].map fun format => (name ++ format.suffix, format)

/-- The file that is meant by a name, among those that there are: the file of this name, if it has a format,
else the file of this name and the suffix of a format. -/
def fileFor? (present : String → Bool) (name : String) : Option (String × Format) :=
  if present name then (Format.ofName? name).map fun format => (name, format)
  else (suffixed name).find? fun candidate => present candidate.1

/-! ## Environment -/

/-- Each two underlines become a dot. -/
def dotted : List Char → List Char
  | '_' :: '_' :: rest => '.' :: dotted rest
  | c :: rest => c :: dotted rest
  | [] => []

/-- The key that the name of a variable stands for, if it is one for settings. -/
def keyOfVariable? (name : String) : Option String :=
  (stripPrefix? "artifacts__".toList (nameKey name).toList).map fun key =>
    String.ofList (dotted key)

/-- What the environment gives: all values are texts. -/
def ofEnvironment (environment : List (String × String)) : List (String × Value) :=
  environment.filterMap fun (name, value) => (keyOfVariable? name).map fun key => (key, .text value)

end Settings

end Depot
