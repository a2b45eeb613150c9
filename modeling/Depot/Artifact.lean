import Depot.Calendar.HttpDate

/-!
# Artifacts and `If-Range`

An `Artifact` is what is known of a stored artifact without its bytes. A client that holds part of an artifact
may ask for more of it only if the artifact is still the same. It names what it holds by the strong entity tag
or by a date. `IfRange.judge` weighs the name, and `IfRange.Verdict.holds` says whether ranges may be served.
-/

namespace Depot

/-- The description of one version of an artifact. -/
structure Artifact where
  /-- The number of bytes. -/
  size : Nat
  /-- The content hash, which tells versions apart. -/
  hash : String
  /-- The moment of the last change, if it is known. -/
  modified : Option Moment
deriving DecidableEq, Repr

/-- The strong entity tag of the version with the given content hash. -/
def strongTag (hash : String) : String :=
  "\"" ++ hash ++ "\""

namespace IfRange

/-- How the condition of a request turns out. -/
inductive Verdict
  /-- The request states no condition. -/
  | unconditional
  /-- The condition is the tag of the current version. -/
  | sameTag
  /-- The condition is a date, and the version is or is not as old. -/
  | dated (holds : Bool)
  /-- The condition is neither the tag nor a date. -/
  | unreadable (condition : String)
deriving DecidableEq, Repr

/-- Ranges may be served. -/
def Verdict.holds : Verdict → Bool
  | .unconditional | .sameTag => true
  | .dated holds => holds
  | .unreadable _ => false

/-- Weighs a condition against the tag of the current version and the moment of its last change. A date
holds if it is not before the second of that change, or if the change is unknown. -/
def judge (condition : Option String) (tag : String) (modified : Option Moment) : Verdict :=
  match condition with
  | none => .unconditional
  | some text =>
    if text = tag then .sameTag
    else
      match HttpDate.read? text with
      | none => .unreadable text
      | some date =>
        match modified with
        | none => .dated true
        | some moment => .dated (decide (moment.secs ≤ date))

end IfRange

end Depot
