import Depot.Toml.Moment

/-!
# Moments written as tables

A table whose first key is `momentKey` stands for the moment that its text spells; its other keys do not
count. The text is read more freely than a moment that is written as itself: the day may end in an hour 24,
and an offset may have any number of minutes. `Toml.resolve?` puts the moments in the place of such tables.
-/

namespace Depot

namespace Toml

/-- The key that marks a table as a moment. -/
def momentKey : String := "$__toml_private_datetime"

/-- The largest numbers of a moment that is written as a table. -/
def taggedLimits : MomentLimits := ⟨24, 99, 99⟩

/-- What the members of a table hold under the mark, if they begin with it. -/
def tagged? : List (String × Toml) → Option Toml
  | (name, value) :: _ => if name = momentKey then some value else none
  | [] => none

/-- The moment that a value spells; it must be a text that holds nothing else. -/
def spelled? : Toml → Option Toml
  | .string text =>
    match readMoment? taggedLimits text.toList with
    | some (found, []) => some found
    | _ => none
  | _ => none

mutual

/-- The value with moments in the place of the tables that stand for them. -/
def resolve? : Toml → Option Toml
  | .array items => (resolveItems? items).map .array
  | .table members =>
    match tagged? members with
    | some marked => spelled? marked
    | none => (resolveMembers? members).map .table
  | other => some other

/-- The items of an array with moments in the place of the tables that stand for them. -/
def resolveItems? : List Toml → Option (List Toml)
  | [] => some []
  | item :: rest =>
    match resolve? item with
    | none => none
    | some resolved => (resolveItems? rest).map (resolved :: ·)

/-- The members of a table with moments in the place of the tables that stand for them. -/
def resolveMembers? : List (String × Toml) → Option (List (String × Toml))
  | [] => some []
  | (name, member) :: rest =>
    match resolve? member with
    | none => none
    | some resolved => (resolveMembers? rest).map ((name, resolved) :: ·)

end

end Toml

end Depot
