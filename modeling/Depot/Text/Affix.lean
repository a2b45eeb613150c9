/-!
# Prefixes and suffixes

Taking a known beginning or end off a list or a text. `stripPrefix?_eq_some_iff` and
`stripSuffix?_eq_some_iff` say that what remains is the other part of a concatenation.
-/

namespace Depot

section Lists

variable {α : Type} [DecidableEq α]

/-- What follows `front` in a list that begins with it. -/
def stripPrefix? : List α → List α → Option (List α)
  | [], list => some list
  | _ :: _, [] => none
  | a :: front, b :: list => if a = b then stripPrefix? front list else none

/-- What precedes `back` in a list that ends with it. -/
def stripSuffix? (back list : List α) : Option (List α) :=
  (stripPrefix? back.reverse list.reverse).map List.reverse

theorem stripPrefix?_eq_some_iff {front list rest : List α} :
    stripPrefix? front list = some rest ↔ list = front ++ rest := by
  induction front generalizing list with
  | nil => simp [stripPrefix?]
  | cons a front ih =>
    cases list with
    | nil => simp [stripPrefix?]
    | cons b list =>
      by_cases same : a = b
      · subst same
        simp [stripPrefix?, ih]
      · simp [stripPrefix?, same, Ne.symm same]

theorem stripSuffix?_eq_some_iff {back list rest : List α} :
    stripSuffix? back list = some rest ↔ list = rest ++ back := by
  simp only [stripSuffix?, Option.map_eq_some_iff, stripPrefix?_eq_some_iff]
  constructor
  · rintro ⟨kept, reversed, rfl⟩
    have := congrArg List.reverse reversed
    simpa using this
  · rintro rfl
    exact ⟨rest.reverse, by simp, by simp⟩

end Lists

/-- What follows `front` in a text that begins with it. -/
def stripTextPrefix? (front text : String) : Option String :=
  (stripPrefix? front.toList text.toList).map String.ofList

/-- What precedes `back` in a text that ends with it. -/
def stripTextSuffix? (back text : String) : Option String :=
  (stripSuffix? back.toList text.toList).map String.ofList

end Depot
