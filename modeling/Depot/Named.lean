/-!
# Lists of named things

Names with what they stand for, looked up with `List.lookup`. `putNamed` gives a name a new meaning;
`lookup_putNamed` says that this name has it from then on and that no other name is touched. Where a name is part
of a thing, `find?_filter_ne` says that dropping all things of one name does not hide those of another.
-/

namespace Depot

/-- Gives `name` the meaning `value`, in its place if it has one, else at the end. -/
def putNamed {α : Type} (name : String) (value : α) : List (String × α) → List (String × α)
  | [] => [(name, value)]
  | (other, old) :: rest =>
    if name = other then (name, value) :: rest else (other, old) :: putNamed name value rest

theorem lookup_cons_eq_ite {α : Type} (name other : String) (value : α) (rest : List (String × α)) :
    List.lookup other ((name, value) :: rest) = if other = name then some value else rest.lookup other := by
  by_cases same : other = name
  · simp [same]
  · simp [List.lookup_cons, beq_eq_false_iff_ne.2 same, same]

theorem lookup_putNamed {α : Type} (name other : String) (value : α) (list : List (String × α)) :
    (putNamed name value list).lookup other =
      if other = name then some value else list.lookup other := by
  induction list with
  | nil => rw [putNamed, lookup_cons_eq_ite]
  | cons entry rest ih =>
    obtain ⟨first, old⟩ := entry
    by_cases same : name = first
    · subst same
      rw [putNamed, if_pos rfl, lookup_cons_eq_ite, lookup_cons_eq_ite]
      split <;> rfl
    · rw [putNamed, if_neg same, lookup_cons_eq_ite, lookup_cons_eq_ite, ih]
      by_cases hit : other = first
      · subst hit
        rw [if_pos rfl, if_pos rfl, if_neg (Ne.symm same)]
      · rw [if_neg hit, if_neg hit]

theorem find?_filter_ne {α : Type} (nameOf : α → String) {name other : String} (ne : name ≠ other)
    (list : List α) : (list.filter fun x => nameOf x ≠ name).find? (fun x => nameOf x = other) =
      list.find? fun x => nameOf x = other := by
  have keep : (fun x => decide (decide (nameOf x ≠ name) = true ∧ decide (nameOf x = other) = true)) =
      fun x => decide (nameOf x = other) := by
    funext x
    by_cases same : nameOf x = other
    · simp [same, Ne.symm ne]
    · simp [same]
  rw [List.find?_filter, keep]

end Depot
