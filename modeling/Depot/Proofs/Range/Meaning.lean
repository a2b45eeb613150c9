import Depot.Proofs.Range.Reading
import Mathlib.Data.List.Perm.Basic

/-!
# What a `Range` header means

An item denotes a set of positions (`Spec.Selects`). `RangeHeader.windows_of_names` says that a header that
names some items yields windows exactly if every item denotes a non-empty set and no two of these sets
meet; there is then one window for each item, with exactly its positions, and the windows ascend. The order
in which the header names the items does not matter.

The check that is made compares each window only with the one before it in the order of starts.
`ascending_inOrder_iff` says that this is enough: windows in that order ascend exactly if no two meet.
-/

namespace Depot

/-! ## Windows apart -/

namespace Window

/-- No position lies in both windows. -/
def Apart (v w : Window) : Prop :=
  ∀ p, ¬ (v.Contains p ∧ w.Contains p)

theorem Apart.symm {v w : Window} (apart : v.Apart w) : w.Apart v :=
  fun p both => apart p both.symm

theorem apart_of_last_lt {v w : Window} (before : v.last < w.first) : v.Apart w := by
  intro p both
  have := both.1.2
  have := both.2.1
  omega

/-- The start of the later of two windows lies in the earlier one unless that ends before. -/
theorem Apart.last_lt {v w : Window} (apart : v.Apart w) (le : v.first ≤ w.first) :
    v.last < w.first := by
  by_contra inside
  exact apart w.first ⟨⟨le, by omega⟩, ⟨Nat.le_refl _, w.first_le_last⟩⟩

end Window

theorem ascendingFrom_iff_pairwise {cursor : Nat} {windows : List Window} :
    AscendingFrom cursor windows ↔
      (∀ w ∈ windows, cursor ≤ w.first) ∧ windows.Pairwise fun v w => v.last < w.first := by
  constructor
  · intro ascending
    exact ⟨fun w member => ascending.le_first member, ascending.pairwise⟩
  · intro ⟨above, pairwise⟩
    induction windows generalizing cursor with
    | nil => trivial
    | cons w rest ih =>
      rw [List.pairwise_cons] at pairwise
      exact ⟨above w List.mem_cons_self, ih (fun v member => pairwise.1 v member) pairwise.2⟩

namespace RangeHeader

theorem inOrder_perm (windows : List Window) : (inOrder windows).Perm windows :=
  List.mergeSort_perm windows _

theorem inOrder_pairwise (windows : List Window) :
    (inOrder windows).Pairwise fun v w => v.first ≤ w.first := by
  have sorted : (inOrder windows).Pairwise fun v w => decide (v.first ≤ w.first) = true := by
    apply List.pairwise_mergeSort
    · intro u v w left right
      simp only [decide_eq_true_eq] at left right ⊢
      exact Nat.le_trans left right
    · intro v w
      simp only [Bool.or_eq_true, decide_eq_true_eq]
      exact Nat.le_total _ _
  exact sorted.imp fun le => of_decide_eq_true le

/-- Windows in the order of their starts ascend exactly if no two of them meet. -/
theorem ascending_inOrder_iff {windows : List Window} :
    AscendingFrom 0 (inOrder windows) ↔ windows.Pairwise Window.Apart := by
  have transfer : (inOrder windows).Pairwise Window.Apart ↔ windows.Pairwise Window.Apart :=
    (inOrder_perm windows).pairwise_iff Window.Apart.symm
  rw [ascendingFrom_iff_pairwise, ← transfer]
  constructor
  · intro ascending
    exact ascending.2.imp Window.apart_of_last_lt
  · intro apart
    refine ⟨fun w _ => Nat.zero_le _, ?_⟩
    exact (inOrder_pairwise windows).imp₂ (fun v w le apart => apart.last_lt le) apart

/-! ## The set of some windows -/

/-- Windows make a set exactly if there are any and no two of them meet; the set holds them in order. -/
theorem assemble_eq_ok_iff {windows : List Window} {set : WindowSet} :
    assemble windows = .ok set ↔
      windows ≠ [] ∧ windows.Pairwise Window.Apart ∧ set.windows = inOrder windows := by
  unfold assemble
  split
  · rename_i empty
    simp [empty]
  · rename_i nonempty
    rw [← ascending_inOrder_iff]
    split
    · rename_i ascending
      simp only [Except.ok.injEq, ne_eq, nonempty, not_false_eq_true, ascending, true_and]
      constructor
      · rintro rfl
        rfl
      · intro same
        cases set
        cases same
        rfl
    · rename_i meet
      simp [meet]

theorem isMalformed_of_assemble {windows : List Window} {e : RangeError}
    (failed : assemble windows = .error e) : e.isMalformed = false := by
  unfold assemble at failed
  split at failed
  · cases failed
    rfl
  · split at failed
    · cases failed
    · cases failed
      rfl

/-- The order in which windows are found does not change their set. -/
theorem assemble_of_perm {windows others : List Window} (perm : others.Perm windows) {set : WindowSet}
    (assembled : assemble windows = .ok set) : assemble others = .ok set := by
  obtain ⟨nonempty, apart, same⟩ := assemble_eq_ok_iff.1 assembled
  have apart' : others.Pairwise Window.Apart := (perm.pairwise_iff Window.Apart.symm).2 apart
  have ordered {found : List Window} (apart : found.Pairwise Window.Apart) :
      (inOrder found).Pairwise fun v w => v.last < w.first :=
    (ascendingFrom_iff_pairwise.1 (ascending_inOrder_iff.2 apart)).2
  refine assemble_eq_ok_iff.2 ⟨fun empty => ?_, apart', same.trans ?_⟩
  · rw [empty] at perm
    exact nonempty perm.nil_eq.symm
  · refine List.Perm.eq_of_pairwise ?_ (ordered apart) (ordered apart')
      ((inOrder_perm windows).trans (perm.symm.trans (inOrder_perm others).symm))
    intro v w _ _ before after
    have := v.first_le_last
    have := w.first_le_last
    omega

end RangeHeader

/-! ## Items resolved -/

namespace Spec

/-- The window lies in an artifact of `total` bytes and holds exactly the positions that the item selects. -/
def Denotes (total : Nat) (spec : Spec) (w : Window) : Prop :=
  w.total = total ∧ ∀ p, w.Contains p ↔ spec.Selects total p

/-- No position is selected by both items. -/
def Apart (total : Nat) (spec other : Spec) : Prop :=
  ∀ p, ¬ (spec.Selects total p ∧ other.Selects total p)

theorem selects_iff_ends {total : Nat} (nonempty : total ≠ 0) (spec : Spec) (p : Nat) :
    spec.Selects total p ↔ (spec.ends total).1 ≤ p ∧ p ≤ (spec.ends total).2 := by
  cases spec <;> simp only [Selects, ends] <;> omega

theorem denotes_of_resolve {total : Nat} {spec : Spec} {w : Window}
    (resolved : spec.resolve total = .ok w) : spec.Denotes total w := by
  unfold resolve at resolved
  split at resolved
  · cases resolved
  · rename_i nonempty
    split at resolved
    · cases resolved
      exact ⟨rfl, fun p => (selects_iff_ends nonempty spec p).symm⟩
    · cases resolved

theorem not_selects_of_resolve {total : Nat} {spec : Spec} {e : RangeError}
    (failed : spec.resolve total = .error e) (p : Nat) : ¬ spec.Selects total p := by
  unfold resolve at failed
  split at failed
  · rename_i empty
    subst empty
    cases spec <;> simp [Selects]
  · rename_i nonempty
    split at failed
    · cases failed
    · rename_i reversed
      rw [selects_iff_ends nonempty]
      omega

theorem isMalformed_of_resolve {total : Nat} {spec : Spec} {e : RangeError}
    (failed : spec.resolve total = .error e) : e.isMalformed = false := by
  unfold resolve at failed
  split at failed
  · cases failed
    rfl
  · split at failed
    · cases failed
    · cases failed
      rfl

/-- A window that an item denotes has a position, so the item selects one. -/
theorem Denotes.exists_selects {total : Nat} {spec : Spec} {w : Window}
    (denotes : spec.Denotes total w) : ∃ p, spec.Selects total p :=
  ⟨w.first, (denotes.2 w.first).1 ⟨Nat.le_refl _, w.first_le_last⟩⟩

theorem Denotes.apart_iff {total : Nat} {spec other : Spec} {v w : Window}
    (left : spec.Denotes total v) (right : other.Denotes total w) :
    v.Apart w ↔ spec.Apart total other := by
  simp only [Window.Apart, Apart, left.2, right.2]

end Spec

namespace RangeHeader

theorem resolveAll_eq_ok_iff {total : Nat} {specs : List Spec} {windows : List Window} :
    resolveAll total specs = .ok windows ↔
      List.Forall₂ (fun spec w => spec.resolve total = .ok w) specs windows := by
  induction specs generalizing windows with
  | nil =>
    rw [resolveAll, List.forall₂_nil_left_iff]
    exact ⟨fun same => (Except.ok.inj same).symm, fun same => congrArg _ same.symm⟩
  | cons spec rest ih =>
    rw [resolveAll, List.forall₂_cons_left_iff]
    simp only [← ih]
    rcases spec.resolve total with e | w
    · simp
    · rcases resolveAll total rest with e | found
      · simp
      · simp [eq_comm]

/-- If not all items can be resolved, the failure is that of one of them. -/
theorem exists_of_resolveAll_error {total : Nat} {specs : List Spec} {e : RangeError}
    (failed : resolveAll total specs = .error e) : ∃ spec ∈ specs, spec.resolve total = .error e := by
  induction specs with
  | nil => cases failed
  | cons spec rest ih =>
    rw [resolveAll] at failed
    split at failed
    · rename_i first
      cases failed
      exact ⟨spec, List.mem_cons_self, first⟩
    · split at failed
      · cases failed
      · rename_i others
        cases failed
        obtain ⟨other, member, found⟩ := ih others
        exact ⟨other, List.mem_cons_of_mem _ member, found⟩

/-! ## Whole headers -/

/-- The header is the unit and a list of the items. -/
def Names (header : String) (specs : List Spec) : Prop :=
  ∃ list, header.toList = "bytes=".toList ++ list ∧ Lists list specs

/-- Every item selects a position, and no position is selected twice. -/
def Servable (total : Nat) (specs : List Spec) : Prop :=
  (∀ spec ∈ specs, ∃ p, spec.Selects total p) ∧ specs.Pairwise (Spec.Apart total)

/-- The set has one window for each item, with exactly its positions, and the windows ascend. -/
def Serves (total : Nat) (specs : List Spec) (set : WindowSet) : Prop :=
  (∃ inOrder : List Spec, inOrder.Perm specs ∧
      List.Forall₂ (Spec.Denotes total) inOrder set.windows) ∧
    set.windows.Pairwise fun v w => v.last < w.first

/-- The items that a header names are resolved and put in order. -/
theorem windows_eq_of_names {header : String} {specs : List Spec} (names : Names header specs)
    (total : Nat) :
    windows header total =
      match resolveAll total specs with
      | .error e => .error e
      | .ok found => assemble found := by
  obtain ⟨list, text, lists⟩ := names
  have stripped : stripPrefix? unit.toList header.toList = some list :=
    stripPrefix?_eq_some_iff.2 text
  have read := readSpecs_splitOn_eq_ok_iff.2 lists
  unfold windows
  rw [stripped]
  cases list with
  | nil => exact absurd rfl lists.ne_nil
  | cons c rest =>
    dsimp only
    rewrite [read]
    rfl

theorem windows_eq_ok_iff_of_names {header : String} {specs : List Spec} (names : Names header specs)
    {total : Nat} {set : WindowSet} :
    windows header total = .ok set ↔
      ∃ found, resolveAll total specs = .ok found ∧ assemble found = .ok set := by
  rw [windows_eq_of_names names]
  rcases resolveAll total specs with e | found <;> simp

theorem Names.ne_nil {header : String} {specs : List Spec} (names : Names header specs) :
    specs ≠ [] := by
  obtain ⟨list, -, lists⟩ := names
  cases lists <;> simp

theorem forall₂_denotes_of_resolveAll {total : Nat} {specs : List Spec} {found : List Window}
    (resolved : resolveAll total specs = .ok found) :
    List.Forall₂ (Spec.Denotes total) specs found :=
  (resolveAll_eq_ok_iff.1 resolved).imp fun _ _ => Spec.denotes_of_resolve

/-- Windows are apart exactly if the items that denote them are. -/
theorem pairwise_apart_iff {total : Nat} {specs : List Spec} {found : List Window}
    (denotes : List.Forall₂ (Spec.Denotes total) specs found) :
    found.Pairwise Window.Apart ↔ specs.Pairwise (Spec.Apart total) := by
  -- What holds of the first window and each later one carries over to the items.
  have carry {spec : Spec} {w : Window} (first : spec.Denotes total w) {specs : List Spec}
      {found : List Window} (rest : List.Forall₂ (Spec.Denotes total) specs found) :
      (∀ v ∈ found, w.Apart v) ↔ ∀ other ∈ specs, spec.Apart total other := by
    induction rest with
    | nil => simp
    | cons head _ ih => simp only [List.forall_mem_cons, ih, first.apart_iff head]
  induction denotes with
  | nil => simp
  | cons first rest ih =>
    rw [List.pairwise_cons, List.pairwise_cons]
    exact and_congr (carry first rest) ih

theorem exists_selects_of_forall₂ {total : Nat} {specs : List Spec} {found : List Window}
    (denotes : List.Forall₂ (Spec.Denotes total) specs found) :
    ∀ spec ∈ specs, ∃ p, spec.Selects total p := by
  induction denotes with
  | nil => simp
  | cons first _ ih => exact List.forall_mem_cons.2 ⟨first.exists_selects, ih⟩

/-- A header that names items yields windows exactly if it can be served. -/
theorem exists_windows_iff {header : String} {specs : List Spec} (names : Names header specs)
    (total : Nat) : (∃ set, windows header total = .ok set) ↔ Servable total specs := by
  simp only [windows_eq_ok_iff_of_names names]
  constructor
  · rintro ⟨set, found, resolved, assembled⟩
    have denotes := forall₂_denotes_of_resolveAll resolved
    exact ⟨exists_selects_of_forall₂ denotes,
      (pairwise_apart_iff denotes).1 (assemble_eq_ok_iff.1 assembled).2.1⟩
  · rintro ⟨nonempty, apart⟩
    rcases resolved : resolveAll total specs with e | found
    · obtain ⟨spec, member, failed⟩ := exists_of_resolveAll_error resolved
      obtain ⟨p, selects⟩ := nonempty spec member
      exact absurd selects (Spec.not_selects_of_resolve failed p)
    · have denotes := forall₂_denotes_of_resolveAll resolved
      have filled : found ≠ [] := by
        rintro rfl
        exact names.ne_nil (List.forall₂_nil_right_iff.1 denotes)
      have apart' := (pairwise_apart_iff denotes).2 apart
      exact ⟨⟨inOrder found, inOrder_ne_nil filled, ascending_inOrder_iff.2 apart'⟩, found, rfl,
        assemble_eq_ok_iff.2 ⟨filled, apart', rfl⟩⟩

theorem serves_of_windows {header : String} {specs : List Spec} (names : Names header specs)
    {total : Nat} {set : WindowSet} (served : windows header total = .ok set) :
    Serves total specs set := by
  obtain ⟨found, resolved, assembled⟩ := (windows_eq_ok_iff_of_names names).1 served
  obtain ⟨-, -, same⟩ := assemble_eq_ok_iff.1 assembled
  refine ⟨?_, set.pairwise⟩
  have flipped : List.Forall₂ (flip (Spec.Denotes total)) found specs :=
    (List.Forall₂.flip (forall₂_denotes_of_resolveAll resolved))
  rw [same]
  obtain ⟨assigned, denotes, perm⟩ := List.perm_comp_forall₂ (inOrder_perm found) flipped
  exact ⟨assigned, perm, denotes.flip⟩

/-- A header that yields windows names some items. -/
theorem exists_names_of_windows {header : String} {total : Nat} {set : WindowSet}
    (served : windows header total = .ok set) : ∃ specs, Names header specs := by
  unfold windows at served
  split at served
  · cases served
  · cases served
  · rename_i list _ stripped
    split at served
    · cases served
    · rename_i specs read
      exact ⟨specs, list, stripPrefix?_eq_some_iff.1 stripped, readSpecs_splitOn_eq_ok_iff.1 read⟩

/-- Every window that a header yields is one of the artifact. -/
theorem total_of_windows {header : String} {total : Nat} {set : WindowSet}
    (served : windows header total = .ok set) : ∀ w ∈ set.windows, w.total = total := by
  obtain ⟨specs, names⟩ := exists_names_of_windows served
  obtain ⟨⟨assigned, -, denotes⟩, -⟩ := serves_of_windows names served
  intro w member
  obtain ⟨i, inside, rfl⟩ := List.getElem_of_mem member
  exact (denotes.get (denotes.length_eq ▸ inside) inside).1

theorem isMalformed_of_names {header : String} {specs : List Spec} (names : Names header specs)
    {total : Nat} {e : RangeError} (failed : windows header total = .error e) :
    e.isMalformed = false := by
  rw [windows_eq_of_names names] at failed
  split at failed
  · rename_i resolved
    cases failed
    obtain ⟨spec, -, unresolved⟩ := exists_of_resolveAll_error resolved
    exact Spec.isMalformed_of_resolve unresolved
  · exact isMalformed_of_assemble failed

theorem windows_of_names_of_perm {header other : String} {specs others : List Spec}
    (names : Names header specs) (otherNames : Names other others) (perm : others.Perm specs)
    {total : Nat} {set : WindowSet} (served : windows header total = .ok set) :
    windows other total = .ok set := by
  obtain ⟨found, resolved, assembled⟩ := (windows_eq_ok_iff_of_names names).1 served
  obtain ⟨found', resolved', perm'⟩ :=
    List.perm_comp_forall₂ perm (resolveAll_eq_ok_iff.1 resolved)
  exact (windows_eq_ok_iff_of_names otherNames).2
    ⟨found', resolveAll_eq_ok_iff.2 resolved', assemble_of_perm perm' assembled⟩

/-- What a header means that names some items: it is served exactly if every item selects a position and no
position is selected twice, with one window for each item; otherwise it cannot be satisfied, but is not
malformed. Naming the items in another order yields the same. -/
theorem windows_of_names {header : String} {specs : List Spec} (names : Names header specs)
    (total : Nat) :
    ((∃ set, windows header total = .ok set) ↔ Servable total specs) ∧
      (∀ set, windows header total = .ok set → Serves total specs set) ∧
      (∀ e, windows header total = .error e → e.isMalformed = false) ∧
      ∀ (other : String) (others : List Spec), Names other others → others.Perm specs →
        ∀ set, windows other total = .ok set ↔ windows header total = .ok set := by
  refine ⟨exists_windows_iff names total, fun set => serves_of_windows names,
    fun e => isMalformed_of_names names, fun other others otherNames perm set => ?_⟩
  exact ⟨windows_of_names_of_perm otherNames names perm.symm,
    windows_of_names_of_perm names otherNames perm⟩

/-- Three items out of order, one of them counted from the end of 100 bytes. -/
theorem windows_of_names_unordered :
    Names "bytes=20-29,-05,0-9" [.between 20 29, .final 5, .between 0 9] ∧
      ∃ set, windows "bytes=20-29,-05,0-9" 100 = .ok set ∧
        Serves 100 [.between 20 29, .final 5, .between 0 9] set := by
  have names : Names "bytes=20-29,-05,0-9" [.between 20 29, .final 5, .between 0 9] := by
    have numeral (digits : List Char) (checked : digits ≠ [] ∧ digits.all Char.isDigit = true ∧
        Nat.ofDigitChars 10 digits 0 < positionBound) : IsNumeral digits :=
      checked.imp_right (And.imp_left List.all_eq_true.1)
    refine ⟨['2', '0', '-', '2', '9', ',', '-', '0', '5', ',', '0', '-', '9'], by decide, ?_⟩
    exact .more (.between (numeral ['2', '0'] (by decide)) (numeral ['2', '9'] (by decide)))
      (.more (.final (numeral ['0', '5'] (by decide)))
        (.last (.between (numeral ['0'] (by decide)) (numeral ['9'] (by decide)))))
  have servable : Servable 100 [.between 20 29, .final 5, .between 0 9] := by
    constructor
    · simp only [List.forall_mem_cons, List.not_mem_nil, false_implies, implies_true, and_true,
        Spec.Selects]
      exact ⟨⟨20, by decide⟩, ⟨95, by decide⟩, ⟨0, by decide⟩⟩
    · simp only [List.pairwise_cons, List.forall_mem_cons, List.not_mem_nil, false_implies,
        implies_true, and_true, List.Pairwise.nil, Spec.Apart, Spec.Selects]
      refine ⟨⟨?_, ?_⟩, ?_⟩ <;> intro p <;> omega
  obtain ⟨set, served⟩ := (windows_of_names names 100).1.2 servable
  exact ⟨names, set, served, (windows_of_names names 100).2.1 set served⟩

end RangeHeader

end Depot
