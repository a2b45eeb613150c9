import Depot.Access.Pattern
import Mathlib.Data.List.Induction
import Mathlib.Data.List.Infix

/-!
# Replacing variables one after the other

A single pass over a pattern replaces the longest variable at each place (`Pattern.substitute`); the line itself is
made by replacing one variable after the other throughout (`Pattern.expand`). `Pattern.expand_eq_substitute` says that
the two agree if no value disturbs the later variables (`Pattern.Undisturbed`): it must not go on with the beginning
of one that the pattern has in front of it, and none may begin inside it.

After some steps the line is that of a single pass in which the other variables still stand for themselves
(`Pattern.partly`), and one more step replaces one more of them (`Pattern.replaceAll_partly`). Proofs about a single
pass go along the places of the pattern (`Pattern.places_induction`). In the end the variable that was replaced last
is gone from the line (`Pattern.not_isInfix_replaceAll`), while a single pass keeps every value whole
(`Pattern.isInfix_substitute`).
-/

namespace Depot

namespace Pattern

/-! ## Variables at a place -/

/-- Names begin with a dollar and have no other, and no earlier name begins a later one. -/
structure Tidy (bindings : List Binding) : Prop where
  named : ∀ b ∈ bindings, ∃ word, b.1 = '$' :: word ∧ '$' ∉ word
  ordered : bindings.Pairwise fun b later => ¬ b.1 <+: later.1

theorem Tidy.ne_nil {bindings : List Binding} (tidy : Tidy bindings) : ∀ b ∈ bindings, b.1 ≠ [] := by
  intro b member empty
  obtain ⟨word, name, -⟩ := tidy.named b member
  rw [name] at empty
  cases empty

theorem Tidy.nodup {bindings : List Binding} (tidy : Tidy bindings) : bindings.Nodup := by
  refine tidy.ordered.imp fun apart same => apart ?_
  rw [same]

section Longest

variable {text : List Char} {bindings : List Binding} {b : Binding}

theorem longest?_concat (text : List Char) (bindings : List Binding) (b : Binding) :
    longest? text (bindings ++ [b]) =
      if b.1.isPrefixOf text && (longest? text bindings).all fun other => other.1.length < b.1.length then some b
      else longest? text bindings := by
  rw [longest?, List.foldl_append]
  rfl

theorem longest?_concat_of_not (absent : ¬ b.1 <+: text) :
    longest? text (bindings ++ [b]) = longest? text bindings := by
  rw [longest?_concat, if_neg]
  rw [Bool.and_eq_true, List.isPrefixOf_iff_prefix]
  exact fun taken => absent taken.1

theorem longest?_eq_none_iff : longest? text bindings = none ↔ ∀ b ∈ bindings, ¬ b.1 <+: text := by
  induction bindings using List.reverseRecOn with
  | nil => simp [longest?]
  | append_singleton bindings last ih =>
    rw [List.forall_mem_append, List.forall_mem_singleton, ← ih]
    by_cases fits : last.1 <+: text
    · have prefixes : last.1.isPrefixOf text = true := List.isPrefixOf_iff_prefix.2 fits
      rw [longest?_concat, prefixes, Bool.true_and]
      constructor
      · intro nothing
        split at nothing
        · cases nothing
        · rename_i longer
          rw [nothing] at longer
          exact absurd rfl longer
      · exact fun both => absurd fits both.2
    · rw [longest?_concat_of_not fits]
      exact (and_iff_left fits).symm

/-- The longest variable at a place is one of them that stands there, and no longer one does. -/
theorem of_longest? (found : longest? text bindings = some b) :
    b ∈ bindings ∧ b.1 <+: text ∧ ∀ other ∈ bindings, other.1 <+: text → other.1.length ≤ b.1.length := by
  induction bindings using List.reverseRecOn generalizing b with
  | nil => cases found
  | append_singleton bindings last ih =>
    rw [longest?_concat] at found
    rw [List.forall_mem_append, List.forall_mem_singleton, List.mem_append]
    split at found
    · rename_i taken
      obtain rfl : last = b := Option.some.inj found
      rw [Bool.and_eq_true, List.isPrefixOf_iff_prefix] at taken
      refine ⟨.inr List.mem_cons_self, taken.1, fun other member fits => ?_, fun _ => le_rfl⟩
      cases held : longest? text bindings with
      | none => exact absurd fits (longest?_eq_none_iff.1 held other member)
      | some longest =>
        have shorter := taken.2
        rw [held, Option.all_some, decide_eq_true_eq] at shorter
        exact ((ih held).2.2 other member fits).trans shorter.le
    · rename_i kept
      obtain ⟨member, fits, longest⟩ := ih found
      refine ⟨.inl member, fits, longest, fun lastFits => Nat.le_of_not_lt fun shorter => kept ?_⟩
      rw [Bool.and_eq_true, List.isPrefixOf_iff_prefix, found, Option.all_some, decide_eq_true_eq]
      exact ⟨lastFits, shorter⟩

/-- What stands at a place depends on the names only. -/
theorem longest?_map {f : Binding → Binding} (keeps : ∀ b, (f b).1 = b.1) (text : List Char)
    (bindings : List Binding) : longest? text (bindings.map f) = (longest? text bindings).map f := by
  induction bindings using List.reverseRecOn with
  | nil => rfl
  | append_singleton bindings last ih =>
    rw [List.map_append, List.map_singleton, longest?_concat, longest?_concat, ih, keeps]
    have shorter : ((longest? text bindings).map f).all (fun other => other.1.length < last.1.length) =
        (longest? text bindings).all fun other => other.1.length < last.1.length := by
      cases longest? text bindings with
      | none => rfl
      | some other => rw [Option.map_some, Option.all_some, Option.all_some, keeps]
    rw [shorter]
    split <;> rfl

/-- The name of the variable that stands at the beginning of a text: the longest that fits there. -/
structure Stands (names : List (List Char)) (name text : List Char) : Prop where
  member : name ∈ names
  fits : name <+: text
  longest : ∀ other ∈ names, other <+: text → other.length ≤ name.length

instance (names : List (List Char)) (name text : List Char) : Decidable (Stands names name text) :=
  decidable_of_iff (name ∈ names ∧ name <+: text ∧ ∀ other ∈ names, other <+: text → other.length ≤ name.length)
    ⟨fun ⟨member, fits, longest⟩ => ⟨member, fits, longest⟩, fun ⟨member, fits, longest⟩ => ⟨member, fits, longest⟩⟩

theorem stands_of_longest? {b : Binding} (found : longest? text bindings = some b) :
    Stands (bindings.map Prod.fst) b.1 text := by
  obtain ⟨member, fits, longest⟩ := of_longest? found
  exact ⟨List.mem_map_of_mem member, fits, List.forall_mem_map.2 longest⟩

theorem Stands.longest? {name : List Char} (stands : Stands (bindings.map Prod.fst) name text) :
    ∃ b, Pattern.longest? text bindings = some b ∧ b.1 = name := by
  cases found : Pattern.longest? text bindings with
  | none =>
    obtain ⟨b, bound, rfl⟩ := List.mem_map.1 stands.member
    exact absurd stands.fits (longest?_eq_none_iff.1 found b bound)
  | some b =>
    have other := stands_of_longest? found
    have size := (stands.longest b.1 other.member other.fits).antisymm (other.longest name stands.member stands.fits)
    exact ⟨b, rfl, (List.prefix_of_prefix_length_le other.fits stands.fits size.le).eq_of_length size⟩

end Longest

/-! ## The single pass, place by place -/

section Places

variable {bindings : List Binding} {b : Binding} {c : Char} {rest : List Char}

theorem substituteFrom_append (bindings : List Binding) (front rest : List Char) :
    substituteFrom bindings front.length (front ++ rest) = substituteFrom bindings 0 rest := by
  induction front with
  | nil => rfl
  | cons _ front ih => exact ih

theorem substitute_char (free : longest? (c :: rest) bindings = none) :
    substitute bindings (c :: rest) = c :: substitute bindings rest := by
  rw [substitute, substituteFrom, free]
  rfl

theorem substitute_name (named : b.1 ≠ []) (found : longest? (b.1 ++ rest) bindings = some b) :
    substitute bindings (b.1 ++ rest) = b.2 ++ substitute bindings rest := by
  obtain ⟨first, name, spelled⟩ := List.exists_cons_of_ne_nil named
  rw [spelled, List.cons_append] at found ⊢
  rw [substitute, substituteFrom, found]
  change b.2 ++ substituteFrom bindings (b.1.length - 1) (name ++ rest) = _
  rw [spelled, List.length_cons, Nat.add_sub_cancel, substituteFrom_append]
  rfl

/-- Along the places of a pattern: it ends, or another character stands there, or a variable. -/
theorem places_induction (named : ∀ b ∈ bindings, b.1 ≠ []) {motive : List Char → Prop} (nil : motive [])
    (char : ∀ c rest, longest? (c :: rest) bindings = none → motive rest → motive (c :: rest))
    (name : ∀ b rest, b ∈ bindings → longest? (b.1 ++ rest) bindings = some b → motive rest → motive (b.1 ++ rest))
    (line : List Char) : motive line := by
  induction size : line.length using Nat.strongRecOn generalizing line with
  | ind size ih =>
    subst size
    cases line with
    | nil => exact nil
    | cons c rest =>
      cases place : longest? (c :: rest) bindings with
      | none => exact char c rest place (ih rest.length (Nat.lt_succ_self _) rest rfl)
      | some b =>
        obtain ⟨member, ⟨later, spelled⟩, -⟩ := of_longest? place
        rw [← spelled] at place ih ⊢
        refine name b later member place (ih later.length ?_ later rfl)
        have := List.length_pos_iff.2 (named b member)
        rw [List.length_append]
        omega

/-- To replace one variable throughout is a single pass with that variable alone. -/
theorem replaceAll_eq_substitute (line : List Char) (b : Binding) : replaceAll line b = substitute [b] line := by
  have pass (skip : Nat) : replaceFrom b.1 b.2 skip line = substituteFrom [b] skip line := by
    induction line generalizing skip with
    | nil => cases skip <;> rfl
    | cons c rest ih =>
      cases skip with
      | succ skip => exact ih skip
      | zero =>
        rw [replaceFrom, substituteFrom, longest?, List.foldl_cons, List.foldl_nil, Option.all_none, Bool.and_true]
        split
        · rw [ih]
        · rw [ih]
  exact pass 0

theorem longest?_singleton (fits : b.1 <+: rest) : longest? rest [b] = some b := by
  have prefixes : b.1.isPrefixOf rest = true := List.isPrefixOf_iff_prefix.2 fits
  rw [longest?, List.foldl_cons, List.foldl_nil, prefixes]
  rfl

theorem replaceAll_cons (absent : ¬ b.1 <+: c :: rest) : replaceAll (c :: rest) b = c :: replaceAll rest b := by
  rw [replaceAll_eq_substitute, replaceAll_eq_substitute,
    substitute_char (longest?_eq_none_iff.2 (List.forall_mem_singleton.2 absent))]

theorem replaceAll_name (named : b.1 ≠ []) : replaceAll (b.1 ++ rest) b = b.2 ++ replaceAll rest b := by
  rw [replaceAll_eq_substitute, replaceAll_eq_substitute,
    substitute_name named (longest?_singleton (List.prefix_append _ _))]

/-- Nothing is replaced in front of a line if the variable begins nowhere there. -/
theorem replaceAll_append {front : List Char}
    (nowhere : ∀ text, text ≠ [] → text <:+ front → ¬ b.1 <+: text ++ rest) :
    replaceAll (front ++ rest) b = front ++ replaceAll rest b := by
  induction front with
  | nil => rfl
  | cons c front ih =>
    have here : ¬ b.1 <+: c :: (front ++ rest) := nowhere (c :: front) (List.cons_ne_nil _ _) (List.suffix_refl _)
    have later := ih fun text nonempty placed => nowhere text nonempty (placed.trans (List.suffix_cons c front))
    rw [List.cons_append, replaceAll_cons here, later, List.cons_append]

end Places

/-! ## Where a variable can come up -/

/-- One of the two begins the other. -/
def Meets (front name : List Char) : Prop :=
  front <+: name ∨ name <+: front

/-- A name begins a line only if it meets the front of the line. -/
theorem Meets.of_isPrefix {front rest name : List Char} (begins : name <+: front ++ rest) : Meets front name :=
  List.prefix_or_prefix_of_prefix (List.prefix_append front rest) begins

section Coming

variable {bindings : List Binding} {line name : List Char}

/-- A text without a dollar meets no variable. -/
theorem Tidy.not_meets (tidy : Tidy bindings) {b : Binding} (member : b ∈ bindings) {text : List Char}
    (nonempty : text ≠ []) (free : '$' ∉ text) : ¬ Meets text b.1 := by
  obtain ⟨word, name, -⟩ := tidy.named b member
  obtain ⟨c, text, rfl⟩ := List.exists_cons_of_ne_nil nonempty
  rw [name]
  rintro (begins | begins)
  · obtain ⟨rfl, -⟩ := List.cons_prefix_cons.1 begins
    exact free List.mem_cons_self
  · obtain ⟨rfl, -⟩ := List.cons_prefix_cons.1 begins
    exact free List.mem_cons_self

/-- A variable does not begin inside the name of another. -/
theorem Tidy.not_isPrefix_of_suffix (tidy : Tidy bindings) {b other : Binding} (member : b ∈ bindings)
    (otherMember : other ∈ bindings) {text rest : List Char} (nonempty : text ≠ []) (placed : text <:+ b.1)
    (inside : text ≠ b.1) : ¬ other.1 <+: text ++ rest := by
  obtain ⟨word, name, only⟩ := tidy.named b member
  have free : '$' ∉ text := by
    rw [name] at placed inside
    rcases List.suffix_cons_iff.1 placed with whole | behind
    · exact absurd whole inside
    · exact fun dollar => only (behind.subset dollar)
  exact fun begins => tidy.not_meets otherMember nonempty free (.of_isPrefix begins)

/-- What meets a line meets its front. -/
theorem Meets.front {front rest name : List Char} (meets : Meets (front ++ rest) name) : Meets front name := by
  rcases meets with begins | begins
  · exact .inl ((List.prefix_append front rest).trans begins)
  · exact .of_isPrefix begins

/-- A value with no character of a name does not go on with it. -/
theorem Meets.isPrefix_of_foreign {front value name : List Char} (nonempty : value ≠ [])
    (foreign : ∀ c ∈ value, c ∉ name) (meets : Meets (front ++ value) name) : name <+: front := by
  obtain ⟨c, value, rfl⟩ := List.exists_cons_of_ne_nil nonempty
  have outside := foreign c List.mem_cons_self
  rcases meets with whole | begins
  · exact absurd (whole.subset (List.mem_append_right _ List.mem_cons_self)) outside
  · rcases Meets.of_isPrefix begins with ⟨rest, rfl⟩ | shorter
    · cases rest with
      | nil => rw [List.append_nil]
      | cons first rest =>
        have same := (List.cons_prefix_cons.1 ((List.prefix_append_right_inj front).1 begins)).1
        rw [same] at outside
        exact absurd (List.mem_append_right _ List.mem_cons_self) outside
    · exact shorter

/-- If the values go on with no beginning of the name, then the name begins the line of a single pass only where the
pattern has it already. -/
theorem prefix_of_prefix_substitute (named : ∀ b ∈ bindings, b.1 ≠ [])
    (continues : ∀ front back b, front ≠ [] → front ++ back <:+ line → longest? back bindings = some b →
      b.2 = b.1 ∨ (Meets (front ++ b.2) name → name <+: front))
    {front rest : List Char} (before : front ≠ []) (placed : front ++ rest <:+ line)
    (begins : name <+: front ++ substitute bindings rest) : name <+: front ++ rest := by
  induction rest using places_induction named generalizing front with
  | nil => exact begins
  | char c rest free ih =>
    rw [substitute_char free] at begins
    rw [List.append_cons] at placed begins ⊢
    exact ih (List.append_ne_nil_of_left_ne_nil before _) placed begins
  | name b rest member found ih =>
    rw [substitute_name (named b member) found, ← List.append_assoc] at begins
    rcases continues front _ b before placed found with itself | ends
    · rw [itself] at begins
      rw [← List.append_assoc] at placed ⊢
      exact ih (List.append_ne_nil_of_left_ne_nil before _) placed begins
    · exact (ends (.of_isPrefix begins)).trans (List.prefix_append front _)

end Coming

/-! ## One after the other -/

/-- No value disturbs a later variable. -/
structure Undisturbed (bindings : List Binding) (line : List Char) : Prop where
  /-- A value goes on with no beginning of a later variable that the pattern has in front of it. -/
  continues : ∀ front back b later, front ≠ [] → front ++ back <:+ line → longest? back bindings = some b →
    [b, later].Sublist bindings → Meets (front ++ b.2) later.1 → later.1 <+: front
  /-- No later variable begins inside a value. -/
  inside : ∀ back b later text, back <:+ line → longest? back bindings = some b → [b, later].Sublist bindings →
    text ≠ [] → text <:+ b.2 → ¬ Meets text later.1

/-- A variable whose turn has come has its value, another one stands for itself. -/
def partly (done : List Binding) (b : Binding) : Binding :=
  (b.1, if b ∈ done then b.2 else b.1)

theorem partly_of_mem {done : List Binding} {b : Binding} (member : b ∈ done) : partly done b = b := by
  rw [partly, if_pos member]

theorem partly_of_not_mem {done : List Binding} {b : Binding} (pending : b ∉ done) : partly done b = (b.1, b.1) := by
  rw [partly, if_neg pending]

theorem sublist_of_mem {done later : List Binding} {now b : Binding} (turned : b ∈ done) :
    [b, now].Sublist (done ++ now :: later) :=
  (List.singleton_sublist.2 turned).append (List.singleton_sublist.2 List.mem_cons_self)

section Turns

variable {bindings : List Binding} {line : List Char}

theorem longest?_partly (done : List Binding) (text : List Char) (bindings : List Binding) :
    longest? text (bindings.map (partly done)) = (longest? text bindings).map (partly done) :=
  longest?_map (f := partly done) (fun _ => rfl) text bindings

theorem substitute_partly_char (done : List Binding) {c : Char} {rest : List Char}
    (free : longest? (c :: rest) bindings = none) :
    substitute (bindings.map (partly done)) (c :: rest) = c :: substitute (bindings.map (partly done)) rest := by
  refine substitute_char ?_
  rw [longest?_partly, free, Option.map_none]

theorem substitute_partly_name (done : List Binding) {b : Binding} {rest : List Char} (named : b.1 ≠ [])
    (found : longest? (b.1 ++ rest) bindings = some b) :
    substitute (bindings.map (partly done)) (b.1 ++ rest) =
      (partly done b).2 ++ substitute (bindings.map (partly done)) rest := by
  refine substitute_name (b := partly done b) named ?_
  rw [longest?_partly]
  exact congrArg (Option.map (partly done)) found

/-- Before the first turn every variable stands for itself, and a single pass changes nothing. -/
theorem substitute_partly_nil (named : ∀ b ∈ bindings, b.1 ≠ []) (line : List Char) :
    substitute (bindings.map (partly [])) line = line := by
  induction line using places_induction named with
  | nil => rfl
  | char c rest free ih => rw [substitute_partly_char [] free, ih]
  | name b rest member found ih =>
    rw [substitute_partly_name [] (named b member) found, partly_of_not_mem List.not_mem_nil, ih]

/-- A variable whose turn is to come begins a line only where the pattern has it. -/
theorem prefix_of_prefix_partly {done later : List Binding} {now : Binding} (tidy : Tidy (done ++ now :: later))
    (undisturbed : Undisturbed (done ++ now :: later) line) {front rest : List Char} (before : front ≠ [])
    (placed : front ++ rest <:+ line)
    (begins : now.1 <+: front ++ substitute ((done ++ now :: later).map (partly done)) rest) :
    now.1 <+: front ++ rest := by
  refine prefix_of_prefix_substitute ?_ ?_ before placed begins
  · rintro _ member
    obtain ⟨b, bound, rfl⟩ := List.mem_map.1 member
    exact tidy.ne_nil b bound
  · rintro front back _ nonempty behind found
    rw [longest?_partly] at found
    obtain ⟨b, place, rfl⟩ := Option.map_eq_some_iff.1 found
    by_cases turn : b ∈ done
    · rw [partly_of_mem turn]
      exact .inr (undisturbed.continues front back b now nonempty behind place (sublist_of_mem turn))
    · rw [partly_of_not_mem turn]
      exact .inl rfl

/-- A later variable does not begin with the one whose turn it is. -/
theorem Tidy.not_isPrefix_of_mem_later {done later : List Binding} {now b : Binding}
    (tidy : Tidy (done ++ now :: later)) (member : b ∈ later) : ¬ now.1 <+: b.1 :=
  (List.pairwise_cons.1 (List.pairwise_append.1 tidy.ordered).2.1).1 b member

/-- One turn at a variable: its value is left alone, it gets its value, or it is left to wait for its turn. -/
theorem replaceAll_partly_name {done later : List Binding} {now b : Binding} {rest : List Char}
    (tidy : Tidy (done ++ now :: later)) (undisturbed : Undisturbed (done ++ now :: later) line)
    (placed : b.1 ++ rest <:+ line) (found : longest? (b.1 ++ rest) (done ++ now :: later) = some b) :
    replaceAll ((partly done b).2 ++ substitute ((done ++ now :: later).map (partly done)) rest) now =
      (partly (done ++ [now]) b).2 ++
        replaceAll (substitute ((done ++ now :: later).map (partly done)) rest) now := by
  have here : now ∈ done ++ now :: later := List.mem_append_right _ List.mem_cons_self
  obtain ⟨member, -, longest⟩ := of_longest? found
  rcases List.mem_append.1 member with turned | pending
  · rw [partly_of_mem turned, partly_of_mem (List.mem_append_left _ turned)]
    exact replaceAll_append fun text nonempty inside begins =>
      undisturbed.inside _ b now text placed found (sublist_of_mem turned) nonempty inside (.of_isPrefix begins)
  · have before : b ∉ done := fun turned => (List.nodup_append.1 tidy.nodup).2.2 b turned b pending rfl
    rw [partly_of_not_mem before]
    rcases List.mem_cons.1 pending with rfl | waiting
    · rw [partly_of_mem (List.mem_append_right _ List.mem_cons_self)]
      exact replaceAll_name (tidy.ne_nil b member)
    · have apart := tidy.not_isPrefix_of_mem_later waiting
      have still : b ∉ done ++ [now] := by
        rw [List.mem_append, List.mem_singleton]
        rintro (turned | rfl)
        · exact before turned
        · exact apart (List.prefix_refl _)
      rw [partly_of_not_mem still]
      refine replaceAll_append fun text nonempty inside begins => ?_
      by_cases whole : text = b.1
      · -- A longer name would have been found at this place.
        subst whole
        have shorter := longest now here (prefix_of_prefix_partly tidy undisturbed nonempty placed begins)
        exact apart (List.prefix_of_prefix_length_le begins (List.prefix_append _ _) shorter)
      · exact tidy.not_isPrefix_of_suffix member here nonempty inside whole begins

/-- One turn: to replace the next variable throughout is to let it have its value in the single pass. -/
theorem replaceAll_partly {done later : List Binding} {now : Binding} (tidy : Tidy (done ++ now :: later))
    (undisturbed : Undisturbed (done ++ now :: later) line) {rest : List Char} (placed : rest <:+ line) :
    replaceAll (substitute ((done ++ now :: later).map (partly done)) rest) now =
      substitute ((done ++ now :: later).map (partly (done ++ [now]))) rest := by
  induction rest using places_induction tidy.ne_nil with
  | nil => rfl
  | char c rest free ih =>
    rw [substitute_partly_char _ free, substitute_partly_char _ free, ← ih ((List.suffix_cons c rest).trans placed)]
    refine replaceAll_cons fun begins => ?_
    have stands := prefix_of_prefix_partly tidy undisturbed (List.cons_ne_nil c []) placed begins
    exact longest?_eq_none_iff.1 free now (List.mem_append_right _ List.mem_cons_self) stands
  | name b rest member found ih =>
    rw [substitute_partly_name _ (tidy.ne_nil b member) found, substitute_partly_name _ (tidy.ne_nil b member) found,
      ← ih ((List.suffix_append b.1 rest).trans placed)]
    exact replaceAll_partly_name tidy undisturbed placed found

/-- To replace the variables one after the other is a single pass if no value disturbs a later variable. -/
theorem expand_eq_substitute (tidy : Tidy bindings) (undisturbed : Undisturbed bindings line) :
    expand bindings line = substitute bindings line := by
  have turns (done later : List Binding) (all : done ++ later = bindings) :
      expand later (substitute (bindings.map (partly done)) line) =
        substitute (bindings.map (partly bindings)) line := by
    induction later generalizing done with
    | nil =>
      rw [List.append_nil] at all
      rw [all]
      rfl
    | cons now later ih =>
      have next := ih (done ++ [now]) (by rw [← all, List.append_assoc, List.singleton_append])
      subst all
      rw [← next, ← replaceAll_partly tidy undisturbed (List.suffix_refl line)]
      rfl
  have first := turns [] bindings rfl
  have last : bindings.map (partly bindings) = bindings := by
    conv_rhs => rw [← List.map_id bindings]
    exact List.map_congr_left fun b member => partly_of_mem member
  rwa [substitute_partly_nil tidy.ne_nil, last] at first

end Turns

/-! ## What the line shows -/

section Shown

variable {bindings : List Binding} {line : List Char} {b : Binding}

theorem expand_concat (bindings : List Binding) (b : Binding) (line : List Char) :
    expand (bindings ++ [b]) line = replaceAll (expand bindings line) b :=
  List.foldl_concat replaceAll line b bindings

/-- Replacing a variable by a value without any of its characters leaves no occurrence of it. -/
theorem not_isInfix_replaceAll (named : b.1 ≠ []) (nonempty : b.2 ≠ []) (foreign : ∀ c ∈ b.2, c ∉ b.1)
    (line : List Char) : ¬ b.1 <:+: replaceAll line b := by
  rw [replaceAll_eq_substitute]
  have alone : ∀ other ∈ [b], other.1 ≠ [] := List.forall_mem_singleton.2 named
  induction line using places_induction alone with
  | nil => exact fun occurs => named (List.eq_nil_of_infix_nil occurs)
  | char c rest free ih =>
    rw [substitute_char free, List.infix_cons_iff]
    rintro (begins | later)
    · refine longest?_eq_none_iff.1 free b List.mem_cons_self ?_
      refine prefix_of_prefix_substitute alone (fun front back other _ _ found => ?_) (List.cons_ne_nil c [])
        (List.suffix_refl (c :: rest)) begins
      obtain rfl := List.mem_singleton.1 (of_longest? found).1
      exact .inr (Meets.isPrefix_of_foreign nonempty foreign)
    · exact ih later
  | name other rest member found ih =>
    obtain rfl := List.mem_singleton.1 member
    rw [substitute_name named found, List.infix_append_iff]
    rintro (within | later | ⟨front, back, split, ends, begins⟩)
    · obtain ⟨c, _, spelled⟩ := List.exists_cons_of_ne_nil named
      have member : c ∈ other.1 := spelled ▸ List.mem_cons_self
      exact foreign c (within.subset member) member
    · exact ih later
    · cases front with
      | nil =>
        rw [List.nil_append] at split
        exact ih (split ▸ begins.isInfix)
      | cons c front =>
        have member : c ∈ other.1 := split ▸ List.mem_cons_self
        exact foreign c (ends.subset List.mem_cons_self) member

/-- The value of each variable of a pattern is in the line of a single pass. -/
theorem isInfix_substitute (tidy : Tidy bindings) {text : List Char} (placed : text <:+ line)
    (found : longest? text bindings = some b) : b.2 <:+: substitute bindings line := by
  obtain ⟨bound, begins, -⟩ := of_longest? found
  induction line using places_induction tidy.ne_nil with
  | nil =>
    rw [List.suffix_nil.1 placed] at begins
    exact absurd (List.prefix_nil.1 begins) (tidy.ne_nil b bound)
  | char c rest free ih =>
    rw [substitute_char free]
    rcases List.suffix_cons_iff.1 placed with rfl | behind
    · rw [free] at found
      cases found
    · exact List.infix_cons (ih behind)
  | name other rest member here ih =>
    rw [substitute_name (tidy.ne_nil other member) here]
    rcases List.suffix_or_suffix_of_suffix placed (List.suffix_append other.1 rest) with behind | ⟨inside, rfl⟩
    · exact List.infix_append_of_infix_right (ih behind)
    · obtain ⟨front, split⟩ := placed
      rw [← List.append_assoc, List.append_left_inj] at split
      by_cases whole : inside = other.1
      · rw [whole, here] at found
        obtain rfl := Option.some.inj found
        exact List.infix_append_of_infix_left List.infix_rfl
      · by_cases nonempty : inside = []
        · subst nonempty
          exact List.infix_append_of_infix_right (ih (List.suffix_refl rest))
        · exact absurd begins (tidy.not_isPrefix_of_suffix member bound nonempty ⟨front, split⟩ whole)

end Shown

end Pattern

end Depot
