import Depot.Proofs.Access.Line
import Depot.Proofs.Access.Substitution

/-!
# Values that spell variables

The line that a pattern makes of an entry is meant to be that of a single pass (`AccessEntry.onePass`): a value is
copied as it is. Since the variables are replaced one after the other, a value that comes early is searched for the
variables that come late. `AccessEntry.custom_agrees` says when this shows: never as long as no value disturbs a later
variable, so never if the texts of the entry that the pattern asks for hold no dollar and the pattern has no variable
right after the beginning of a later one (`AccessEntry.Separate`); but every pattern that asks for such a text goes
wrong with some entry.

Times and numbers hold no dollar, and the user agent, which is replaced last, may hold anything.
-/

namespace Depot

namespace AccessEntry

variable {e : AccessEntry} {pattern : String}

/-- The line of a single pass over the pattern. -/
def onePass (pattern : String) (e : AccessEntry) : String :=
  String.ofList (Pattern.substitute e.bindings pattern.toList)

/-! ## Variables -/

/-- The names of the variables, in the order in which they are replaced. -/
def variableNames : List (List Char) :=
  ["$remote_addr", "$time_local", "$time_iso8601", "$request_time", "$request_method", "$request_uri", "$request",
    "$status", "$body_bytes_sent", "$http_range", "$http_user_agent"].map String.toList

theorem map_fst_bindings (e : AccessEntry) : e.bindings.map Prod.fst = variableNames :=
  rfl

theorem tidy_bindings (e : AccessEntry) : Pattern.Tidy e.bindings where
  named := by
    have named : ∀ name ∈ variableNames, name = '$' :: name.tail ∧ '$' ∉ name.tail := by decide
    rw [← e.map_fst_bindings, List.forall_mem_map] at named
    exact fun b bound => ⟨_, named b bound⟩
  ordered := by
    have ordered : variableNames.Pairwise fun name later => ¬ name <+: later := by decide
    rw [← e.map_fst_bindings, List.pairwise_map] at ordered
    exact ordered

/-- The variables that stand for a text of the entry and are not the last, so that the text is searched for others. -/
def textVariables : List String :=
  ["$remote_addr", "$request_method", "$request_uri", "$request", "$http_range"]

/-- The pattern has the variable: at some place of it no longer one fits. -/
def Asks (pattern name : String) : Prop :=
  ∃ text, text <:+ pattern.toList ∧ Pattern.Stands variableNames name.toList text

instance (pattern name : String) : Decidable (Asks pattern name) :=
  decidable_of_iff (∃ text ∈ pattern.toList.tails, Pattern.Stands variableNames name.toList text) <|
    exists_congr fun text => and_congr_left' (List.mem_tails text _)

/-- No variable stands right after the beginning of a later one. -/
def Separate (pattern : String) : Prop :=
  ∀ front back name later, front ≠ [] → front ++ back <:+ pattern.toList → Pattern.Stands variableNames name back →
    [name, later].Sublist variableNames → front <+: later → front = later

/-- It is enough to look in front of the places where a variable stands. -/
theorem separate_iff (pattern : String) :
    Separate pattern ↔
      ∀ back ∈ pattern.toList.tails, ∀ name ∈ variableNames.filter fun name => Pattern.Stands variableNames name back,
        ∀ later ∈ variableNames.filter fun later => [name, later].Sublist variableNames,
          ∀ front ∈ later.inits, front = [] ∨ front = later ∨ ¬ front ++ back <:+ pattern.toList := by
  simp only [List.mem_tails, List.mem_inits, List.mem_filter, decide_eq_true_eq]
  constructor
  · rintro separate back - name ⟨-, stands⟩ later ⟨-, turns⟩ front begins
    by_cases nonempty : front = []
    · exact .inl nonempty
    · by_cases placed : front ++ back <:+ pattern.toList
      · exact .inr (.inl (separate front back name later nonempty placed stands turns begins))
      · exact .inr (.inr placed)
  · intro all front back name later nonempty placed stands turns begins
    have behind : back <:+ pattern.toList := (List.suffix_append front back).trans placed
    have member : later ∈ variableNames := turns.subset (List.mem_cons_of_mem _ List.mem_cons_self)
    rcases all back behind name ⟨stands.member, stands⟩ later ⟨member, turns⟩ front begins with empty | whole | apart
    · exact absurd empty nonempty
    · exact whole
    · exact absurd placed apart

instance (pattern : String) : Decidable (Separate pattern) :=
  decidable_of_iff' _ (separate_iff pattern)

/-- A method that spells the end of a variable would complete it. -/
example : ¬ Separate "$$request_method" := by decide +kernel

/-- What is replaced before the user agent is a text of the entry, or it holds no dollar. -/
theorem text_or_time (e : AccessEntry) : ∀ p ∈ e.placeholders.dropLast, p.1 ∈ textVariables ∨ IsTimeText p.2 := by
  simp only [placeholders, List.dropLast, List.forall_mem_cons, Stamp.isTimeText_common, Stamp.isTimeText_rfc3339,
    isTimeText_seconds, isTimeText_decimal, or_true, true_and]
  exact ⟨.inl (by decide), .inl (by decide), .inl (by decide), .inl (by decide), .inl (by decide),
    List.forall_mem_nil _⟩

theorem mem_bindings {b : Pattern.Binding} :
    b ∈ e.bindings ↔ ∃ p ∈ e.placeholders, (p.1.toList, p.2.toList) = b :=
  List.mem_map

/-- A variable with a later one is replaced before the user agent. -/
theorem mem_dropLast_of_sublist {b later : Pattern.Binding} (turns : [b, later].Sublist e.bindings) :
    ∃ p ∈ e.placeholders.dropLast, b = (p.1.toList, p.2.toList) := by
  have before := turns.reverse.tail
  rw [List.tail_reverse] at before
  have before : b ∈ e.bindings.dropLast := List.mem_reverse.1 (List.singleton_sublist.1 before)
  rw [bindings, ← List.map_dropLast] at before
  obtain ⟨p, placed, rfl⟩ := List.mem_map.1 before
  exact ⟨p, placed, rfl⟩

/-! ## Entries without dollars -/

/-- The texts of the entry that the pattern asks for hold no dollar; the user agent, which comes last, may. -/
def Quiet (pattern : String) (e : AccessEntry) : Prop :=
  ∀ p ∈ e.placeholders, p.1 ∈ textVariables → Asks pattern p.1 → '$' ∉ p.2.toList

instance (pattern : String) (e : AccessEntry) : Decidable (e.Quiet pattern) :=
  inferInstanceAs (Decidable (∀ p ∈ e.placeholders, p.1 ∈ textVariables → Asks pattern p.1 → '$' ∉ p.2.toList))

theorem Quiet.dollar_not_mem (quiet : e.Quiet pattern) {back : List Char} {b later : Pattern.Binding}
    (placed : back <:+ pattern.toList) (found : Pattern.longest? back e.bindings = some b)
    (turns : [b, later].Sublist e.bindings) : '$' ∉ b.2 := by
  obtain ⟨p, before, rfl⟩ := mem_dropLast_of_sublist turns
  rcases e.text_or_time p before with text | time
  · refine quiet p (List.mem_of_mem_dropLast before) text ⟨back, placed, ?_⟩
    exact Pattern.stands_of_longest? found
  · exact time.dollar_not_mem

theorem Quiet.undisturbed (quiet : e.Quiet pattern) (separate : Separate pattern) :
    Pattern.Undisturbed e.bindings pattern.toList where
  continues front back b later nonempty placed found turns meets := by
    rcases meets.front with begins | whole
    · have names : [b.1, later.1].Sublist variableNames := turns.map Prod.fst
      have same := separate front back b.1 later.1 nonempty placed (Pattern.stands_of_longest? found) names begins
      rw [same]
    · exact whole
  inside back b later text placed found turns nonempty within meets := by
    have free := quiet.dollar_not_mem placed found turns
    have member : later ∈ e.bindings := turns.subset (List.mem_cons_of_mem _ List.mem_cons_self)
    exact e.tidy_bindings.not_meets member nonempty (fun dollar => free (within.subset dollar)) meets

/-! ## Entries that spell the last variable -/

/-- An entry whose texts are all the name of the last variable, which has no value. -/
def spelling : AccessEntry where
  remote := "$http_user_agent"
  stamp := ⟨⟨0, 0⟩, 0⟩
  method := "$http_user_agent"
  path := "$http_user_agent"
  version := "1.1"
  status := 200
  bodyBytes := 0
  range := some "$http_user_agent"
  userAgent := none
  micros := 0

/-- Each text of the entry spells the last variable. -/
theorem isInfix_of_spelling :
    ∀ p ∈ spelling.placeholders, p.1 ∈ textVariables → "$http_user_agent".toList <:+: p.2.toList := by
  have line : "$http_user_agent".toList <:+: spelling.requestLine.toList := by decide
  simp only [placeholders, List.forall_mem_cons]
  exact ⟨fun _ => List.infix_rfl, fun text => absurd text (by decide), fun text => absurd text (by decide),
    fun text => absurd text (by decide), fun _ => List.infix_rfl, fun _ => List.infix_rfl, fun _ => line,
    fun text => absurd text (by decide), fun text => absurd text (by decide), fun _ => List.infix_rfl,
    fun text => absurd text (by decide), List.forall_mem_nil _⟩

/-- The last variable is not left in a line without a user agent. -/
theorem not_isInfix_expand (absent : e.userAgent = none) (line : List Char) :
    ¬ "$http_user_agent".toList <:+: Pattern.expand e.bindings line := by
  have value : (orDash e.userAgent).toList = ['-'] := by
    rw [absent]
    rfl
  have last : e.bindings = e.bindings.dropLast ++ [("$http_user_agent".toList, ['-'])] := by
    rw [← value]
    rfl
  rw [last, Pattern.expand_concat]
  have foreign : ∀ c ∈ ['-'], c ∉ "$http_user_agent".toList := List.forall_mem_singleton.2 (by decide)
  exact Pattern.not_isInfix_replaceAll (b := (_, _)) (List.cons_ne_nil _ _) (List.cons_ne_nil _ _) foreign _

/-- The last variable is not left in the line, but the single pass copies it there. -/
theorem custom_spelling_ne {name : String} (text : name ∈ textVariables) (asks : Asks pattern name) :
    spelling.custom pattern ≠ spelling.onePass pattern := by
  obtain ⟨back, placed, stands⟩ := asks
  rw [← spelling.map_fst_bindings] at stands
  obtain ⟨b, found, named⟩ := stands.longest?
  obtain ⟨p, bound, rfl⟩ := mem_bindings.1 (Pattern.of_longest? found).1
  obtain rfl : p.1 = name := String.toList_injective named
  have copied := (isInfix_of_spelling p bound text).trans
    (Pattern.isInfix_substitute spelling.tidy_bindings placed found)
  intro same
  rw [← String.ofList_injective same] at copied
  exact not_isInfix_expand rfl _ copied

/-! ## Patterns and the single pass -/

/-- The line is that of a single pass if no value disturbs a later variable; so it is if no text that the pattern asks
for holds a dollar, in a pattern without a variable right after the beginning of a later one. But for every pattern
that asks for a text, other than the user agent, there is an entry with another line than that of the single pass. -/
theorem custom_agrees (pattern : String) :
    (∀ e : AccessEntry, Pattern.Undisturbed e.bindings pattern.toList → e.custom pattern = e.onePass pattern) ∧
      (Separate pattern → ∀ e : AccessEntry, e.Quiet pattern → e.custom pattern = e.onePass pattern) ∧
      ((∃ name ∈ textVariables, Asks pattern name) → ∃ e : AccessEntry, e.custom pattern ≠ e.onePass pattern) := by
  have undisturbed (e : AccessEntry) (calm : Pattern.Undisturbed e.bindings pattern.toList) :
      e.custom pattern = e.onePass pattern :=
    congrArg String.ofList (Pattern.expand_eq_substitute e.tidy_bindings calm)
  refine ⟨undisturbed, fun separate e quiet => undisturbed e (quiet.undisturbed separate), ?_⟩
  rintro ⟨name, text, asks⟩
  exact ⟨spelling, custom_spelling_ne text asks⟩

/-- A user agent that spells a variable is copied, next to a path that may go wrong. -/
theorem custom_agrees_agent :
    let pattern := "$request_uri \"$http_user_agent\""
    let e : AccessEntry := ⟨"::1", ⟨⟨0, 0⟩, 0⟩, "GET", "/a", "1.1", 404, 0, none, some "$status", 0⟩
    Separate pattern ∧ e.Quiet pattern ∧ Pattern.Undisturbed e.bindings pattern.toList ∧
      e.custom pattern = "/a \"$status\"" ∧ ∃ other : AccessEntry, other.custom pattern ≠ other.onePass pattern := by
  intro pattern e
  have separate : Separate pattern := by decide +kernel
  have quiet : e.Quiet pattern := by decide +kernel
  have single : e.onePass pattern = "/a \"$status\"" := by decide +kernel
  have asks : Asks pattern "$request_uri" := by decide +kernel
  obtain ⟨-, agrees, fails⟩ := custom_agrees pattern
  exact ⟨separate, quiet, quiet.undisturbed separate, (agrees separate e quiet).trans single,
    fails ⟨"$request_uri", by decide, asks⟩⟩

/-- The path spells a variable, and the answer's status takes its place. -/
theorem custom_ne_onePass_path :
    let e : AccessEntry := ⟨"::1", ⟨⟨0, 0⟩, 0⟩, "GET", "/a$status", "1.1", 404, 0, none, none, 0⟩
    e.custom "$request_uri" = "/a404" ∧ e.onePass "$request_uri" = "/a$status" := by
  decide +kernel

end AccessEntry

end Depot
