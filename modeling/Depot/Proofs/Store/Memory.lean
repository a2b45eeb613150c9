import Depot.Named
import Depot.Store.Archive

/-!
# What an archive remembers

An archive is asked for descriptions and open files while the directory changes under it. `Archive.file` is what
a name leads to at one time; it does not depend on what is remembered. One call either fails and leaves
everything as it was, or it describes that file and may remember its hash (`Call.answer_of_error`,
`Call.answer_of_ok`).

Every remembered hash is that of a content which a call has met under the name (`Archive.Trusted`): a change of
the directory keeps this, a call keeps it and adds what it meets, and so it holds after any `Event`s. It follows
that what is remembered can be told from the answers by the hash alone, and then only if a name has had two
contents of one size and one last change (`Archive.answers_transparent`).
-/

namespace Depot

/-- Changes what was found. -/
def Lookup.map {α β : Type} (f : α → β) : Lookup α → Lookup β
  | found value => found (f value)
  | refused e => refused e
  | crashed => crashed

namespace Archive

/-! ## What a name leads to -/

/-- The content and the last change of the file that a name leads to. -/
def file (name : String) (a : Archive) : Except StoreError (Bytes × Moment) :=
  match a.locate name with
  | .error e => .error e
  | .ok place =>
    match a.top.at? place with
    | some (.file content modified) => .ok (content, modified)
    | _ => .error (.notFound name)

/-- The hash with which a file is described. -/
def hashOf (name : String) (content : Bytes) (modified : Moment) (a : Archive) : String :=
  (a.known? name content.length modified).getD (Sha256.hex content)

/-- The archive after a file was described. -/
def memorize (name : String) (content : Bytes) (modified : Moment) (a : Archive) : Archive :=
  match a.known? name content.length modified with
  | some _ => a
  | none => a.remember name ⟨content.length, modified, Sha256.hex content⟩

/-- An archive of the same directory that has not been asked for anything. -/
def anew (a : Archive) : Archive :=
  { top := a.top, root := a.root }

/-- The second archive is the first one, but for the record of what it opened. -/
def Alike (a b : Archive) : Prop :=
  ∃ opened, b = { a with opened := opened }

variable {name : String} {content : Bytes} {modified : Moment} {a b : Archive}

theorem inspect_of_error {e : StoreError} (missing : a.file name = .error e) :
    (a.inspect name).1 = .error e ∧ Alike a (a.inspect name).2 := by
  unfold file at missing
  unfold inspect
  cases located : a.locate name with
  | error reason =>
    simp only [located, Except.error.injEq] at missing
    subst missing
    exact ⟨rfl, a.opened, rfl⟩
  | ok place =>
    simp only [located] at missing
    dsimp only
    rcases found : a.top.at? place with _ | ⟨content, modified⟩ | entries
    all_goals
      rw [found] at missing
      cases missing
    · exact ⟨rfl, place :: a.opened, rfl⟩
    · exact ⟨rfl, place :: a.opened, rfl⟩

/-- The file is handed on at its first byte, whether or not its hash had to be computed. -/
theorem describeFile_eq (name : String) (content : Bytes) (modified : Moment) (a : Archive) :
    a.describeFile name ⟨content, modified, 0⟩ =
      (artifactOf content.length modified (a.hashOf name content modified), ⟨content, modified, 0⟩,
        a.memorize name content modified) := by
  unfold describeFile hashOf memorize
  dsimp only
  cases a.known? name content.length modified with
  | some hash => rfl
  | none => rfl

theorem memorize_opened (name : String) (content : Bytes) (modified : Moment) (opened : List Place)
    (a : Archive) : memorize name content modified { a with opened := opened } =
      { a.memorize name content modified with opened := opened } := by
  have same : known? name content.length modified { a with opened := opened } =
      a.known? name content.length modified := rfl
  unfold memorize
  rw [same]
  cases a.known? name content.length modified with
  | some hash => rfl
  | none => rfl

theorem inspect_of_ok (present : a.file name = .ok (content, modified)) :
    (a.inspect name).1 =
        .ok (⟨content, modified, 0⟩, artifactOf content.length modified (a.hashOf name content modified)) ∧
      Alike (a.memorize name content modified) (a.inspect name).2 := by
  unfold file at present
  unfold inspect
  cases located : a.locate name with
  | error reason =>
    simp only [located] at present
    cases present
  | ok place =>
    simp only [located] at present
    dsimp only
    rcases found : a.top.at? place with _ | ⟨content, modified⟩ | entries
    all_goals
      rw [found] at present
      cases present
    simp only [describeFile_eq]
    exact ⟨rfl, place :: a.opened, memorize_opened name _ _ (place :: a.opened) a⟩

/-! ## Calls -/

/-- A call to an archive. -/
inductive Call
  | describe (target : String)
  | fetch (target : String)
deriving DecidableEq, Repr

namespace Call

/-- The name that a call asks for. -/
def target : Call → String
  | describe target | fetch target => target

/-- What a call is answered: a description, and the open file if it was asked for. -/
def answer : Call → Archive → Lookup (Artifact × Option Source)
  | describe target, a => (Store.describe target a).1.map fun artifact => (artifact, none)
  | fetch target, a => (Store.fetch target a).1.map fun (artifact, source) => (artifact, some source)

/-- The archive after a call. -/
def apply : Call → Archive → Archive
  | describe target, a => (Store.describe target a).2
  | fetch target, a => (Store.fetch target a).2

/-- A file that holds some content, at its first byte, if a call asks for it. -/
def source? : Call → Bytes → Option Source
  | describe _, _ => none
  | fetch _, content => some (.ofBytes content)

theorem answer_of_error {call : Call} {e : StoreError} (missing : a.file call.target = .error e) :
    call.answer a = .refused e ∧ Alike a (call.apply a) := by
  obtain ⟨failed, same⟩ := inspect_of_error missing
  cases call with
  | describe target =>
    dsimp only [Call.target] at failed
    refine ⟨?_, same⟩
    simp only [answer, Store.describe, Archive.describe, failed]
    rfl
  | fetch target =>
    dsimp only [Call.target] at failed
    refine ⟨?_, same⟩
    simp only [answer, Store.fetch, Archive.fetch, failed]
    rfl

theorem answer_of_ok {call : Call} (present : a.file call.target = .ok (content, modified)) :
    call.answer a =
        .found (artifactOf content.length modified (a.hashOf call.target content modified),
          call.source? content) ∧
      Alike (a.memorize call.target content modified) (call.apply a) := by
  obtain ⟨described, same⟩ := inspect_of_ok present
  cases call with
  | describe target =>
    dsimp only [Call.target] at described
    refine ⟨?_, same⟩
    simp only [answer, Store.describe, Archive.describe, described]
    rfl
  | fetch target =>
    dsimp only [Call.target] at described
    refine ⟨?_, same⟩
    simp only [answer, Store.fetch, Archive.fetch, described]
    rfl

end Call

/-! ## Events -/

/-- A change of the directory. -/
inductive Change
  | write (target : String) (content : Bytes) (modified : Moment)
  | touch (target : String) (modified : Moment)
  | remove (target : String)
  | makeDirectory (target : String)
deriving DecidableEq, Repr

/-- The archive after a change of its directory. -/
def Change.apply : Change → Archive → Archive
  | write target content modified, a => a.write target content modified
  | touch target modified, a => a.touch target modified
  | remove target, a => a.remove target
  | makeDirectory target, a => a.makeDirectory target

/-- What may happen to an archive. -/
inductive Event
  | change (c : Change)
  | call (c : Call)
deriving DecidableEq, Repr

/-- The archive after an event. -/
def Event.apply : Event → Archive → Archive
  | change c, a => c.apply a
  | call c, a => c.apply a

/-- The archive after some events. -/
def after (a : Archive) (events : List Event) : Archive :=
  events.foldl (fun a event => event.apply a) a

/-- A change of the directory has nothing to do with what is remembered or was opened. -/
theorem Change.apply_with (c : Change) (remembered : List (String × Remembered)) (opened : List Place)
    (a : Archive) : c.apply { a with remembered := remembered, opened := opened } =
      { c.apply a with remembered := remembered, opened := opened } := by
  cases c with
  | write | remove => rfl
  | touch target modified =>
    simp only [apply, Archive.touch]
    split <;> rfl
  | makeDirectory target =>
    simp only [apply, Archive.makeDirectory]
    split <;> rfl

theorem Change.remembered_apply (c : Change) (a : Archive) : (c.apply a).remembered = a.remembered := by
  have kept := congrArg Archive.remembered (c.apply_with a.remembered a.opened a)
  exact kept

namespace Alike

theorem answer (alike : Alike a b) (call : Call) : call.answer b = call.answer a := by
  obtain ⟨opened, rfl⟩ := alike
  cases file : a.file call.target with
  | error e =>
    have same : Archive.file call.target { a with opened := opened } = .error e := file
    rw [(Call.answer_of_error same).1, (Call.answer_of_error file).1]
  | ok found =>
    have same : Archive.file call.target { a with opened := opened } = .ok found := file
    rw [(Call.answer_of_ok same).1, (Call.answer_of_ok file).1]
    rfl

theorem trans {c : Archive} (first : Alike a b) (second : Alike b c) : Alike a c := by
  obtain ⟨opened, rfl⟩ := first
  obtain ⟨opened', rfl⟩ := second
  exact ⟨opened', rfl⟩

theorem symm (alike : Alike a b) : Alike b a := by
  obtain ⟨opened, rfl⟩ := alike
  exact ⟨a.opened, rfl⟩

theorem apply (alike : Alike a b) (event : Event) : Alike (event.apply a) (event.apply b) := by
  cases event with
  | change c =>
    obtain ⟨opened, rfl⟩ := alike
    refine ⟨opened, ?_⟩
    rw [Event.apply, Event.apply, c.remembered_apply]
    exact c.apply_with a.remembered opened a
  | call c =>
    obtain ⟨opened, rfl⟩ := alike
    cases file : a.file c.target with
    | error e =>
      have same : Archive.file c.target { a with opened := opened } = .error e := file
      exact (Call.answer_of_error file).2.symm.trans (trans ⟨opened, rfl⟩ (Call.answer_of_error same).2)
    | ok found =>
      have same : Archive.file c.target { a with opened := opened } = .ok found := file
      have kept : Alike (a.memorize c.target found.1 found.2)
          (Archive.memorize c.target found.1 found.2 { a with opened := opened }) :=
        ⟨opened, memorize_opened c.target found.1 found.2 opened a⟩
      exact (Call.answer_of_ok file).2.symm.trans (kept.trans (Call.answer_of_ok same).2)

theorem after (alike : Alike a b) (events : List Event) : Alike (a.after events) (b.after events) := by
  induction events generalizing a b with
  | nil => exact alike
  | cons event rest ih => exact ih (alike.apply event)

end Alike

/-! ## Remembered hashes -/

/-- At one of the calls for a name, the name leads to a file with this content and last change. -/
inductive Seen (target : String) (content : Bytes) (modified : Moment) : Archive → List Event → Prop
  | now {a : Archive} {call : Call} {rest : List Event} : call.target = target →
    a.file target = .ok (content, modified) → Seen target content modified a (.call call :: rest)
  | later {a : Archive} {event : Event} {rest : List Event} :
    Seen target content modified (event.apply a) rest → Seen target content modified a (event :: rest)

/-- Every remembered hash is that of a known content of the name. -/
def Trusted (known : String → Bytes → Moment → Prop) (a : Archive) : Prop :=
  ∀ target r, a.rememberedFor? target = some r →
    ∃ content, known target content r.modified ∧ content.length = r.size ∧ r.hash = Sha256.hex content

theorem rememberedFor?_remember (target other : String) (r : Remembered) (a : Archive) :
    (a.remember target r).rememberedFor? other = if other = target then some r else a.rememberedFor? other := by
  unfold remember rememberedFor?
  split
  · rename_i same
    simp [same]
  · rename_i ne
    rw [List.find?_cons_of_neg (by simpa using Ne.symm ne), find?_filter_ne Prod.fst (Ne.symm ne)]

namespace Trusted

variable {known : String → Bytes → Moment → Prop}

theorem mono {known' : String → Bytes → Moment → Prop}
    (more : ∀ target content modified, known target content modified → known' target content modified)
    (trusted : a.Trusted known) : a.Trusted known' := by
  intro target r found
  obtain ⟨content, met, size, hash⟩ := trusted target r found
  exact ⟨content, more _ _ _ met, size, hash⟩

theorem congr (same : b.remembered = a.remembered) (trusted : a.Trusted known) : b.Trusted known := by
  intro target r found
  unfold rememberedFor? at found
  rw [same] at found
  exact trusted target r found

/-- What is remembered of a file is the hash of a content of the same size and last change. -/
theorem known?_eq {target hash : String} {size : Nat} (trusted : a.Trusted known)
    (found : a.known? target size modified = some hash) :
    ∃ content, known target content modified ∧ content.length = size ∧ hash = Sha256.hex content := by
  unfold known? at found
  split at found
  · rename_i r remembered
    split at found
    · rename_i fits
      obtain ⟨rfl, rfl⟩ := fits
      cases found
      exact trusted target r remembered
    · cases found
  · cases found

/-- A file is described by the hash of a content of the same size and last change, its own if need be. -/
theorem hashOf_eq {target : String} (trusted : a.Trusted known) (met : known target content modified) :
    ∃ other, known target other modified ∧ other.length = content.length ∧
      a.hashOf target content modified = Sha256.hex other := by
  unfold hashOf
  cases found : a.known? target content.length modified with
  | none => exact ⟨content, met, rfl, rfl⟩
  | some hash => exact trusted.known?_eq found

theorem memorize {target : String} (trusted : a.Trusted known) (met : known target content modified) :
    (a.memorize target content modified).Trusted known := by
  unfold Archive.memorize
  split
  · exact trusted
  · intro other r found
    rw [rememberedFor?_remember] at found
    split at found
    · rename_i same
      cases found
      exact ⟨content, same ▸ met, rfl, rfl⟩
    · exact trusted other r found

/-- A call keeps what is remembered in order if the file that it meets counts as known. -/
theorem call {c : Call} (trusted : a.Trusted known)
    (meets : ∀ content modified, a.file c.target = .ok (content, modified) → known c.target content modified) :
    (c.apply a).Trusted known := by
  cases file : a.file c.target with
  | error e =>
    obtain ⟨opened, same⟩ := (Call.answer_of_error file).2
    exact trusted.congr (congrArg Archive.remembered same)
  | ok found =>
    obtain ⟨opened, same⟩ := (Call.answer_of_ok file).2
    exact (trusted.memorize (meets _ _ file)).congr (congrArg Archive.remembered same)

/-- After some events, what is remembered was known before or met by a call in between. -/
theorem after (trusted : a.Trusted known) (events : List Event) :
    (a.after events).Trusted fun target content modified =>
      known target content modified ∨ Seen target content modified a events := by
  induction events generalizing a known with
  | nil => exact trusted.mono fun _ _ _ met => .inl met
  | cons event rest ih =>
    cases event with
    | change c =>
      have kept : (c.apply a).Trusted known := trusted.congr (c.remembered_apply a)
      refine (ih kept).mono ?_
      rintro target content modified (met | met)
      · exact .inl met
      · exact .inr (.later met)
    | call c =>
      -- What the call is about to meet counts as known before it, so that the call adds nothing new.
      have wider : a.Trusted fun target content modified => known target content modified ∨
          (c.target = target ∧ a.file target = .ok (content, modified)) :=
        trusted.mono fun _ _ _ met => .inl met
      have kept := wider.call fun content modified file => .inr ⟨rfl, file⟩
      refine (ih kept).mono ?_
      rintro target content modified ((met | ⟨same, file⟩) | met)
      · exact .inl met
      · exact .inr (.now same file)
      · exact .inr (.later met)

end Trusted

/-! ## Transparency -/

theorem Seen.append {target : String} {front : List Event} (seen : Seen target content modified a front)
    (back : List Event) : Seen target content modified a (front ++ back) := by
  induction seen with
  | now same file => exact .now same file
  | later _ ih => exact .later ih

theorem seen_of_file {events : List Event} {call : Call}
    (file : (a.after events).file call.target = .ok (content, modified)) :
    Seen call.target content modified a (events ++ [.call call]) := by
  induction events generalizing a with
  | nil => exact .now rfl file
  | cons event rest ih => exact .later (ih file)

/-- An answer without the hash. -/
def unhashed (answer : Artifact × Option Source) : Nat × Option Moment × Option Source :=
  (answer.1.size, answer.1.modified, answer.2)

/-- What is remembered shows in the answer of a call at most by the hash, and that is the hash of a content that
was met under the name with the size and the last change that it has now. -/
structure Transparent (a : Archive) (call : Call) (met : Bytes → Moment → Prop) : Prop where
  unhashed : (call.answer a).map unhashed = (call.answer a.anew).map unhashed
  found : ∀ artifact source, call.answer a = .found (artifact, source) →
    ∃ content modified, a.file call.target = .ok (content, modified) ∧ source = call.source? content ∧
      artifact.size = content.length ∧ artifact.modified = some modified ∧
      ∃ earlier, met earlier modified ∧ earlier.length = content.length ∧ artifact.hash = Sha256.hex earlier
  unambiguous : (∀ content other modified, met content modified → met other modified →
    content.length = other.length → content = other) → call.answer a = call.answer a.anew
  refused : ∀ e, call.answer a = .refused e → ∀ later (other : Call),
    other.answer ((call.apply a).after later) = other.answer (a.after later)

/-- Whatever has happened to the directory and to an archive of it, answers do not depend on what the archive
remembers, except for the hash of a content that was replaced by one of the same size and last change. -/
theorem answers_transparent (start : Archive) (events : List Event) (call : Call) :
    Transparent (start.anew.after events) call fun content modified =>
      Seen call.target content modified start.anew (events ++ [.call call]) := by
  have nothing : start.anew.Trusted fun _ _ _ => False := by
    rintro target r ⟨⟩
  have trusted : (start.anew.after events).Trusted fun target content modified =>
      Seen target content modified start.anew (events ++ [.call call]) := by
    refine (nothing.after events).mono ?_
    rintro target content modified (⟨⟨⟩⟩ | seen)
    exact seen.append _
  -- From here on, the past matters only as the contents that were met.
  generalize now : start.anew.after events = a at trusted
  cases file : a.file call.target with
  | error e =>
    have fresh : a.anew.file call.target = .error e := file
    obtain ⟨answer, alike⟩ := Call.answer_of_error file
    have same : call.answer a = call.answer a.anew := by
      rw [answer, (Call.answer_of_error fresh).1]
    refine ⟨congrArg _ same, ?_, fun _ => same, ?_⟩
    · intro artifact source found
      rw [answer] at found
      cases found
    · intro _ _ later other
      exact (alike.after later).answer other
  | ok found =>
    obtain ⟨content, modified⟩ := found
    have fresh : a.anew.file call.target = .ok (content, modified) := file
    obtain ⟨answer, -⟩ := Call.answer_of_ok file
    obtain ⟨anew, -⟩ := Call.answer_of_ok fresh
    have met : Seen call.target content modified start.anew (events ++ [.call call]) :=
      seen_of_file (now ▸ file)
    obtain ⟨earlier, seen, size, hash⟩ := trusted.hashOf_eq met
    refine ⟨?_, ?_, ?_, ?_⟩
    · rw [answer, anew]
      rfl
    · intro artifact source same
      rw [answer, hash] at same
      cases same
      exact ⟨content, modified, file, rfl, rfl, rfl, earlier, seen, size, rfl⟩
    · intro unique
      rw [answer, anew, hash, unique earlier content modified seen met size]
      rfl
    · intro e refused
      rw [answer] at refused
      cases refused

/-- A file of the same size and last change is described by the hash of the one that it replaced. -/
example : (Call.describe "a").answer (after { top := .empty, root := [] }
    [.change (.write "a" [7] ⟨5, 0⟩), .call (.fetch "a"), .change (.write "a" [8] ⟨5, 0⟩)]) =
      .found (artifactOf 1 ⟨5, 0⟩ (Sha256.hex [7]), none) := by
  rfl

end Archive

end Depot
