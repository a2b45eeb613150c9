import Depot.Proofs.Store.Memory

/-!
# The directory of an archive

An archive opens things by the text of a path, and the system follows that text through the tree name by name.
`Archive.locate_of_isName` says that for a name that may be looked up the two go together: wherever the path of the
directory leads, the path of the name leads to the child of that name and nowhere else. So an archive opens children
of its directory only (`Archive.opened_inspect`), and its answers are a matter of the regular files among them:
archives whose directories show the same files (`Archive.Agrees`) cannot be told apart (`Archive.Agrees.inspect`).
-/

namespace Depot

/-! ## Paths -/

theorem pathNames_append (front back : String) (plain : '/' ∉ back.toList) :
    pathNames (front ++ "/" ++ back) = pathNames front ++ [back] := by
  have slash : (front ++ "/" ++ back).toList = front.toList ++ '/' :: back.toList := by
    simp [String.toList_append]
  rw [pathNames, slash, List.splitOn_append_cons_self, List.splitOn_eq_singleton plain, List.map_append,
    List.map_singleton, String.ofList_toList]
  rfl

theorem pathNames_join (front : String) {parts : List String} (plain : ∀ part ∈ parts, '/' ∉ part.toList) :
    pathNames (front ++ String.join (parts.map fun part => "/" ++ part)) = pathNames front ++ parts := by
  induction parts generalizing front with
  | nil => simp
  | cons part rest ih =>
    have rest := ih (front ++ "/" ++ part) fun other member => plain other (List.mem_cons_of_mem _ member)
    rw [pathNames_append _ _ (plain part List.mem_cons_self)] at rest
    rw [List.map_cons, String.join_cons, ← String.append_assoc, ← String.append_assoc, rest, List.append_assoc]
    rfl

namespace Node

/-- A name that leads to a child of a directory, if anywhere. -/
def IsChildName (name : String) : Prop :=
  name ≠ "" ∧ name ≠ "." ∧ name ≠ ".." ∧ '/' ∉ name.toList

theorem walk_append (top : Node) (place : Place) (front back : List String) :
    top.walk place (front ++ back) = (top.walk place front).bind fun next => top.walk next back := by
  induction front generalizing place with
  | nil => rfl
  | cons name rest ih =>
    simp only [List.cons_append, walk]
    cases top.step place name with
    | error e => rfl
    | ok next => exact ih next

theorem walk_singleton (top : Node) (place : Place) (name : String) :
    top.walk place [name] = top.step place name := by
  simp only [walk]
  cases top.step place name <;> rfl

/-- Goes on to a child of a directory. -/
def enter (top : Node) (place : Place) (name : String) : Except IoError Place :=
  if maxNameLength < (utf8 name).length then .error .nameTooLong
  else if (top.at? (place ++ [name])).isSome then .ok (place ++ [name])
  else .error .missing

theorem eq_of_enter {top : Node} {place next : Place} {name : String}
    (entered : top.enter place name = .ok next) : next = place ++ [name] := by
  unfold enter at entered
  split at entered
  · cases entered
  · split at entered <;> cases entered
    rfl

theorem step_empty_eq_ok_iff {top : Node} {place next : Place} :
    top.step place "" = .ok next ↔ next = place ∧ ∃ entries, top.at? place = some (.directory entries) := by
  unfold step
  rcases top.at? place with _ | ⟨content, modified⟩ | entries
  · simp
  · simp
  · simp [eq_comm (a := place)]

/-- A name that is neither empty nor a dot name leads from a directory to a child. -/
theorem step_eq_enter {top : Node} {place : Place} {name : String} {entries : List (String × Node)}
    (directory : top.at? place = some (.directory entries)) (some : name ≠ "") (dot : name ≠ ".")
    (dots : name ≠ "..") : top.step place name = top.enter place name := by
  have child : top.at? (place ++ [name]) = entryOf? name entries := by
    rw [at?_append, directory, Option.bind_some, at?, child?]
    cases entryOf? name entries <;> rfl
  have noStay : ¬ (name = "" ∨ name = ".") := not_or.2 ⟨some, dot⟩
  simp only [step, directory, enter, child]
  rw [if_neg noStay, if_neg dots]

/-- Where a name leads to fails in the same way wherever its directory cannot be entered. -/
theorem step_of_not_directory {top : Node} {place : Place}
    (noDirectory : ∀ entries, top.at? place ≠ some (.directory entries)) (name other : String) :
    top.step place name = top.step place other := by
  unfold step
  rcases found : top.at? place with _ | ⟨content, modified⟩ | entries
  · rfl
  · rfl
  · exact absurd found (noDirectory entries)

theorem step_eq_ok {top : Node} {place next : Place} {name : String} (child : IsChildName name)
    (stepped : top.step place name = .ok next) : next = place ++ [name] := by
  obtain ⟨some, dot, dots, -⟩ := child
  by_cases directory : ∃ entries, top.at? place = Option.some (.directory entries)
  · obtain ⟨entries, directory⟩ := directory
    rw [step_eq_enter directory some dot dots] at stepped
    exact eq_of_enter stepped
  · rw [step_of_not_directory (fun entries found => directory ⟨entries, found⟩) name ""] at stepped
    exact absurd (step_empty_eq_ok_iff.1 stepped).2 directory

theorem walk_eq_ok {top : Node} {place next : Place} {names : List String}
    (children : ∀ name ∈ names, IsChildName name) (walked : top.walk place names = .ok next) :
    next = place ++ names := by
  induction names generalizing place with
  | nil =>
    cases walked
    exact (List.append_nil _).symm
  | cons name rest ih =>
    rw [walk] at walked
    cases stepped : top.step place name with
    | error e =>
      rw [stepped] at walked
      cases walked
    | ok between =>
      rw [stepped] at walked
      have later := ih (fun other member => children other (List.mem_cons_of_mem _ member)) walked
      rw [later, step_eq_ok (children name List.mem_cons_self) stepped, List.append_assoc]
      rfl

end Node

namespace Archive

variable {a b : Archive} {name : String}

/-! ## Children of the directory -/

/-- The place that the path of the directory leads to. -/
def home (a : Archive) : Except IoError Place :=
  a.top.locate [] (a.pathOf "")

/-- The path of a name goes through that of the directory. -/
theorem locate_pathOf (a : Archive) (slash : '/' ∉ name.toList) (null : '\x00' ∉ name.toList) :
    a.top.locate [] (a.pathOf name) =
      if '\x00' ∈ (String.join (a.root.map fun part => "/" ++ part)).toList then .error .nullInPath
      else (a.top.walk [] (pathNames (String.join (a.root.map fun part => "/" ++ part)))).bind fun place =>
        a.top.step place name := by
  unfold Node.locate pathOf
  generalize String.join (a.root.map fun part => "/" ++ part) = front
  have nulls : (front ++ "/" ++ name).toList.contains '\x00' = true ↔ '\x00' ∈ front.toList := by
    simp [String.toList_append, null]
  have some : front ++ "/" ++ name ≠ "" := by
    intro empty
    have length := congrArg (fun text => text.toList.length) empty
    simp [String.toList_append] at length
  by_cases nullInFront : '\x00' ∈ front.toList
  · rw [if_pos (nulls.2 nullInFront), if_pos nullInFront]
  · rw [if_neg (mt nulls.1 nullInFront), if_neg nullInFront, if_neg some, ite_self, pathNames_append _ _ slash,
      Node.walk_append]
    simp only [Node.walk_singleton]

theorem not_isName_iff : ¬ IsName name ↔
    name = "" ∨ name = "." ∨ name = ".." ∨ '/' ∈ name.toList ∨ '\\' ∈ name.toList ∨ '\x00' ∈ name.toList := by
  simp only [IsName, Classical.not_and_iff_not_or_not, ne_eq, Classical.not_not]

/-- The path of a name that may be looked up leads to the child of that name, and nowhere else. -/
theorem locate_of_isName (a : Archive) (named : IsName name) :
    a.top.locate [] (a.pathOf name) = a.home.bind fun home => a.top.enter home name := by
  obtain ⟨some, dot, dots, slash, -, null⟩ := named
  rw [home, a.locate_pathOf slash null, a.locate_pathOf (by simp) (by simp)]
  split
  · rfl
  · cases a.top.walk [] (pathNames (String.join (a.root.map fun part => "/" ++ part))) with
    | error e => rfl
    | ok place =>
      change a.top.step place name = (a.top.step place "").bind fun home => a.top.enter home name
      by_cases directory : ∃ entries, a.top.at? place = Option.some (.directory entries)
      · have stays : a.top.step place "" = .ok place := Node.step_empty_eq_ok_iff.2 ⟨rfl, directory⟩
        obtain ⟨entries, directory⟩ := directory
        rw [stays, Node.step_eq_enter directory some dot dots]
        rfl
      · rw [Node.step_of_not_directory (fun entries found => directory ⟨entries, found⟩) name ""]
        cases stays : a.top.step place "" with
        | error e => rfl
        | ok next => exact absurd (Node.step_empty_eq_ok_iff.1 stays).2 directory

theorem locate_eq_ok_iff {place : Place} :
    a.locate name = .ok place ↔
      IsName name ∧ ∃ home, a.home = .ok home ∧ a.top.enter home name = .ok place := by
  unfold locate
  split
  · rename_i named
    rw [a.locate_of_isName named]
    cases a.home with
    | error e => simp [Except.bind, named]
    | ok home =>
      cases entered : a.top.enter home name <;> simp [Except.bind, named, entered]
  · rename_i unnamed
    simp [unnamed]

/-- The top and the directory stay what they are. -/
theorem inspect_same (name : String) (a : Archive) :
    (a.inspect name).2.top = a.top ∧ (a.inspect name).2.root = a.root := by
  cases file : a.file name with
  | error e =>
    obtain ⟨opened, same⟩ := (inspect_of_error file).2
    rw [same]
    exact ⟨rfl, rfl⟩
  | ok found =>
    obtain ⟨opened, same⟩ := (inspect_of_ok file).2
    rw [same]
    unfold memorize
    split <;> exact ⟨rfl, rfl⟩

/-- A directory whose place is made of names that can stand in a path is at that place. -/
theorem home_eq_root {place : Place} (plain : ∀ part ∈ a.root, Node.IsChildName part)
    (reached : a.home = .ok place) : place = a.root := by
  have names : pathNames (String.join (a.root.map fun part => "/" ++ part)) = "" :: a.root := by
    have joined := pathNames_join "" fun part member => (plain part member).2.2.2
    rwa [String.empty_append] at joined
  rw [home, a.locate_pathOf (by simp) (by simp), names] at reached
  split at reached
  · cases reached
  · cases atTop : a.top.step [] "" with
    | error e =>
      rw [Node.walk, atTop] at reached
      cases reached
    | ok top =>
      obtain rfl := (Node.step_empty_eq_ok_iff.1 atTop).1
      rw [Node.walk, atTop] at reached
      cases walked : a.top.walk [] a.root with
      | error e =>
        simp only [walked, Except.bind] at reached
        cases reached
      | ok last =>
        simp only [walked, Except.bind] at reached
        rw [(Node.step_empty_eq_ok_iff.1 reached).1, Node.walk_eq_ok plain walked]
        rfl

/-- What is opened is the child of the name. -/
theorem opened_inspect (name : String) (a : Archive) :
    (a.inspect name).2.opened = a.opened ∨
      IsName name ∧ ∃ home, a.home = .ok home ∧ (a.inspect name).2.opened = (home ++ [name]) :: a.opened := by
  cases located : a.locate name with
  | error e =>
    left
    simp only [inspect, located]
  | ok place =>
    right
    obtain ⟨named, home, atHome, entered⟩ := locate_eq_ok_iff.1 located
    obtain rfl := Node.eq_of_enter entered
    refine ⟨named, home, atHome, ?_⟩
    simp only [inspect, located]
    split
    · rename_i content modified found
      rw [describeFile_eq, memorize_opened]
    · rfl

/-! ## Files of the directory -/

/-- The regular file that stands at a place. -/
def regular? (a : Archive) (place : Place) : Option (Bytes × Moment) :=
  match a.top.at? place with
  | some (.file content modified) => some (content, modified)
  | _ => none

/-- The regular files of the directory by name, or why it cannot be reached. -/
def files (a : Archive) : Except IoError (String → Option (Bytes × Moment)) :=
  a.home.map fun home name => a.regular? (home ++ [name])

theorem file_of_isName (a : Archive) (named : IsName name) :
    a.file name = match a.files with
      | .error e => .error (openError name e)
      | .ok files =>
        if maxNameLength < (utf8 name).length then .error (.io .nameTooLong)
        else match files name with
          | some found => .ok found
          | none => .error (.notFound name) := by
  rw [file, locate, if_pos named, a.locate_of_isName named, files]
  cases a.home with
  | error e => rfl
  | ok home =>
    simp only [Except.bind, Except.map, Node.enter, regular?]
    by_cases long : maxNameLength < (utf8 name).length
    · rw [if_pos long, if_pos long]
      rfl
    · rw [if_neg long, if_neg long]
      rcases found : a.top.at? (home ++ [name]) with _ | ⟨content, modified⟩ | entries
      · rfl
      · simp [found]
      · simp [found]

theorem file_of_not_isName (a : Archive) (unnamed : ¬ IsName name) :
    a.file name = .error (.invalidName name) ∧ a.inspect name = (.error (.invalidName name), a) := by
  have refused : a.locate name = .error (.invalidName name) := if_neg unnamed
  constructor
  · rw [file, refused]
  · simp only [inspect, refused]

theorem home_inspect (a : Archive) (name : String) : (a.inspect name).2.home = a.home := by
  obtain ⟨top, root⟩ := inspect_same name a
  unfold home pathOf
  rw [top, root]

theorem files_inspect (a : Archive) (name : String) : (a.inspect name).2.files = a.files := by
  obtain ⟨top, root⟩ := inspect_same name a
  unfold files home pathOf regular?
  rw [top, root]

/-- A file that a name leads to is a regular file of the directory. -/
theorem exists_regular_of_file {content : Bytes} {modified : Moment} (present : a.file name = .ok (content, modified)) :
    IsName name ∧ ∃ home, a.home = .ok home ∧ a.top.at? (home ++ [name]) = some (.file content modified) := by
  by_cases named : IsName name
  · refine ⟨named, ?_⟩
    rw [a.file_of_isName named, files] at present
    cases atHome : a.home with
    | error e =>
      rw [atHome] at present
      cases present
    | ok home =>
      refine ⟨home, rfl, ?_⟩
      simp only [atHome, Except.map, regular?] at present
      split at present
      · cases present
      · rcases found : a.top.at? (home ++ [name]) with _ | ⟨content', modified'⟩ | entries
        all_goals
          rw [found] at present
          cases present
        rfl
  · rw [(a.file_of_not_isName named).1] at present
    cases present

/-! ## Lookups -/

theorem fetch_fst (name : String) (a : Archive) : (Store.fetch name a).1 =
    .ofExcept ((a.inspect name).1.map fun (file, artifact) => (artifact, file.source)) :=
  rfl

theorem describe_fst (name : String) (a : Archive) :
    (Store.describe name a).1 = .ofExcept ((a.inspect name).1.map Prod.snd) :=
  rfl

theorem lookups_of_error {e : StoreError} (missing : a.file name = .error e) :
    (Store.fetch name a).1 = .refused e ∧ (Store.describe name a).1 = .refused e := by
  rw [fetch_fst, describe_fst, (inspect_of_error missing).1]
  exact ⟨rfl, rfl⟩

theorem lookups_of_ok {content : Bytes} {modified : Moment} (present : a.file name = .ok (content, modified)) :
    ∃ artifact, (Store.fetch name a).1 = .found (artifact, .ofBytes content) ∧
      (Store.describe name a).1 = .found artifact := by
  rw [fetch_fst, describe_fst, (inspect_of_ok present).1]
  exact ⟨_, rfl, rfl⟩

/-- Two directories show the same files, and the same is remembered of them. -/
structure Agrees (a b : Archive) : Prop where
  files : a.files = b.files
  remembered : a.remembered = b.remembered

namespace Agrees

theorem file (agrees : Agrees a b) (name : String) : a.file name = b.file name := by
  by_cases named : IsName name
  · rw [a.file_of_isName named, b.file_of_isName named, agrees.files]
  · rw [(a.file_of_not_isName named).1, (b.file_of_not_isName named).1]

theorem known? (agrees : Agrees a b) (name : String) (size : Nat) (modified : Moment) :
    a.known? name size modified = b.known? name size modified := by
  unfold Archive.known? rememberedFor?
  rw [agrees.remembered]

theorem hashOf (agrees : Agrees a b) (name : String) (content : Bytes) (modified : Moment) :
    a.hashOf name content modified = b.hashOf name content modified := by
  unfold Archive.hashOf
  rw [agrees.known?]

theorem remembered_memorize (agrees : Agrees a b) (name : String) (content : Bytes) (modified : Moment) :
    (a.memorize name content modified).remembered = (b.memorize name content modified).remembered := by
  unfold memorize
  rw [agrees.known?]
  split
  · exact agrees.remembered
  · unfold remember
    rw [agrees.remembered]

/-- Archives that agree describe what a name leads to in the same way, and then still agree. -/
theorem inspect (agrees : Agrees a b) (name : String) :
    (a.inspect name).1 = (b.inspect name).1 ∧ Agrees (a.inspect name).2 (b.inspect name).2 := by
  have files : (a.inspect name).2.files = (b.inspect name).2.files := by
    rw [a.files_inspect, b.files_inspect, agrees.files]
  have file := agrees.file name
  cases atA : a.file name with
  | error e =>
    have atB := file.symm.trans atA
    obtain ⟨answerA, opened, sameA⟩ := inspect_of_error atA
    obtain ⟨answerB, opened', sameB⟩ := inspect_of_error atB
    refine ⟨answerA.trans answerB.symm, files, ?_⟩
    rw [sameA, sameB]
    exact agrees.remembered
  | ok found =>
    have atB := file.symm.trans atA
    obtain ⟨answerA, opened, sameA⟩ := inspect_of_ok atA
    obtain ⟨answerB, opened', sameB⟩ := inspect_of_ok atB
    refine ⟨?_, files, ?_⟩
    · rw [answerA, answerB, agrees.hashOf]
    · rw [sameA, sameB]
      exact agrees.remembered_memorize name found.1 found.2

theorem lookups (agrees : Agrees a b) (name : String) :
    (Store.fetch name a).1 = (Store.fetch name b).1 ∧ (Store.describe name a).1 = (Store.describe name b).1 := by
  rw [fetch_fst, fetch_fst, describe_fst, describe_fst, (agrees.inspect name).1]
  exact ⟨rfl, rfl⟩

end Agrees

end Archive

end Depot
