/-
This file describes a disk that a program writes to: a directory tree without links, in which
directories are created and files are written and listed by their paths.

The operations walk a path component by component, so that a path through a directory that does not
exist fails even where its lexical normal form is fine. A walk that succeeds ends at the lexical
normal form of its path. The specifications say what each operation leaves under every location, and
that names the system refuses never come onto the disk.
-/

import Kepler.Library.FileTree
import Kepler.Library.Result
import Kepler.Library.HashMap
import Mathlib.Data.List.Infix

namespace Kepler

open List Component

/-! ### Entries, names and normal forms -/

inductive DiskEntry (Content : Type) where
  | file (content : Content)
  | directory
  deriving DecidableEq, Repr

/-- A disk: its nodes by location. The root is always there. -/
abbrev Disk (Content : Type) : Type := HashMap Location (DiskEntry Content)

/-- Why the system refuses a file name, if it does. -/
def nameError (text : String) : Option PathError :=
  if Char.ofNat 0 ∈ text.toList then some .nulByte
  else if 255 < text.utf8ByteSize then some .nameTooLong
  else none

def ProperName (text : String) : Prop :=
  Component.ofText text = .name text ∧ '/' ∉ text.toList ∧ nameError text = none

def Component.follow (current : Location) : Component → Location
  | here => current
  | up => current.dropLast
  | name text => current ++ [text]

/-- The lexical normal form of a path, seen from a directory. -/
def lexical (directory : Location) (path : String) : Location :=
  (components path).foldl Component.follow (FileTree.startOf directory path)

variable {text : String}

theorem components_of_not_mem (whole : '/' ∉ text.toList) :
    components text = [Component.ofText text] := by
  rw [components, Text.split, splitOn_eq_singleton whole]
  simp

theorem components_append (directory path : String) :
    components (directory ++ "/" ++ path) = components directory ++ components path := by
  rw [components, show "/" = String.singleton '/' from rfl, Text.split_append_separator,
    map_append]
  rfl

theorem isAbsolute_append {directory : String} (spelled : directory ≠ "") (path : String) :
    isAbsolute (directory ++ path) = isAbsolute directory := by
  unfold isAbsolute
  rw [String.toList_append]
  cases characters : directory.toList with
  | nil => exact absurd (String.toList_eq_nil_iff.mp characters) spelled
  | cons => rfl

theorem foldl_follow_names (current : Location) (names : List String) :
    (names.map Component.name).foldl Component.follow current = current ++ names := by
  induction names generalizing current with
  | nil => simp
  | cons first rest inductionHypothesis =>
    rw [map_cons, foldl_cons, inductionHypothesis, follow, append_assoc]
    rfl

namespace Disk

variable {Content : Type} {first second : List Component} {names : List String}

/-! ### Operations -/

section

variable (disk : Disk Content)

def isDirectory (location : Location) : Bool :=
  location.isEmpty || (disk.lookup location).any fun
    | .directory => true
    | .file _ => false

def step (current : Location) (component : Component) : Except PathError Location :=
  if disk.isDirectory current then
    match component with
    | .here => .ok current
    | .up => .ok current.dropLast
    | .name text =>
      match nameError text, disk.lookup (current ++ [text]) with
      | some e, _ => .error e
      | none, none => .error .notFound
      | none, some _ => .ok (current ++ [text])
  else .error .notADirectory

def walk (current : Location) (rest : List Component) : Except PathError Location :=
  rest.foldlM disk.step current

def locate (directory : Location) (path : String) : Except PathError Location :=
  if path = "" then .error .notFound
  else disk.walk (FileTree.startOf directory path) (components path)

def readDir (directory : Location) : List (String × DiskEntry Content) :=
  disk.entries.filterMap fun entry =>
    match entry.1.getLast? with
    | some text => if entry.1.dropLast = directory then some (text, entry.2) else none
    | none => none

def writeIn (parent : Location) (text : String) (content : Content) :
    Disk Content × Except PathError Unit :=
  if disk.isDirectory parent then
    match nameError text, disk.lookup (parent ++ [text]) with
    | some e, _ => (disk, .error e)
    | none, some .directory => (disk, .error .isADirectory)
    | none, some (.file _) | none, none =>
      (disk.insert (parent ++ [text]) (.file content), .ok ())
  else (disk, .error .notADirectory)

/-- `fs::write`: the directories on the way have to be there. -/
def write (directory : Location) (path : String) (content : Content) :
    Disk Content × Except PathError Unit :=
  match disk.walk (FileTree.startOf directory path) (components path).dropLast,
      (components path).getLast? with
  | .error e, _ => (disk, .error e)
  | .ok parent, some (.name text) => disk.writeIn parent text content
  | .ok _, _ => (disk, .error .isADirectory)

end

/-- Create the directories that are missing. What was created before a failure stays. -/
def createDirs : Disk Content → Location → List Component →
    Disk Content × Except PathError Unit
  | disk, _, [] => (disk, .ok ())
  | disk, current, .here :: rest => createDirs disk current rest
  | disk, current, .up :: rest => createDirs disk current.dropLast rest
  | disk, current, .name text :: rest =>
    match nameError text, disk.lookup (current ++ [text]) with
    | some e, _ => (disk, .error e)
    | none, some (.file _) =>
      (disk, .error (if rest.isEmpty then .alreadyExists else .notADirectory))
    | none, some .directory => createDirs disk (current ++ [text]) rest
    | none, none =>
      createDirs (disk.insert (current ++ [text]) .directory) (current ++ [text]) rest

def createDirAll (disk : Disk Content) (directory : Location) (path : String) :
    Disk Content × Except PathError Unit :=
  disk.createDirs (FileTree.startOf directory path) (components path)

/-! ### Walks -/

section

variable {disk : Disk Content}

variable {location current : Location} {rest : List Component} {component : Component}
  {directory : Location} {path : String} {larger : Disk Content}

theorem isDirectory_of_lookup (found : disk.lookup location = some .directory) :
    disk.isDirectory location = true := by
  rw [isDirectory, found]
  simp

theorem lookup_of_isDirectory (nonempty : location ≠ [])
    (directory : disk.isDirectory location = true) : disk.lookup location = some .directory := by
  have notEmpty : location.isEmpty = false := by
    rw [← Bool.not_eq_true, List.isEmpty_iff]
    exact nonempty
  rw [isDirectory, notEmpty, Bool.false_or, Option.any_eq_true] at directory
  obtain ⟨node, found, isDirectory⟩ := directory
  cases node with
  | file => cases isDirectory
  | directory => exact found

theorem step_eq_ok :
    disk.step current component = .ok location ↔
      disk.isDirectory current = true ∧ location = component.follow current ∧
        ∀ text, component = .name text →
          nameError text = none ∧ (disk.lookup (current ++ [text])).isSome := by
  unfold step
  by_cases directory : disk.isDirectory current = true
  · rw [if_pos directory]
    cases component with
    | here | up => simpa [follow, directory] using eq_comm
    | name text => ?_
    cases refused : nameError text with
    | some e => simp [refused]
    | none =>
      cases found : disk.lookup (current ++ [text]) with
      | none => simp [refused, found]
      | some node => simpa [follow, directory, refused, found] using eq_comm
  · rw [if_neg directory]
    simp [directory]

theorem walk_cons :
    disk.walk current (component :: rest) = .ok location ↔
      ∃ next, disk.step current component = .ok next ∧ disk.walk next rest = .ok location := by
  rw [walk, foldlM_cons]
  exact Result.bind_eq_ok

/-- A walk that succeeds ends at the lexical normal form of its path. -/
theorem eq_foldl_of_walk (reached : disk.walk current rest = .ok location) :
    location = rest.foldl Component.follow current := by
  induction rest generalizing current with
  | nil => exact (Except.ok.inj reached).symm
  | cons component rest inductionHypothesis =>
    obtain ⟨next, stepped, reached⟩ := walk_cons.mp reached
    obtain ⟨_, rfl, _⟩ := step_eq_ok.mp stepped
    exact inductionHypothesis reached

theorem eq_lexical_of_locate (found : disk.locate directory path = .ok location) :
    location = lexical directory path := by
  unfold locate at found
  split_ifs at found
  exact eq_foldl_of_walk found

theorem walk_append :
    disk.walk current (first ++ second) = .ok location ↔
      ∃ middle, disk.walk current first = .ok middle ∧ disk.walk middle second = .ok location := by
  rw [walk, foldlM_append]
  exact Result.bind_eq_ok

theorem isDirectory_of_walk (reached : disk.walk current rest = .ok location)
    (directory : disk.isDirectory location = true) : disk.isDirectory current = true := by
  cases rest with
  | nil => rwa [Except.ok.inj reached]
  | cons =>
    obtain ⟨next, stepped, _⟩ := walk_cons.mp reached
    exact (step_eq_ok.mp stepped).1

theorem walk_names (start : disk.isDirectory current = true)
    (accepted : ∀ text ∈ names, nameError text = none)
    (there : ∀ ancestors, ancestors <+: names → ancestors ≠ [] →
      disk.lookup (current ++ ancestors) = some .directory) :
    disk.walk current (names.map .name) = .ok (current ++ names) := by
  induction names generalizing current with
  | nil => exact congrArg Except.ok (append_nil current).symm
  | cons first rest inductionHypothesis =>
    have child : disk.lookup (current ++ [first]) = some .directory :=
      there [first] ⟨rest, rfl⟩ (cons_ne_nil _ _)
    have stepped : disk.step current (.name first) = .ok (current ++ [first]) := by
      refine step_eq_ok.mpr ⟨start, rfl, fun text same => ?_⟩
      obtain rfl := name.inj same
      exact ⟨accepted first mem_cons_self, by rw [child]; rfl⟩
    refine walk_cons.mpr ⟨current ++ [first], stepped, ?_⟩
    rw [inductionHypothesis (isDirectory_of_lookup child)
      (fun text member => accepted text (mem_cons_of_mem _ member)), append_assoc]
    · rfl
    · intro ancestors above nonempty
      rw [append_assoc]
      exact there (first :: ancestors) ((prefix_cons_inj first).mpr above)
        (cons_ne_nil _ _)

/-- The larger disk has every node of the first, and a directory where it was one. -/
def Extends (disk larger : Disk Content) : Prop :=
  (∀ location, disk.isDirectory location = true → larger.isDirectory location = true) ∧
    ∀ location, (disk.lookup location).isSome → (larger.lookup location).isSome

theorem extends_of_lookup (grown : ∀ location, larger.lookup location = disk.lookup location ∨
      larger.lookup location = some .directory ∨
      disk.lookup location ≠ some .directory ∧ (larger.lookup location).isSome) :
    Extends disk larger := by
  constructor
  · intro location directory
    by_cases root : location = []
    · rw [root]
      rfl
    · have was := lookup_of_isDirectory root directory
      rcases grown location with same | made | ⟨notDirectory, _⟩
      · exact isDirectory_of_lookup (same.trans was)
      · exact isDirectory_of_lookup made
      · exact absurd was notDirectory
  · intro location there
    rcases grown location with same | made | ⟨_, made⟩
    · rwa [same]
    · rw [made]
      rfl
    · exact made

theorem Extends.walk (extended : Extends disk larger)
    (reached : disk.walk current rest = .ok location) :
    larger.walk current rest = .ok location := by
  induction rest generalizing current with
  | nil => exact reached
  | cons component rest inductionHypothesis =>
    obtain ⟨next, stepped, reached⟩ := walk_cons.mp reached
    obtain ⟨directory, follows, named⟩ := step_eq_ok.mp stepped
    have again : larger.step current component = .ok next :=
      step_eq_ok.mpr ⟨extended.1 current directory, follows, fun text same =>
        ⟨(named text same).1, extended.2 _ (named text same).2⟩⟩
    exact walk_cons.mpr ⟨next, again, inductionHypothesis reached⟩

theorem Extends.locate (extended : Extends disk larger)
    (found : disk.locate directory path = .ok location) :
    larger.locate directory path = .ok location := by
  unfold Disk.locate at found ⊢
  split_ifs at found ⊢
  exact extended.walk found

/-! ### Listings -/

theorem mem_readDir {entry : DiskEntry Content} :
    (text, entry) ∈ disk.readDir directory ↔ disk.lookup (directory ++ [text]) = some entry := by
  rw [readDir, mem_filterMap]
  refine Iff.trans ?_ AList.mem_lookup_iff.symm
  constructor
  · rintro ⟨⟨location, node⟩, member, listed⟩
    cases last : location.getLast? with
    | none => simp [last] at listed
    | some final => ?_
    simp only [last] at listed
    split_ifs at listed with here
    obtain ⟨rfl, rfl⟩ := Prod.mk.inj (Option.some.inj listed)
    rw [← here, dropLast_append_getLast? _ last]
    exact member
  · intro member
    exact ⟨⟨directory ++ [text], entry⟩, member, by simp⟩

theorem functional_readDir (directory : Location) :
    HashMap.Functional (disk.readDir directory) := by
  rintro ⟨text, entry⟩ first ⟨other, node⟩ second same
  subst same
  exact Option.some.inj ((mem_readDir.mp first).symm.trans (mem_readDir.mp second))

end

/-! ### Well-formed disks -/

def WellFormed (disk : Disk Content) : Prop :=
  ∀ location ∈ disk, ∀ text ∈ location, ProperName text

variable {disk : Disk Content} {current : Location}

section

variable (wellFormed : disk.WellFormed) {location : Location}

include wellFormed

theorem WellFormed.insert (proper : ∀ text ∈ location, ProperName text)
    (entry : DiskEntry Content) : WellFormed (disk.insert location entry) := by
  intro other member
  rcases (AList.mem_insert _).mp member with rfl | there
  · exact proper
  · exact wellFormed other there

theorem WellFormed.directory (directory : disk.isDirectory location = true) :
    ∀ text ∈ location, ProperName text := by
  cases location with
  | nil => simp
  | cons first rest => ?_
  apply wellFormed
  rw [← AList.lookup_isSome]
  unfold isDirectory at directory
  cases found : disk.lookup (first :: rest) with
  | none => simp [found] at directory
  | some node => rfl

theorem WellFormed.writeIn {parent : Location} (proper : Component.ofText text = .name text)
    (whole : '/' ∉ text.toList) (content : Content) :
    (disk.writeIn parent text content).1.WellFormed := by
  unfold Disk.writeIn
  split
  · next directory =>
    split
    · exact wellFormed
    · exact wellFormed
    all_goals
      next accepted _ =>
        refine wellFormed.insert (fun other member => ?_) _
        rcases mem_append.mp member with above | last
        · exact wellFormed.directory directory other above
        · obtain rfl := mem_singleton.mp last
          exact ⟨proper, whole, accepted⟩
  · exact wellFormed

theorem WellFormed.write (directory : Location) (path : String) (content : Content) :
    (disk.write directory path content).1.WellFormed := by
  unfold Disk.write
  split
  · exact wellFormed
  · next text _ last =>
    obtain ⟨proper, whole⟩ := FileTree.properComponents_components path text
      (mem_of_getLast? last)
    exact wellFormed.writeIn proper whole content
  · exact wellFormed

theorem WellFormed.createDirs (start : ∀ text ∈ current, ProperName text) {rest : List Component}
    (proper : FileTree.ProperComponents rest) : (disk.createDirs current rest).1.WellFormed := by
  induction rest generalizing disk current with
  | nil => exact wellFormed
  | cons component rest inductionHypothesis =>
    have later : FileTree.ProperComponents rest :=
      fun text member => proper text (mem_cons_of_mem _ member)
    cases component with
    | here => exact inductionHypothesis wellFormed start later
    | up =>
      exact inductionHypothesis wellFormed
        (fun text member => start text (mem_of_mem_dropLast member)) later
    | name text =>
      have child (accepted : nameError text = none) :
          ∀ other ∈ current ++ [text], ProperName other := by
        intro other member
        rcases mem_append.mp member with above | last
        · exact start other above
        · obtain rfl := mem_singleton.mp last
          obtain ⟨named, whole⟩ := proper other mem_cons_self
          exact ⟨named, whole, accepted⟩
      unfold Disk.createDirs
      split
      · exact wellFormed
      · exact wellFormed
      · next accepted _ => exact inductionHypothesis wellFormed (child accepted) later
      · next accepted _ =>
        exact inductionHypothesis (wellFormed.insert (child accepted) _) (child accepted) later

end

/-! ### What the operations leave behind -/

theorem createDirs_of_walk {current middle : Location}
    (reached : disk.walk current first = .ok middle) (directory : disk.isDirectory middle = true) :
    disk.createDirs current (first ++ second) = disk.createDirs middle second := by
  induction first generalizing current with
  | nil =>
    rw [Except.ok.inj reached]
    rfl
  | cons component rest inductionHypothesis =>
    obtain ⟨next, stepped, reached⟩ := walk_cons.mp reached
    obtain ⟨_, rfl, named⟩ := step_eq_ok.mp stepped
    have remaining := inductionHypothesis reached
    cases component with
    | here => exact remaining
    | up => exact remaining
    | name text =>
      have there : disk.lookup (current ++ [text]) = some .directory :=
        lookup_of_isDirectory (by simp) (isDirectory_of_walk reached directory)
      rw [cons_append, createDirs, (named text rfl).1, there]
      exact remaining

theorem write_eq_ok {directory parent : Location} {path text : String} {front : List Component}
    (parts : components path = front ++ [.name text])
    (reached : disk.walk (FileTree.startOf directory path) front = .ok parent)
    (isDirectory : disk.isDirectory parent = true) (accepted : nameError text = none)
    (free : disk.lookup (parent ++ [text]) ≠ some .directory) (content : Content) :
    disk.write directory path content =
      (disk.insert (parent ++ [text]) (.file content), .ok ()) := by
  rw [write, parts, dropLast_concat, getLast?_concat, reached]
  dsimp only
  rw [writeIn, if_pos isDirectory, accepted]
  cases found : disk.lookup (parent ++ [text]) with
  | none => rfl
  | some node =>
    cases node with
    | file => rfl
    | directory => exact absurd found free

/-- Creating a chain of directories succeeds where no file is in the way, and adds nothing else. -/
theorem createDirs_names (accepted : ∀ text ∈ names, nameError text = none)
    (clear : ∀ ancestors, ancestors <+: names → ancestors ≠ [] →
      ∀ content, disk.lookup (current ++ ancestors) ≠ some (.file content)) :
    ∃ larger, disk.createDirs current (names.map .name) = (larger, .ok ()) ∧
      (∀ ancestors, ancestors <+: names → ancestors ≠ [] →
        larger.lookup (current ++ ancestors) = some .directory) ∧
      ∀ location, (¬ ∃ ancestors, ancestors <+: names ∧ ancestors ≠ [] ∧
        location = current ++ ancestors) → larger.lookup location = disk.lookup location := by
  induction names generalizing disk current with
  | nil =>
    refine ⟨disk, rfl, fun ancestors above nonempty => ?_, fun _ _ => rfl⟩
    exact absurd (prefix_nil.mp above) nonempty
  | cons first rest inductionHypothesis =>
    have acceptedFirst := accepted first mem_cons_self
    -- one directory further down, on a disk where the first one is there
    have further (middle : Disk Content)
        (there : middle.lookup (current ++ [first]) = some .directory)
        (others : ∀ location, location ≠ current ++ [first] →
          middle.lookup location = disk.lookup location) :
        ∃ larger, middle.createDirs (current ++ [first]) (rest.map .name) = (larger, .ok ()) ∧
          (∀ ancestors, ancestors <+: first :: rest → ancestors ≠ [] →
            larger.lookup (current ++ ancestors) = some .directory) ∧
          ∀ location, (¬ ∃ ancestors, ancestors <+: first :: rest ∧ ancestors ≠ [] ∧
            location = current ++ ancestors) → larger.lookup location = disk.lookup location := by
      obtain ⟨larger, created, chain, same⟩ := @inductionHypothesis middle (current ++ [first])
        (fun text member => accepted text (mem_cons_of_mem _ member))
        (fun ancestors above nonempty content => by
          rw [others _ (by simpa using nonempty), append_assoc]
          exact clear (first :: ancestors) ((prefix_cons_inj first).mpr above)
            (cons_ne_nil _ _) content)
      refine ⟨larger, created, fun ancestors above nonempty => ?_, fun location outside => ?_⟩
      · obtain ⟨head, tail, rfl⟩ := exists_cons_of_ne_nil nonempty
        obtain ⟨rfl, below⟩ := cons_prefix_cons.mp above
        by_cases deeper : tail = []
        · subst deeper
          rw [same, there]
          rintro ⟨ancestors, _, nonempty, equal⟩
          exact nonempty (by simpa using equal)
        · have found := chain tail below deeper
          rwa [append_assoc] at found
      · rw [same, others]
        · rintro rfl
          exact outside ⟨[first], ⟨rest, rfl⟩, cons_ne_nil _ _, rfl⟩
        · rintro ⟨ancestors, above, _, rfl⟩
          exact outside ⟨first :: ancestors, (prefix_cons_inj first).mpr above,
            cons_ne_nil _ _, by rw [append_assoc]; rfl⟩
    rw [map_cons, createDirs]
    cases found : disk.lookup (current ++ [first]) with
    | none =>
      simp only [acceptedFirst]
      refine further _ (by rw [HashMap.lookup_insert_eq, if_pos rfl]) fun location other => ?_
      rw [HashMap.lookup_insert_eq, if_neg (Ne.symm other)]
    | some node =>
      cases node with
      | file content =>
        exact absurd found (clear [first] ⟨rest, rfl⟩ (cons_ne_nil _ _) content)
      | directory =>
        simp only [acceptedFirst]
        exact further disk found fun _ _ => rfl

end Disk

end Kepler
