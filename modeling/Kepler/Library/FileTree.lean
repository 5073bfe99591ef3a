/-
This file describes a directory tree with symbolic links and the two ways in which a program looks
at a path in it: `symlinkMetadata`, which does not follow a link in the last position, and
`canonicalize`, which follows every link.

A link met on the way is replaced by its target, and a budget bounds how many links one walk may
replace. The walk is written as a walk between two links, by recursion on the components, with the
treatment of the next link as a parameter; the budget is then spent by recursion on a number.

The two ways agree as soon as the last component is not a link itself, a canonical path is its own
canonical path, and where a path leads depends on the names and the links alone.
-/

import Kepler.Library.Text

namespace Kepler

open List

/-! ### Nodes and trees -/

structure Metadata where
  mode : UInt32
  uid : UInt32
  gid : UInt32
  deriving DecidableEq, Repr

inductive Node (Content : Type) where
  | file (metadata : Metadata) (content : Content)
  | directory (metadata : Metadata)
  | symlink (metadata : Metadata) (target : String)
  deriving DecidableEq, Repr

namespace Node

variable {Content : Type}

def metadata : Node Content → Metadata
  | file metadata _ => metadata
  | directory metadata => metadata
  | symlink metadata _ => metadata

def isDirectory : Node Content → Bool
  | directory _ => true
  | file _ _ | symlink _ _ => false

def isSymlink : Node Content → Bool
  | symlink _ _ => true
  | file _ _ | directory _ => false

/-- The node with no permission at all. The bits of a link are its own. -/
def cleared : Node Content → Node Content
  | file _ content => file ⟨0, 0, 0⟩ content
  | directory _ => directory ⟨0, 0, 0⟩
  | symlink metadata target => symlink metadata target

@[simp]
theorem isDirectory_cleared (node : Node Content) :
    node.cleared.isDirectory = node.isDirectory := by
  cases node <;> rfl

@[simp]
theorem isSymlink_cleared (node : Node Content) : node.cleared.isSymlink = node.isSymlink := by
  cases node <;> rfl

@[simp]
theorem cleared_cleared (node : Node Content) : node.cleared.cleared = node.cleared := by
  cases node <;> rfl

end Node

/-- The position of a node: the names on the way from the root. -/
abbrev Location : Type := List String

inductive PathError where
  | notFound
  | notADirectory
  | isADirectory
  | tooManyLinks
  | nameTooLong
  | alreadyExists
  | nulByte
  deriving DecidableEq, Repr

def PathError.text : PathError → String
  | notFound => "No such file or directory (os error 2)"
  | notADirectory => "Not a directory (os error 20)"
  | isADirectory => "Is a directory (os error 21)"
  | tooManyLinks => "Too many levels of symbolic links (os error 40)"
  | nameTooLong => "File name too long (os error 36)"
  | alreadyExists => "File exists (os error 17)"
  | nulByte => "file name contained an unexpected NUL byte"

/-! ### Paths -/

/-- A path component. An empty one stands for the directory itself, as after a trailing separator.
-/
inductive Component where
  | here
  | up
  | name (text : String)
  deriving DecidableEq, Repr

def Component.ofText (text : String) : Component :=
  if text = "" ∨ text = "." then .here else if text = ".." then .up else .name text

def components (path : String) : List Component := (Text.split '/' path).map Component.ofText

def isAbsolute (path : String) : Bool := path.toList.head? == some '/'

def Location.text (location : Location) : String := "/" ++ Text.join '/' location

/-- A location that a walk can stand at: from the root, every name leads from a directory to a node
that is not a link, and reads as a name. -/
inductive Real {Content : Type} (node : Location → Option (Node Content)) : Location → Prop
  | root : Real node []
  | child {parent : Location} {text : String} {entry : Node Content} (real : Real node parent)
      (directory : (node parent).any Node.isDirectory)
      (proper : Component.ofText text = .name text) (whole : '/' ∉ text.toList)
      (found : node (parent ++ [text]) = some entry) (plain : entry.isSymlink = false) :
      Real node (parent ++ [text])

/-- A directory tree: the nodes by location, and where relative paths start. -/
structure FileTree (Content : Type) where
  node : Location → Option (Node Content)
  workingDirectory : Location
  workingDirectory_real : Real node workingDirectory

namespace FileTree

variable {Content : Type}

def fromEntries (entries : List (Location × Node Content)) : FileTree Content where
  node location := entries.lookup location
  workingDirectory := []
  workingDirectory_real := .root

variable (tree : FileTree Content)

def isDirectory (location : Location) : Bool := (tree.node location).any Node.isDirectory

def isSymlink (location : Location) : Bool := (tree.node location).any Node.isSymlink

def startOf (directory : Location) (path : String) : Location :=
  if isAbsolute path then [] else directory

/-! ### Walking a path -/

/-- What a walk does with a link: its directory, its target and the components that follow. -/
abbrev LinkStep : Type := Location → String → List Component → Except PathError Location

/-- Walk the components up to the next link that has to be replaced. Without `follow` the walk ends
at a link in the last position. -/
def walkWith (follow : Bool) (onLink : LinkStep) :
    Location → List Component → Except PathError Location
  | current, [] => .ok current
  | current, component :: rest =>
    if tree.isDirectory current then
      match component with
      | .here => walkWith follow onLink current rest
      | .up => walkWith follow onLink current.dropLast rest
      | .name text =>
        match tree.node (current ++ [text]) with
        | none => .error .notFound
        | some (.symlink _ target) =>
          if rest.isEmpty && !follow then .ok (current ++ [text])
          else onLink current target rest
        | some (.file _ _) | some (.directory _) =>
          walkWith follow onLink (current ++ [text]) rest
    else .error .notADirectory

/-- Walk the components, replacing at most `budget` links. -/
def walk (follow : Bool) : Nat → Location → List Component → Except PathError Location
  | 0 => tree.walkWith follow fun _ _ _ => .error .tooManyLinks
  | budget + 1 => tree.walkWith follow fun directory target rest =>
      walk follow budget (startOf directory target) (components target ++ rest)

def maxLinks : Nat := 40

def resolve (follow : Bool) (path : String) : Except PathError Location :=
  if path = "" then .error .notFound
  else tree.walk follow maxLinks (startOf tree.workingDirectory path) (components path)

def canonicalLocation (path : String) : Except PathError Location := tree.resolve true path

def canonicalize (path : String) : Except PathError String :=
  (tree.canonicalLocation path).map Location.text

def metadataAt (location : Location) : Except PathError Metadata :=
  match tree.node location with
  | some node => .ok node.metadata
  | none => .error .notFound

def read (path : String) : Except PathError Content :=
  match tree.canonicalLocation path with
  | .error e => .error e
  | .ok location =>
    match tree.node location with
    | some (.file _ content) => .ok content
    | some (.directory _) | some (.symlink _ _) => .error .isADirectory
    | none => .error .notFound

/-- The location of a path, a link in the last position not followed. -/
def linkLocation (path : String) : Except PathError Location := tree.resolve false path

def EndsInLink (path : String) : Prop :=
  ∃ link, tree.linkLocation path = .ok link ∧ tree.isSymlink link = true

def targetMetadata (path : String) : Except PathError Metadata :=
  (tree.canonicalLocation path).bind tree.metadataAt

/-- The metadata of a path, a link in the last position not followed. -/
def symlinkMetadata (path : String) : Except PathError Metadata :=
  (tree.linkLocation path).bind tree.metadataAt

/-! ### Where the two ways of looking agree -/

/-- A walk that stops at a link and one that follows it agree when the former does not end at a
link, if they agree on what comes after each link. -/
theorem walkWith_follow (stopping following : LinkStep) (current : Location)
    (rest : List Component) (location : Location) (plain : tree.isSymlink location = false)
    (agree : ∀ directory target remaining, stopping directory target remaining = .ok location →
      following directory target remaining = .ok location)
    (ended : tree.walkWith false stopping current rest = .ok location) :
    tree.walkWith true following current rest = .ok location := by
  induction rest generalizing current with
  | nil => simpa [walkWith] using ended
  | cons component rest inductionHypothesis =>
    unfold walkWith at ended ⊢
    by_cases directory : tree.isDirectory current
    · rw [if_pos directory] at ended ⊢
      cases component with
      | here => exact inductionHypothesis _ ended
      | up => exact inductionHypothesis _ ended
      | name text => ?_
      cases found : tree.node (current ++ [text]) with
      | none => simp [found] at ended
      | some node => ?_
      cases node with
      | file =>
        simp only [found] at ended ⊢
        exact inductionHypothesis _ ended
      | directory =>
        simp only [found] at ended ⊢
        exact inductionHypothesis _ ended
      | symlink =>
        simp only [found, Bool.not_false, Bool.and_true, Bool.not_true, Bool.and_false,
          Bool.false_eq_true, if_false] at ended ⊢
        by_cases last : rest.isEmpty
        · -- the walk ended at a link, which `plain` excludes
          rw [if_pos last] at ended
          have here : current ++ [text] = location := Except.ok.inj ended
          rw [← here, isSymlink, found] at plain
          exact absurd plain (by simp [Node.isSymlink])
        · rw [if_neg last] at ended
          exact agree _ _ _ ended
    · rw [if_neg directory] at ended
      cases ended

theorem walk_follow (budget : Nat) (current : Location) (rest : List Component)
    (location : Location) (plain : tree.isSymlink location = false)
    (ended : tree.walk false budget current rest = .ok location) :
    tree.walk true budget current rest = .ok location := by
  induction budget generalizing current rest with
  | zero =>
    refine tree.walkWith_follow _ _ current rest location plain ?_ ended
    intro directory target remaining impossible
    cases impossible
  | succ budget inductionHypothesis =>
    refine tree.walkWith_follow _ _ current rest location plain ?_ ended
    intro directory target remaining reached
    exact inductionHypothesis _ _ reached

theorem canonicalLocation_of_plain (path : String) (location : Location)
    (found : tree.linkLocation path = .ok location)
    (plain : tree.isSymlink location = false) :
    tree.canonicalLocation path = .ok location := by
  unfold linkLocation resolve at found
  unfold canonicalLocation resolve
  by_cases empty : path = ""
  · rw [if_pos empty] at found
    cases found
  · rw [if_neg empty] at found ⊢
    exact tree.walk_follow _ _ _ location plain found

theorem targetMetadata_of_not_endsInLink (path : String) (metadata : Metadata)
    (plain : ¬ tree.EndsInLink path) (found : tree.symlinkMetadata path = .ok metadata) :
    tree.targetMetadata path = .ok metadata := by
  unfold symlinkMetadata at found
  cases location : tree.linkLocation path with
  | error e => simp [location, Except.bind] at found
  | ok link => ?_
  have notLink : tree.isSymlink link = false := by
    rw [← Bool.not_eq_true]
    exact fun isLink => plain ⟨link, location, isLink⟩
  rw [targetMetadata, tree.canonicalLocation_of_plain path link location notLink]
  rw [location] at found
  exact found

/-! ### Canonical paths are canonical -/

/-- A location that a walk can stand at after a step. -/
def Standing (location : Location) : Prop := Real tree.node location ∧ tree.isDirectory []

def ProperComponents (components : List Component) : Prop :=
  ∀ text, Component.name text ∈ components →
    Component.ofText text = .name text ∧ '/' ∉ text.toList

theorem ofText_eq_name {part text : String} (named : Component.ofText part = .name text) :
    part = text := by
  unfold Component.ofText at named
  split_ifs at named
  exact Component.name.inj named

theorem properComponents_components (path : String) : ProperComponents (components path) := by
  intro text member
  obtain ⟨part, inParts, named⟩ := mem_map.mp member
  obtain rfl := ofText_eq_name named
  exact ⟨named, Text.not_mem_of_mem_split inParts⟩

theorem components_ne_nil (path : String) : components path ≠ [] := by
  unfold components Text.split
  simp [splitOn_ne_nil]

variable {tree}

variable {location : Location} {current : Location} {onLink : LinkStep}

theorem real_dropLast (real : Real tree.node location) : Real tree.node location.dropLast := by
  cases real with
  | root => exact .root
  | child real =>
    rw [dropLast_concat]
    exact real

theorem isDirectory_root (real : Real tree.node location) (directory : tree.isDirectory location) :
    tree.isDirectory [] := by
  induction real with
  | root => exact directory
  | child _ above _ _ _ _ inductionHypothesis => exact inductionHypothesis above

theorem standing_of_walkWith
    (links : ∀ directory target rest, Real tree.node directory → ProperComponents rest →
      onLink directory target rest = .ok location → tree.Standing location)
    {components : List Component} (real : Real tree.node current)
    (proper : ProperComponents components) (nonempty : components ≠ [] ∨ tree.isDirectory [])
    (ended : tree.walkWith true onLink current components = .ok location) :
    tree.Standing location := by
  induction components generalizing current with
  | nil =>
    cases ended
    exact ⟨real, nonempty.resolve_left fun impossible => impossible rfl⟩
  | cons component rest inductionHypothesis =>
    unfold walkWith at ended
    by_cases directory : tree.isDirectory current
    swap
    · rw [if_neg directory] at ended
      cases ended
    rw [if_pos directory] at ended
    have root : tree.isDirectory [] := isDirectory_root real directory
    have properRest : ProperComponents rest := fun text member =>
      proper text (mem_cons_of_mem _ member)
    cases component with
    | here => exact inductionHypothesis real properRest (Or.inr root) ended
    | up => exact inductionHypothesis (real_dropLast real) properRest (Or.inr root) ended
    | name text => ?_
    obtain ⟨named, whole⟩ := proper text mem_cons_self
    cases found : tree.node (current ++ [text]) with
    | none => simp [found] at ended
    | some node => ?_
    cases node with
    | file =>
      simp only [found] at ended
      exact inductionHypothesis (.child real directory named whole found rfl) properRest
        (Or.inr root) ended
    | directory =>
      simp only [found] at ended
      exact inductionHypothesis (.child real directory named whole found rfl) properRest
        (Or.inr root) ended
    | symlink metadata target =>
      simp only [found, Bool.not_true, Bool.and_false, Bool.false_eq_true,
        if_false] at ended
      exact links current target rest real properRest ended

theorem standing_of_walk {budget : Nat} {components : List Component}
    (real : Real tree.node current) (proper : ProperComponents components)
    (nonempty : components ≠ []) (ended : tree.walk true budget current components = .ok location) :
    tree.Standing location := by
  induction budget generalizing current components with
  | zero =>
    refine standing_of_walkWith ?_ real proper (Or.inl nonempty) ended
    intro directory target rest _ _ impossible
    cases impossible
  | succ budget inductionHypothesis =>
    refine standing_of_walkWith ?_ real proper (Or.inl nonempty) ended
    intro directory target rest realDirectory properRest reached
    refine inductionHypothesis ?_ ?_ ?_ reached
    · unfold startOf
      split_ifs
      · exact .root
      · exact realDirectory
    · intro text member
      rcases mem_append.mp member with inTarget | inRest
      · exact properComponents_components target text inTarget
      · exact properRest text inRest
    · exact append_ne_nil_of_left_ne_nil (components_ne_nil target) rest

theorem standing_of_canonicalLocation {path : String}
    (found : tree.canonicalLocation path = .ok location) : tree.Standing location := by
  unfold canonicalLocation resolve at found
  split_ifs at found
  refine standing_of_walk ?_ (properComponents_components path) (components_ne_nil path) found
  unfold startOf
  split_ifs
  · exact .root
  · exact tree.workingDirectory_real

theorem walkWith_names (real : Real tree.node location) (rest : List Component) :
    tree.walkWith true onLink [] (location.map .name ++ rest) =
      tree.walkWith true onLink location rest := by
  induction real generalizing rest with
  | root => rfl
  | @child parent text entry _ directory _ _ found plain inductionHypothesis =>
    rw [map_append, append_assoc, inductionHypothesis]
    conv_lhs => unfold walkWith
    simp only [map_cons, map_nil, singleton_append]
    have isDirectory : tree.isDirectory parent = true := directory
    rw [if_pos isDirectory]
    cases entry with
    | file => simp only [found]
    | directory => simp only [found]
    | symlink => exact absurd plain (by simp [Node.isSymlink])

theorem properNames_of_real (real : Real tree.node location) :
    ∀ text ∈ location, Component.ofText text = .name text ∧ '/' ∉ text.toList := by
  induction real with
  | root => simp
  | child _ _ proper whole _ _ inductionHypothesis =>
    intro other member
    rcases mem_append.mp member with above | last
    · exact inductionHypothesis other above
    · obtain rfl := mem_singleton.mp last
      exact ⟨proper, whole⟩

theorem components_text (real : Real tree.node location) (nonempty : location ≠ []) :
    components location.text = .here :: location.map .name := by
  have names := properNames_of_real real
  have joined : location.text = Text.join '/' ("" :: location) := by
    obtain ⟨first, rest, rfl⟩ := exists_cons_of_ne_nil nonempty
    apply String.toList_inj.mp
    simp [Location.text, Text.join, intercalate]
  have absent : ∀ part ∈ "" :: location, '/' ∉ part.toList := by
    intro part member
    rcases mem_cons.mp member with rfl | inLocation
    · simp
    · exact (names part inLocation).2
  rw [components, joined, Text.split_join_of_not_mem '/' _ (cons_ne_nil _ _) absent,
    map_cons]
  exact congrArg _ (map_congr_left fun text member => (names text member).1)

theorem canonicalize_canonical {path canonical : String}
    (found : tree.canonicalize path = .ok canonical) :
    tree.canonicalize canonical = .ok canonical := by
  unfold canonicalize at found
  cases location : tree.canonicalLocation path with
  | error e => simp [location, Except.map] at found
  | ok reached => ?_
  rw [location] at found
  cases found
  obtain ⟨real, root⟩ := standing_of_canonicalLocation location
  suffices again : tree.canonicalLocation reached.text = .ok reached by
    rw [canonicalize, again]
    rfl
  have spelled : reached.text ≠ "" := by
    intro empty
    have characters := congrArg String.toList empty
    simp [Location.text] at characters
  have absolute : isAbsolute reached.text = true := by simp [isAbsolute, Location.text]
  unfold canonicalLocation resolve startOf
  rw [if_neg spelled, if_pos absolute]
  change tree.walkWith true _ [] (components reached.text) = .ok reached
  by_cases nonempty : reached = []
  · subst nonempty
    have parts : components (Location.text []) = [.here, .here] := by decide
    rw [parts]
    simp [walkWith, root]
  · rw [components_text real nonempty]
    unfold walkWith
    rw [if_pos root]
    rw [← append_nil (map _ reached), walkWith_names real]
    rfl

/-! ### Trees that differ in their permissions -/

theorem real_cleared {node : Location → Option (Node Content)} (real : Real node location) :
    Real (fun location => (node location).map Node.cleared) location := by
  induction real with
  | root => exact .root
  | child _ directory proper whole found plain inductionHypothesis =>
    refine .child inductionHypothesis ?_ proper whole (congrArg (Option.map _) found) ?_
    · simpa [Option.any_map, Function.comp_def] using directory
    · simpa using plain

variable (tree) in
/-- The tree in which no file and no directory grants anything. -/
def cleared : FileTree Content where
  node location := (tree.node location).map Node.cleared
  workingDirectory := tree.workingDirectory
  workingDirectory_real := real_cleared tree.workingDirectory_real

/-- Two trees that differ in the owners and the permissions of files and directories only. -/
def SameLinks (tree other : FileTree Content) : Prop := tree.cleared = other.cleared

variable (tree)

theorem cleared_cleared : tree.cleared.cleared = tree.cleared := by
  simp [cleared, Option.map_map, Function.comp_def]

@[simp]
theorem isDirectory_cleared (location : Location) :
    tree.cleared.isDirectory location = tree.isDirectory location := by
  simp [isDirectory, cleared, Option.any_map]

@[simp]
theorem isSymlink_cleared (location : Location) :
    tree.cleared.isSymlink location = tree.isSymlink location := by
  simp [isSymlink, cleared, Option.any_map]

theorem walkWith_cleared (follow : Bool) (current : Location) (rest : List Component) :
    tree.cleared.walkWith follow onLink current rest =
      tree.walkWith follow onLink current rest := by
  induction rest generalizing current with
  | nil => rfl
  | cons component rest inductionHypothesis =>
    unfold walkWith
    simp only [isDirectory_cleared, inductionHypothesis]
    congr 1
    cases component with
    | here | up => rfl
    | name text => ?_
    have looked : tree.cleared.node (current ++ [text]) =
        (tree.node (current ++ [text])).map Node.cleared := rfl
    simp only [looked]
    cases tree.node (current ++ [text]) with
    | none => rfl
    | some node => cases node <;> rfl

theorem walk_cleared (follow : Bool) (budget : Nat) (current : Location)
    (rest : List Component) :
    tree.cleared.walk follow budget current rest = tree.walk follow budget current rest := by
  induction budget generalizing current rest with
  | zero => exact tree.walkWith_cleared follow current rest
  | succ budget inductionHypothesis =>
    simp only [walk, inductionHypothesis]
    exact tree.walkWith_cleared follow current rest

/-- Where a path leads does not depend on the permissions. -/
@[simp]
theorem resolve_cleared (follow : Bool) (path : String) :
    tree.cleared.resolve follow path = tree.resolve follow path := by
  unfold resolve
  rw [walk_cleared]
  rfl

theorem endsInLink_cleared (path : String) :
    tree.cleared.EndsInLink path ↔ tree.EndsInLink path := by
  simp [EndsInLink, linkLocation]

theorem metadataAt_cleared (location : Location) :
    tree.cleared.metadataAt location =
      if tree.isSymlink location then tree.metadataAt location
      else (tree.metadataAt location).map fun _ => ⟨0, 0, 0⟩ := by
  unfold metadataAt isSymlink
  have looked : tree.cleared.node location = (tree.node location).map Node.cleared := rfl
  rw [looked]
  cases tree.node location with
  | none => rfl
  | some node => cases node <;> rfl

theorem symlinkMetadata_cleared {path : String} (ends : tree.EndsInLink path) :
    tree.cleared.symlinkMetadata path = tree.symlinkMetadata path := by
  obtain ⟨link, location, isLink⟩ := ends
  unfold linkLocation at location
  simp only [symlinkMetadata, linkLocation, resolve_cleared, location, Except.bind,
    metadataAt_cleared, isLink, if_true]

theorem not_isSymlink_of_standing (standing : tree.Standing location) :
    tree.isSymlink location = false := by
  obtain ⟨real, root⟩ := standing
  unfold isSymlink
  cases real with
  | root =>
    unfold isDirectory at root
    cases top : tree.node [] with
    | none => rfl
    | some node => cases node <;> simp_all [Node.isDirectory, Node.isSymlink]
  | child _ _ _ _ found plain => simpa [found] using plain

theorem targetMetadata_cleared (path : String) :
    tree.cleared.targetMetadata path = (tree.targetMetadata path).map fun _ => ⟨0, 0, 0⟩ := by
  have same : tree.cleared.canonicalLocation path = tree.canonicalLocation path :=
    tree.resolve_cleared true path
  rw [targetMetadata, targetMetadata, same]
  cases found : tree.canonicalLocation path with
  | error e => rfl
  | ok location =>
    have plain := tree.not_isSymlink_of_standing (standing_of_canonicalLocation found)
    simp [Except.bind, metadataAt_cleared, plain]

end FileTree

end Kepler
