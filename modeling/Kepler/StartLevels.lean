/-
This file models `get_start_levels` of `deps.rs`, which groups the services of a config by levels
that can be started one after the other.

The level of a service is computed by a recursion over its dependencies. Levels that are known are
looked up, and the services whose level is being computed are kept on a stack, so that a cycle is
noticed. A level that is found is the length of the longest path of dependencies, whatever was
looked up on the way.
-/

import Kepler.StableOrder
import Kepler.Library.Depth

namespace Kepler

open List Option

/-! ### The computation -/

/-- The levels that are known, and the services whose level is being computed. -/
structure LevelState where
  levels : HashMap String Nat := ∅
  stack : List String := []

/-- The error for a service that is reached again while its level is computed. -/
def levelCycle (name : String) : DaemonError :=
  .dependencyCycle ("Cycle detected involving: " ++ name)

/-- The loop over the dependencies: the highest level so far, and one more dependency. -/
def visitDependency (compute : String → LevelState → Except DaemonError (Nat × LevelState))
    (found : Nat × LevelState) (dependency : String) : Except DaemonError (Nat × LevelState) := do
  let (level, state) ← compute dependency found.2
  return (max found.1 level, state)

/-- `compute_level`, for a number of calls inside each other. -/
def computeLevel (services : HashMap String RawServiceConfig) :
    Nat → String → LevelState → Except DaemonError (Nat × LevelState)
  | 0, name, _ => .error (levelCycle name)
  | calls + 1, name, state =>
    match state.levels.lookup name with
    | some level => .ok (level, state)
    | none =>
      if name ∈ state.stack then .error (levelCycle name)
      else
        match services.lookup name with
        | none => .error (.serviceNotFound name)
        | some raw => do
          let names := DependsOn.names raw.dependsOn
          let entered := { state with stack := name :: state.stack }
          let (highest, state) ←
            names.foldlM (visitDependency (computeLevel services calls)) (0, entered)
          let level := if names.isEmpty then 0 else highest + 1
          return (level,
            { levels := state.levels.insert name level, stack := state.stack.erase name })

def recordLevel (services : HashMap String RawServiceConfig) (levels : HashMap String Nat)
    (name : String) : Except DaemonError (HashMap String Nat) := do
  let (_, state) ← computeLevel services (services.keys.length + 1) name { levels }
  return state.levels

def computeLevels (services : HashMap String RawServiceConfig) :
    Except DaemonError (HashMap String Nat) :=
  services.keys.foldlM (recordLevel services) ∅

/-- The highest level, or zero without services. -/
def maxLevel (levels : HashMap String Nat) : Nat :=
  (levels.entries.map fun entry => entry.2).max?.getD 0

def servicesAt (levels : HashMap String Nat) (level : Nat) : List String :=
  (levels.keys.filter fun name => levels.lookup name = some level).insertionSort (· ≤ ·)

/-- The services of each level. Without services there is one level without any. -/
def groupByLevel (levels : HashMap String Nat) : List (List String) :=
  (List.range (maxLevel levels + 1)).map (servicesAt levels)

def getStartLevels (services : HashMap String RawServiceConfig) :
    Except DaemonError (List (List String)) :=
  match findMissingDependency services with
  | some (service, dependency) => .error (.missingDependency service dependency)
  | none => do
    let levels ← computeLevels services
    return groupByLevel levels

/-! ### What the recursion maintains -/

variable {name : String}

section

variable {services : HashMap String RawServiceConfig}

/-- The known levels are right, and the stack has some of the services, each once. -/
structure LevelState.Sound (services : HashMap String RawServiceConfig) (state : LevelState) :
    Prop where
  known : ∀ name level, state.levels.lookup name = some level →
    name ∈ services.keys ∧ IsDepth (dependencyNames services) name level
  nodup : state.stack.Nodup
  within : state.stack ⊆ services.keys

/-- Nothing is forgotten, and the stack is as before. -/
structure LevelState.Grows (state after : LevelState) : Prop where
  retains : ∀ name level, state.levels.lookup name = some level →
    after.levels.lookup name = some level
  stack : after.stack = state.stack

/-- A service that is being computed depends on every service that is reached from it. -/
def LevelState.LeadsTo (services : HashMap String RawServiceConfig) (state : LevelState)
    (name : String) : Prop :=
  ∀ waiting ∈ state.stack, Relation.TransGen
    (fun required node => required ∈ dependencyNames services node) name waiting

/-- The depth of the service, or an error because there is a cycle. -/
def LevelState.Computes (services : HashMap String RawServiceConfig) (state : LevelState)
    (name : String) : Except DaemonError (Nat × LevelState) → Prop
  | .ok (level, after) => IsDepth (dependencyNames services) name level ∧ after.Sound services ∧
      state.Grows after ∧ after.levels.lookup name = some level
  | .error _ => ¬ Acyclic (dependencyNames services)

namespace LevelState

theorem Grows.refl (state : LevelState) : state.Grows state := ⟨fun _ _ found => found, rfl⟩

theorem Grows.trans {first second third : LevelState} (left : first.Grows second)
    (right : second.Grows third) : first.Grows third :=
  ⟨fun name level found => right.retains name level (left.retains name level found),
    right.stack.trans left.stack⟩

theorem Sound.insert {state : LevelState} (sound : state.Sound services) {level : Nat}
    (inside : name ∈ services.keys) (isDepth : IsDepth (dependencyNames services) name level)
    {stack : List String} (nodup : stack.Nodup) (within : stack ⊆ services.keys) :
    LevelState.Sound services { levels := state.levels.insert name level, stack } where
  known other found stored := by
    rw [HashMap.lookup_insert_eq] at stored
    split at stored
    · rename_i same
      cases stored
      exact ⟨same ▸ inside, same ▸ isDepth⟩
    · exact sound.known other found stored
  nodup := nodup
  within := within

theorem computes_foldlM {compute : String → LevelState → Except DaemonError (Nat × LevelState)}
    {names : List String} {highest : Nat} {state : LevelState} (sound : state.Sound services)
    (step : ∀ name ∈ names, ∀ current : LevelState, current.Sound services →
      current.stack = state.stack → current.Computes services name (compute name current)) :
    match names.foldlM (visitDependency compute) (highest, state) with
    | .ok (result, after) => after.Sound services ∧ state.Grows after ∧ highest ≤ result ∧
        (∀ name ∈ names, ∃ level ≤ result, IsDepth (dependencyNames services) name level) ∧
        (result = highest ∨ ∃ name ∈ names, IsDepth (dependencyNames services) name result)
    | .error _ => ¬ Acyclic (dependencyNames services) := by
  induction names generalizing highest state with
  | nil => exact ⟨sound, .refl state, Nat.le_refl _, fun _ member => absurd member
      not_mem_nil, .inl rfl⟩
  | cons name names inductionHypothesis =>
    obtain ⟨first, rest⟩ := forall_mem_cons.mp step
    have computed := first state sound rfl
    rw [foldlM_cons]
    unfold visitDependency
    cases outcome : compute name state with
    | error =>
      rw [outcome] at computed
      exact computed
    | ok found =>
      obtain ⟨level, after⟩ := found
      rw [outcome] at computed
      obtain ⟨isDepth, sound', grows, _⟩ := computed
      have others := @inductionHypothesis (max highest level) after sound'
        fun name member current valid same =>
          rest name member current valid (same.trans grows.stack)
      change match names.foldlM (visitDependency compute) (max highest level, after) with
        | .ok (result, after) => _
        | .error _ => _
      split at others
      · obtain ⟨valid, grows', le, bounded, attained⟩ := others
        refine ⟨valid, grows.trans grows', (Nat.le_max_left ..).trans le, ?_, ?_⟩
        · exact forall_mem_cons.mpr ⟨⟨level, (Nat.le_max_right ..).trans le, isDepth⟩, bounded⟩
        · obtain same | ⟨deepest, member, isDeepest⟩ := attained
          · rw [same]
            obtain kept | new := max_choice highest level
            · exact .inl kept
            · rw [new]
              exact .inr ⟨name, mem_cons_self, isDepth⟩
          · exact .inr ⟨deepest, mem_cons_of_mem _ member, isDeepest⟩
      · exact others

/-- A computation that has enough calls finds the depth of the service or a cycle. -/
theorem computes_computeLevel (defined : DependenciesDefined services) {calls : Nat}
    {state : LevelState} (sound : state.Sound services) (inside : name ∈ services.keys)
    (leads : state.LeadsTo services name)
    (enough : services.keys.length < calls + state.stack.length) :
    state.Computes services name (computeLevel services calls name state) := by
  induction calls generalizing name state with
  | zero =>
    have bound := (sound.nodup.subperm sound.within).length_le
    omega
  | succ calls inductionHypothesis =>
    unfold computeLevel
    split
    · rename_i level stored
      exact ⟨(sound.known name level stored).2, sound, .refl state, stored⟩
    · rename_i unknown
      by_cases onStack : name ∈ state.stack
      · rw [if_pos onStack]
        exact fun acyclic => acyclic name (leads name onStack)
      · rw [if_neg onStack]
        obtain ⟨raw, found⟩ := isSome_iff_exists.mp
          (AList.lookup_isSome.mpr (AList.mem_keys.mpr inside))
        have names : dependencyNames services name = DependsOn.names raw.dependsOn := by
          rw [dependencyNames, found]
          rfl
        rw [found]
        dsimp only
        -- The recursive calls are made with the service on the stack.
        have entered : LevelState.Sound services { state with stack := name :: state.stack } :=
          ⟨sound.known, nodup_cons.mpr ⟨onStack, sound.nodup⟩,
            cons_subset.mpr ⟨inside, sound.within⟩⟩
        have loop := @computes_foldlM services (computeLevel services calls)
          (DependsOn.names raw.dependsOn) 0 _ entered
          fun dependency member current valid stack => by
            have isRequired : dependency ∈ dependencyNames services name := names ▸ member
            refine inductionHypothesis valid (defined name inside isRequired) ?_ ?_
            · intro waiting isWaiting
              rw [stack] at isWaiting
              obtain same | earlier := mem_cons.mp isWaiting
              · exact same ▸ .single isRequired
              · exact .head isRequired (leads waiting earlier)
            · rw [stack, length_cons]
              omega
        split at loop
        · rename_i result after ends
          rw [ends]
          obtain ⟨valid, grows, _, bounded, attained⟩ := loop
          have isDepth : IsDepth (dependencyNames services) name
              (if (DependsOn.names raw.dependsOn).isEmpty then 0 else result + 1) := by
            rw [← names] at bounded attained ⊢
            cases required : dependencyNames services name with
            | nil => exact isDepth_zero required
            | cons first rest => ?_
            refine isDepth_succ bounded ?_
            obtain zero | attained := attained
            · obtain ⟨level, le, isFirst⟩ := bounded first (required ▸ mem_cons_self)
              have same : level = result := by omega
              exact ⟨first, required ▸ mem_cons_self, same ▸ isFirst⟩
            · exact attained
          have stack : after.stack.erase name = state.stack := by
            rw [grows.stack]
            exact erase_cons_head ..
          refine ⟨isDepth, ?_, ⟨fun other level stored => ?_, stack⟩, AList.lookup_insert ..⟩
          · rw [stack]
            exact valid.insert inside isDepth sound.nodup sound.within
          · have different : name ≠ other := fun same => by
              rw [← same, unknown] at stored
              cases stored
            rw [HashMap.lookup_insert_eq, if_neg different]
            exact grows.retains other level stored
        · rename_i ends
          rw [ends]
          exact loop

end LevelState

/-! ### The levels of a config -/

theorem foldlM_recordLevel (defined : DependenciesDefined services) {names : List String}
    (within : names ⊆ services.keys) {levels : HashMap String Nat}
    (sound : LevelState.Sound services { levels }) :
    match names.foldlM (recordLevel services) levels with
    | .ok after => LevelState.Sound services { levels := after } ∧
        (∀ name level, levels.lookup name = some level → after.lookup name = some level) ∧
        ∀ name ∈ names, (after.lookup name).isSome
    | .error _ => ¬ Acyclic (dependencyNames services) := by
  induction names generalizing levels with
  | nil => exact ⟨sound, fun _ _ found => found, fun _ member => absurd member not_mem_nil⟩
  | cons name names inductionHypothesis =>
    obtain ⟨inside, within⟩ := cons_subset.mp within
    have computed := LevelState.computes_computeLevel defined sound inside
      (fun _ member => absurd member not_mem_nil) (Nat.lt_succ_self services.keys.length)
    rw [foldlM_cons, recordLevel]
    cases outcome : computeLevel services (services.keys.length + 1) name { levels } with
    | error =>
      rw [outcome] at computed
      exact computed
    | ok found =>
      obtain ⟨level, state⟩ := found
      rw [outcome] at computed
      obtain ⟨_, valid, grows, stored⟩ := computed
      have rest := @inductionHypothesis within state.levels
        ⟨valid.known, nodup_nil, nil_subset _⟩
      change match names.foldlM (recordLevel services) state.levels with
        | .ok after => _
        | .error _ => _
      split at rest
      · rename_i after ends
        obtain ⟨valid, retains, complete⟩ := rest
        refine ⟨valid, fun other found known => retains _ _ (grows.retains other found known), ?_⟩
        refine forall_mem_cons.mpr ⟨?_, complete⟩
        rw [retains name level stored]
        rfl
      · exact rest

structure AreDepths (services : HashMap String RawServiceConfig) (levels : HashMap String Nat) :
    Prop where
  lookup_iff : ∀ name level, levels.lookup name = some level ↔
    name ∈ services.keys ∧ IsDepth (dependencyNames services) name level
  exists_depth : ∀ name ∈ services.keys, ∃ level, IsDepth (dependencyNames services) name level

theorem computeLevels_spec (defined : DependenciesDefined services) :
    match computeLevels services with
    | .ok levels => AreDepths services levels
    | .error _ => ¬ Acyclic (dependencyNames services) := by
  have empty : LevelState.Sound services {} :=
    { known := nofun
      nodup := nodup_nil
      within := nil_subset _ }
  have loop := foldlM_recordLevel defined (List.Subset.refl services.keys) empty
  unfold computeLevels
  split at loop
  · rename_i levels ends
    obtain ⟨sound, _, complete⟩ := loop
    have found : ∀ name ∈ services.keys, ∃ level, levels.lookup name = some level ∧
        IsDepth (dependencyNames services) name level := by
      intro name inside
      obtain ⟨level, stored⟩ := isSome_iff_exists.mp (complete name inside)
      exact ⟨level, stored, (sound.known name level stored).2⟩
    refine ⟨fun name level => ⟨sound.known name level, fun ⟨inside, isDepth⟩ => ?_⟩,
      fun name inside => (found name inside).imp fun _ => And.right⟩
    obtain ⟨other, stored, isOther⟩ := found name inside
    rw [stored, isOther.unique isDepth]
  · exact loop

theorem computeLevels_eq_ok_iff (defined : DependenciesDefined services) :
    (∃ levels, computeLevels services = .ok levels) ↔ Acyclic (dependencyNames services) := by
  have spec := computeLevels_spec defined
  constructor
  · rintro ⟨levels, computed⟩
    rw [computed] at spec
    refine acyclic_of_isDepth fun name => ?_
    by_cases inside : name ∈ services.keys
    · exact spec.exists_depth name inside
    · exact ⟨0, isDepth_zero (dependencyNames_of_notMem inside)⟩
  · intro acyclic
    split at spec
    · rename_i levels computed
      exact ⟨levels, computed⟩
    · exact absurd acyclic spec

end

/-! ### Groups -/

section

variable {levels others : HashMap String Nat} {name : String} {level : Nat}

theorem le_maxLevel (stored : levels.lookup name = some level) : level ≤ maxLevel levels := by
  have member : level ∈ levels.entries.map fun entry => entry.2 :=
    mem_map.mpr ⟨⟨name, level⟩, AList.mem_lookup_iff.mp stored, rfl⟩
  unfold maxLevel
  cases highest : (levels.entries.map fun entry => entry.2).max? with
  | none =>
    rw [max?_eq_none_iff.mp highest] at member
    cases member
  | some top => exact (max?_eq_some_iff.mp highest).2 level member

theorem exists_maxLevel (some : levels.keys ≠ []) :
    ∃ name, levels.lookup name = .some (maxLevel levels) := by
  unfold maxLevel
  cases highest : (levels.entries.map fun entry => entry.2).max? with
  | none =>
    have empty := map_eq_nil_iff.mp (max?_eq_none_iff.mp highest)
    exact absurd (congrArg List.keys empty) some
  | some top =>
    obtain ⟨entry, member, same⟩ := mem_map.mp (max?_eq_some_iff.mp highest).1
    exact ⟨entry.1, AList.mem_lookup_iff.mpr (same ▸ member)⟩

theorem mem_servicesAt : name ∈ servicesAt levels level ↔ levels.lookup name = some level := by
  unfold servicesAt
  rw [mem_insertionSort, mem_filter, decide_eq_true_iff, and_iff_right_iff_imp]
  intro stored
  exact AList.mem_keys.mp (AList.lookup_isSome.mp (by rw [stored]; rfl))

theorem groupByLevel_getElem? {group : List String}
    (found : (groupByLevel levels)[level]? = some group) :
    group = servicesAt levels level ∧ level ≤ maxLevel levels := by
  unfold groupByLevel at found
  rw [getElem?_map] at found
  obtain ⟨index, inRange, rfl⟩ := map_eq_some_iff.mp found
  obtain ⟨bound, rfl⟩ := List.getElem?_eq_some_iff.mp inRange
  rw [length_range] at bound
  rw [getElem_range]
  exact ⟨rfl, Nat.le_of_lt_succ bound⟩

theorem flatten_groupByLevel : (groupByLevel levels).flatten.Perm levels.keys := by
  have distinct : (groupByLevel levels).flatten.Nodup := by
    refine nodup_flatten.mpr ⟨fun group member => ?_, ?_⟩
    · obtain ⟨level, _, rfl⟩ := mem_map.mp member
      exact (perm_insertionSort ..).nodup_iff.mpr (levels.keys_nodup.filter _)
    · refine pairwise_map.mpr (nodup_range.imp fun different => ?_)
      intro name first second
      rw [mem_servicesAt] at first second
      exact different (some.inj (first.symm.trans second))
  refine (perm_ext_iff_of_nodup distinct levels.keys_nodup).mpr fun name => ?_
  rw [← AList.mem_keys, ← AList.lookup_isSome, mem_flatten]
  constructor
  · rintro ⟨group, member, inside⟩
    obtain ⟨level, _, rfl⟩ := mem_map.mp member
    rw [mem_servicesAt.mp inside]
    rfl
  · intro known
    obtain ⟨level, stored⟩ := isSome_iff_exists.mp known
    refine ⟨servicesAt levels level, mem_map.mpr ⟨level, ?_, rfl⟩, mem_servicesAt.mpr stored⟩
    exact mem_range.mpr (Nat.lt_succ_of_le (le_maxLevel stored))

theorem groupByLevel_congr (same : ∀ name, others.lookup name = levels.lookup name) :
    groupByLevel others = groupByLevel levels := by
  have entries : others.entries.Perm levels.entries :=
    lookup_ext others.nodupKeys levels.nodupKeys fun name level => by
      rw [show others.entries.dlookup name = levels.entries.dlookup name from same name]
  have highest : maxLevel others = maxLevel levels := by
    refine congrArg (Option.getD · 0) (Option.ext fun top => ?_)
    rw [max?_eq_some_iff, max?_eq_some_iff]
    simp only [(entries.map fun entry => entry.2).mem_iff]
  have groups : servicesAt others = servicesAt levels := by
    funext level
    unfold servicesAt
    simp only [same]
    refine List.Perm.eq_of_pairwise' (r := (· ≤ ·)) (pairwise_insertionSort ..)
      (pairwise_insertionSort ..) ?_
    exact (perm_insertionSort ..).trans
      (((entries.map _).filter _).trans (perm_insertionSort ..).symm)
  rw [groupByLevel, groupByLevel, highest, groups]

end

/-! ### The result -/

/-- The levels have every service once, at the length of its longest path of dependencies and above
all of them. None is empty, unless there are no services. -/
structure IsLeveling (services : HashMap String RawServiceConfig) (levels : List (List String)) :
    Prop where
  partition : levels.flatten.Perm services.keys
  depth : ∀ (level : Nat) group, levels[level]? = some group → ∀ name ∈ group,
    IsDepth (dependencyNames services) name level
  lower : ∀ (level : Nat) group, levels[level]? = some group → ∀ name ∈ group,
    ∀ dependency ∈ dependencyNames services name,
      ∃ below < level, ∃ others, levels[below]? = some others ∧ dependency ∈ others
  nonempty : services.keys ≠ [] → ∀ group ∈ levels, group ≠ []

section

variable {services : HashMap String RawServiceConfig} {levels : HashMap String Nat}

theorem exists_at_level (defined : DependenciesDefined services) (spec : AreDepths services levels)
    {level : Nat} (stored : levels.lookup name = some level) {below : Nat} (le : below ≤ level) :
    ∃ other, levels.lookup other = some below := by
  induction level generalizing name with
  | zero => exact ⟨name, Nat.le_zero.mp le ▸ stored⟩
  | succ level inductionHypothesis =>
    obtain same | less := Nat.eq_or_lt_of_le le
    · exact ⟨name, same ▸ stored⟩
    · obtain ⟨inside, isDepth⟩ := (spec.lookup_iff name (level + 1)).mp stored
      obtain ⟨dependency, isRequired, isBelow⟩ := isDepth.exists_required fun required isRequired =>
        spec.exists_depth required (defined name inside isRequired)
      exact inductionHypothesis
        ((spec.lookup_iff ..).mpr ⟨defined name inside isRequired, isBelow⟩)
        (Nat.le_of_lt_succ less)

theorem isLeveling_groupByLevel (defined : DependenciesDefined services)
    (spec : AreDepths services levels) :
    IsLeveling services (groupByLevel levels) := by
  have keys : levels.keys.Perm services.keys := by
    refine (perm_ext_iff_of_nodup levels.keys_nodup services.keys_nodup).mpr fun name => ?_
    rw [← AList.mem_keys, ← AList.lookup_isSome, isSome_iff_exists]
    constructor
    · rintro ⟨level, stored⟩
      exact ((spec.lookup_iff ..).mp stored).1
    · intro inside
      obtain ⟨level, isDepth⟩ := spec.exists_depth name inside
      exact ⟨level, (spec.lookup_iff ..).mpr ⟨inside, isDepth⟩⟩
  have placed : ∀ (level : Nat) group, (groupByLevel levels)[level]? = some group → ∀ name ∈ group,
      name ∈ services.keys ∧ IsDepth (dependencyNames services) name level := by
    intro level group found name member
    rw [(groupByLevel_getElem? found).1] at member
    exact (spec.lookup_iff ..).mp (mem_servicesAt.mp member)
  refine
    { partition := flatten_groupByLevel.trans keys
      depth := fun level group found name member => (placed level group found name member).2
      lower := fun level group found name member dependency isRequired => ?_
      nonempty := fun some group member => ?_ }
  · obtain ⟨inside, isDepth⟩ := placed level group found name member
    have known := defined name inside isRequired
    obtain ⟨below, isBelow⟩ := spec.exists_depth dependency known
    have stored := (spec.lookup_iff ..).mpr ⟨known, isBelow⟩
    refine ⟨below, isDepth.lt isRequired isBelow, servicesAt levels below, ?_,
      mem_servicesAt.mpr stored⟩
    unfold groupByLevel
    rw [getElem?_map, getElem?_range (Nat.lt_succ_of_le (le_maxLevel stored))]
    rfl
  · obtain ⟨level, inRange, rfl⟩ := mem_map.mp member
    have filled : levels.keys ≠ [] := fun none => by
      rw [none] at keys
      exact some keys.symm.eq_nil
    obtain ⟨top, stored⟩ := exists_maxLevel filled
    obtain ⟨name, stored⟩ := exists_at_level defined spec stored
      (Nat.le_of_lt_succ (mem_range.mp inRange))
    exact ne_nil_of_mem (mem_servicesAt.mpr stored)

theorem getStartLevels_eq_ok_iff {groups : List (List String)} :
    getStartLevels services = .ok groups ↔ DependenciesDefined services ∧
      ∃ levels, computeLevels services = .ok levels ∧ groups = groupByLevel levels := by
  rw [← findMissingDependency_eq_none_iff]
  unfold getStartLevels
  cases findMissingDependency services with
  | some =>
    refine iff_of_false nofun ?_
    rintro ⟨same, _⟩
    cases same
  | none =>
    cases computeLevels services with
    | error =>
      refine iff_of_false nofun ?_
      rintro ⟨_, _, same, _⟩
      cases same
    | ok levels =>
      constructor
      · intro same
        cases same
        exact ⟨rfl, levels, rfl, rfl⟩
      · rintro ⟨_, _, same, rfl⟩
        cases same
        rfl

end

/-- The levels can be computed exactly if the services can be sorted. They have every service at the
length of its longest path of dependencies, whatever the iteration order of the maps. -/
theorem getStartLevels_correct (placement : Kahn.Placement String)
    (services : HashMap String RawServiceConfig) :
    ((∃ levels, getStartLevels services = .ok levels) ↔
        ∃ order, topologicalSort placement services = .ok order) ∧
      ∀ levels, getStartLevels services = .ok levels → IsLeveling services levels ∧
        ∀ others, ServicesReordered services others → getStartLevels others = .ok levels := by
  constructor
  · rw [topologicalSort_eq_ok_iff]
    constructor
    · rintro ⟨groups, found⟩
      obtain ⟨defined, levels, computed, _⟩ := getStartLevels_eq_ok_iff.mp found
      exact ⟨defined, (computeLevels_eq_ok_iff defined).mp ⟨levels, computed⟩⟩
    · rintro ⟨defined, acyclic⟩
      obtain ⟨levels, computed⟩ := (computeLevels_eq_ok_iff defined).mpr acyclic
      exact ⟨_, getStartLevels_eq_ok_iff.mpr ⟨defined, levels, computed, rfl⟩⟩
  · intro groups found
    obtain ⟨defined, levels, computed, rfl⟩ := getStartLevels_eq_ok_iff.mp found
    have spec := computeLevels_spec defined
    rw [computed] at spec
    refine ⟨isLeveling_groupByLevel defined spec, fun others reordered => ?_⟩
    have defined' := reordered.defined_iff.mpr defined
    have acyclic := (computeLevels_eq_ok_iff defined).mp ⟨levels, computed⟩
    have requires := fun name required => (reordered.dependencyNames name).mem_iff (a := required)
    obtain ⟨again, computed'⟩ := (computeLevels_eq_ok_iff defined').mpr
      ((acyclic_congr requires).mpr acyclic)
    have spec' := computeLevels_spec defined'
    rw [computed'] at spec'
    refine getStartLevels_eq_ok_iff.mpr
      ⟨defined', again, computed', groupByLevel_congr fun name => ?_⟩
    refine ext fun level => ?_
    rw [spec.lookup_iff, spec'.lookup_iff, reordered.keys.mem_iff, isDepth_congr requires]

theorem webOnDatabase_levels :
    getStartLevels webOnDatabase = .ok [["db"], ["web"]] ∧
      IsLeveling webOnDatabase [["db"], ["web"]] :=
  have computed : getStartLevels webOnDatabase = .ok [["db"], ["web"]] := rfl
  ⟨computed, ((getStartLevels_correct Kahn.Search.binary.toPlacement webOnDatabase).2 _ computed).1⟩

end Kepler
