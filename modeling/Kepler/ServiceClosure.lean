/-
This file models `get_service_with_deps` of `deps.rs`: the services that are needed to run one
service.

`collect_deps` walks through the dependencies of the service and marks every service that it comes
to, so that it ends also where there is a cycle. It fails at a dependency on a service that is not
there. The services that it has marked are then sorted on their own, so that the rest of the config
does not matter.
-/

import Kepler.StartOrder

namespace Kepler

open List

def collectDependency (services : HashMap String RawServiceConfig)
    (collect : String → List String → Except DaemonError (List String)) (service : String)
    (needed : List String) (dependency : String) : Except DaemonError (List String) :=
  if dependency ∉ services.keys then .error (.missingDependency service dependency)
  else collect dependency needed

/-- `collect_deps`. Every call marks a service, so that one call more than there are services is
enough. A walk that runs out of calls would end in an error. -/
def collectDeps (services : HashMap String RawServiceConfig) :
    Nat → String → List String → Except DaemonError (List String)
  | 0, _, _ => .error (.internal "the walk is not finished")
  | calls + 1, service, needed =>
    if service ∈ needed then .ok needed
    else
      match services.lookup service with
      | none => .ok (service :: needed)
      | some raw =>
        (DependsOn.names raw.dependsOn).foldlM
          (collectDependency services (collectDeps services calls) service) (service :: needed)

/-- `get_service_with_deps`. The map of the needed services has an iteration order of its own. -/
def getServiceWithDeps (placement : Kahn.Placement String)
    (arrangement : HashMap.Arrangement String RawServiceConfig) (service : String)
    (services : HashMap String RawServiceConfig) : Except DaemonError (List String) :=
  if service ∉ services.keys then .error (.serviceNotFound service)
  else do
    let needed ← collectDeps services (services.keys.length + 1) service []
    let filtered := arrangement.arrange (services.filterKeys (· ∈ needed))
    topologicalSort placement filtered

def Needs (services : HashMap String RawServiceConfig) : String → String → Prop :=
  Relation.ReflTransGen fun name dependency => dependency ∈ dependencyNames services name

/-! ### The walk through the dependencies -/

/-- The services are different and of the config, so there are at most as many of them. -/
structure AreServices (services : HashMap String RawServiceConfig) (needed : List String) :
    Prop where
  nodup : needed.Nodup
  within : needed ⊆ services.keys

/-- What is needed for the given services has been collected in addition to what was there. -/
structure Collects (services : HashMap String RawServiceConfig) (needed names after : List String) :
    Prop extends AreServices services after where
  retains : needed ⊆ after
  reached : names ⊆ after
  sound : ∀ name ∈ after, name ∈ needed ∨ ∃ start ∈ names, Needs services start name
  closed : ∀ name ∈ after, name ∉ needed → dependencyNames services name ⊆ after

def Collecting (services : HashMap String RawServiceConfig) (needed names : List String)
    (wrong : Prop) : Except DaemonError (List String) → Prop
  | .ok after => Collects services needed names after
  | .error _ => wrong

section

variable {services : HashMap String RawServiceConfig} {needed after : List String}
  {service : String}

theorem Collects.nil (valid : AreServices services needed) :
    Collects services needed [] needed where
  toAreServices := valid
  retains := List.Subset.refl needed
  reached := nil_subset needed
  sound _ member := .inl member
  closed _ member fresh := absurd member fresh

theorem Collects.cons {between : List String} {name : String} {names : List String}
    (first : Collects services needed [name] between)
    (rest : Collects services between names after) :
    Collects services needed (name :: names) after where
  toAreServices := rest.toAreServices
  retains := List.Subset.trans first.retains rest.retains
  reached := cons_subset.mpr ⟨rest.retains (first.reached mem_cons_self), rest.reached⟩
  sound other member := by
    obtain early | ⟨start, isStart, needs⟩ := rest.sound other member
    · obtain known | ⟨start, isStart, needs⟩ := first.sound other early
      · exact .inl known
      · exact .inr ⟨start, mem_cons.mpr (.inl (mem_singleton.mp isStart)), needs⟩
    · exact .inr ⟨start, mem_cons_of_mem _ isStart, needs⟩
  closed other member fresh := by
    by_cases early : other ∈ between
    · exact List.Subset.trans (first.closed other early fresh) rest.retains
    · exact rest.closed other member early

theorem Collects.enter
    (dependencies : Collects services (service :: needed) (dependencyNames services service)
      after) :
    Collects services needed [service] after where
  toAreServices := dependencies.toAreServices
  retains := List.Subset.trans (subset_cons_self ..) dependencies.retains
  reached := cons_subset.mpr
    ⟨dependencies.retains mem_cons_self, nil_subset after⟩
  sound name member := by
    obtain known | ⟨start, isStart, needs⟩ := dependencies.sound name member
    · obtain same | known := mem_cons.mp known
      · exact .inr ⟨service, mem_singleton_self service, same ▸ .refl⟩
      · exact .inl known
    · exact .inr ⟨service, mem_singleton_self service, .head isStart needs⟩
  closed name member fresh := by
    by_cases same : name = service
    · exact same ▸ dependencies.reached
    · refine dependencies.closed name member fun known => ?_
      exact (mem_cons.mp known).elim same fresh

theorem collecting_foldlM {wrong : Prop}
    {collect : List String → String → Except DaemonError (List String)} {names : List String}
    (valid : AreServices services needed)
    (step : ∀ name ∈ names, ∀ current, AreServices services current → needed ⊆ current →
      Collecting services current [name] wrong (collect current name)) :
    Collecting services needed names wrong (names.foldlM collect needed) := by
  induction names generalizing needed with
  | nil => exact .nil valid
  | cons name names inductionHypothesis =>
    obtain ⟨first, rest⟩ := forall_mem_cons.mp step
    have collected := first needed valid (List.Subset.refl needed)
    rw [foldlM_cons]
    cases outcome : collect needed name with
    | error =>
      rw [outcome] at collected
      exact collected
    | ok between =>
      rw [outcome] at collected
      have others := @inductionHypothesis between collected.toAreServices
        fun other member current valid' retains =>
          rest other member current valid' (List.Subset.trans collected.retains retains)
      change Collecting services needed (name :: names) wrong (names.foldlM ..)
      cases ends : names.foldlM collect between with
      | error =>
        rw [ends] at others
        exact others
      | ok after =>
        rw [ends] at others
        exact collected.cons others

def MissesDependency (services : HashMap String RawServiceConfig) (service : String) : Prop :=
  ∃ name, Needs services service name ∧ ¬ dependencyNames services name ⊆ services.keys

theorem MissesDependency.head {service dependency : String}
    (isDependency : dependency ∈ dependencyNames services service)
    (misses : MissesDependency services dependency) : MissesDependency services service := by
  obtain ⟨name, needs, missing⟩ := misses
  exact ⟨name, .head isDependency needs, missing⟩

/-- A walk with enough calls collects what a service needs, or finds that a dependency is missing.
-/
theorem collecting_collectDeps {calls : Nat} (valid : AreServices services needed)
    (inside : service ∈ services.keys) (enough : services.keys.length < calls + needed.length) :
    Collecting services needed [service] (MissesDependency services service)
      (collectDeps services calls service needed) := by
  induction calls generalizing service needed with
  | zero =>
    have bound := (valid.nodup.subperm valid.within).length_le
    omega
  | succ calls inductionHypothesis =>
    unfold collectDeps
    by_cases known : service ∈ needed
    · rw [if_pos known]
      exact {
        toAreServices := valid
        retains := List.Subset.refl needed
        reached := cons_subset.mpr ⟨known, nil_subset needed⟩
        sound := fun _ member => .inl member
        closed := fun _ member fresh => absurd member fresh }
    · rw [if_neg known]
      obtain ⟨raw, found⟩ := Option.isSome_iff_exists.mp
        (AList.lookup_isSome.mpr (AList.mem_keys.mpr inside))
      have names : dependencyNames services service = DependsOn.names raw.dependsOn := by
        rw [dependencyNames, found]
        rfl
      rw [found]
      dsimp only
      rw [← names]
      have entered : AreServices services (service :: needed) :=
        ⟨nodup_cons.mpr ⟨known, valid.nodup⟩, cons_subset.mpr ⟨inside, valid.within⟩⟩
      have loop := @collecting_foldlM services (service :: needed)
        (MissesDependency ..)
        (collectDependency services (collectDeps services calls) service)
        (dependencyNames ..) entered
        fun dependency isDependency current valid' retains => by
          unfold collectDependency
          by_cases present : dependency ∈ services.keys
          · rw [if_neg (not_not.mpr present)]
            have longer := (entered.nodup.subperm retains).length_le
            rw [length_cons] at longer
            have collected := inductionHypothesis valid' present (by omega)
            cases outcome : collectDeps services calls dependency current with
            | error =>
              rw [outcome] at collected
              exact MissesDependency.head isDependency collected
            | ok after =>
              rw [outcome] at collected
              exact collected
          · rw [if_pos present]
            exact ⟨service, .refl, fun defined => present (defined isDependency)⟩
      cases outcome : (dependencyNames ..).foldlM
          (collectDependency services (collectDeps services calls) service) (service :: needed) with
      | error =>
        rw [outcome] at loop
        exact loop
      | ok after =>
        rw [outcome] at loop
        exact Collects.enter loop

theorem collectDeps_spec (inside : service ∈ services.keys) :
    match collectDeps services (services.keys.length + 1) service [] with
    | .ok needed => (∀ name, name ∈ needed ↔ Needs services service name) ∧
        needed ⊆ services.keys ∧ ∀ name ∈ needed, dependencyNames services name ⊆ needed
    | .error _ => MissesDependency services service := by
  have empty : AreServices services [] := ⟨nodup_nil, nil_subset _⟩
  have collected := collecting_collectDeps empty inside (Nat.lt_succ_self _)
  cases outcome : collectDeps services (services.keys.length + 1) service [] with
  | error =>
    rw [outcome] at collected
    exact collected
  | ok needed =>
    rw [outcome] at collected
    have closed : ∀ name ∈ needed, dependencyNames services name ⊆ needed :=
      fun name member => collected.closed name member not_mem_nil
    refine ⟨fun name => ⟨fun member => ?_, fun needs => ?_⟩, collected.within, closed⟩
    · obtain none | ⟨start, isStart, needs⟩ := collected.sound name member
      · cases none
      · exact mem_singleton.mp isStart ▸ needs
    · induction needs with
      | refl => exact collected.reached mem_cons_self
      | tail _ isDependency inductionHypothesis => exact closed _ inductionHypothesis isDependency

/-! ### The map of the needed services -/

variable {filtered : HashMap String RawServiceConfig}

section

variable (same : filtered.Same (services.filterKeys (· ∈ needed)))

include same

theorem dependencyNames_filterKeys (name : String) :
    dependencyNames filtered name =
      if name ∈ needed then dependencyNames services name else [] := by
  unfold dependencyNames
  rw [same name, HashMap.lookup_filterKeys]
  by_cases member : name ∈ needed
  · rw [if_pos (decide_eq_true member), if_pos member]
  · rw [if_neg (by simpa using member), if_neg member]
    rfl

theorem mem_keys_filterKeys (within : needed ⊆ services.keys) (name : String) :
    name ∈ filtered.keys ↔ name ∈ needed := by
  rw [← AList.mem_keys, ← AList.lookup_isSome, same name, HashMap.lookup_filterKeys]
  by_cases member : name ∈ needed
  · rw [if_pos (decide_eq_true member)]
    exact iff_of_true (AList.lookup_isSome.mpr (AList.mem_keys.mpr (within member))) member
  · rw [if_neg (by simpa using member)]
    exact iff_of_false Bool.false_ne_true member

/-- The cycles among the needed services are those that go through one of them, since the
dependencies of a needed service are needed too. -/
theorem acyclic_filterKeys (closed : ∀ name ∈ needed, dependencyNames services name ⊆ needed) :
    Acyclic (dependencyNames filtered) ↔ ∀ name ∈ needed, ¬ Relation.TransGen
      (fun required node => required ∈ dependencyNames services node) name name := by
  have requires := dependencyNames_filterKeys same
  constructor
  · intro acyclic name member cycle
    -- A path that ends in a needed service goes through needed services only.
    have inside : ∀ {start}, Relation.TransGen
        (fun required node => required ∈ dependencyNames services node) start name →
        start ∈ needed ∧ Relation.TransGen
          (fun required node => required ∈ dependencyNames filtered node) start name := by
      intro start path
      induction path using Relation.TransGen.head_induction_on with
      | single isRequired =>
        exact ⟨closed name member isRequired, .single (by rwa [requires, if_pos member])⟩
      | head isRequired _ inductionHypothesis =>
        obtain ⟨needed', path⟩ := inductionHypothesis
        exact ⟨closed _ needed' isRequired, .head (by rwa [requires, if_pos needed']) path⟩
    exact acyclic name (inside cycle).2
  · intro none name cycle
    have widen : ∀ required node, required ∈ dependencyNames filtered node →
        node ∈ needed ∧ required ∈ dependencyNames services node := by
      intro required node isRequired
      rw [requires] at isRequired
      split at isRequired
      · exact ⟨‹_›, isRequired⟩
      · cases isRequired
    obtain ⟨last, _, isRequired⟩ := Relation.TransGen.tail'_iff.mp cycle
    exact none name (widen last name isRequired).1
      (Relation.TransGen.mono (fun required node isRequired => (widen required node isRequired).2)
        name name cycle)

end

end

/-- The services that are needed for a service are found exactly if none of them has a missing
dependency or depends on itself in one step or more. They are the service and its transitive
dependencies, each of them once and after its dependencies. -/
theorem getServiceWithDeps_correct (placement : Kahn.Placement String)
    (arrangement : HashMap.Arrangement String RawServiceConfig)
    (services : HashMap String RawServiceConfig) (service : String)
    (inside : service ∈ services.keys) :
    ((∃ order, getServiceWithDeps placement arrangement service services = .ok order) ↔
        ∀ name, Needs services service name → dependencyNames services name ⊆ services.keys ∧
          ¬ Relation.TransGen (fun required node => required ∈ dependencyNames services node)
            name name) ∧
      ∀ order, getServiceWithDeps placement arrangement service services = .ok order →
        (∀ name, name ∈ order ↔ Needs services service name) ∧ order.Nodup ∧
          InOrder (dependencyNames services) order := by
  have spec := collectDeps_spec inside
  unfold getServiceWithDeps
  rw [if_neg (not_not.mpr inside)]
  cases outcome : collectDeps services (services.keys.length + 1) service [] with
  | error =>
    rw [outcome] at spec
    obtain ⟨name, needs, missing⟩ := spec
    refine ⟨iff_of_false ?_ fun all => missing (all name needs).1, ?_⟩
    · rintro ⟨order, sorted⟩
      cases sorted
    · intro order sorted
      cases sorted
  | ok needed =>
    rw [outcome] at spec
    obtain ⟨isNeeded, within, closed⟩ := spec
    change ((∃ order, topologicalSort placement _ = .ok order) ↔ _) ∧
      ∀ order, topologicalSort placement _ = .ok order → _
    have same := arrangement.same (services.filterKeys (· ∈ needed))
    generalize arrangement.arrange (services.filterKeys (· ∈ needed)) = filtered at same ⊢
    have keys := mem_keys_filterKeys same within
    have requires := dependencyNames_filterKeys same
    have defined : DependenciesDefined filtered := by
      intro name member dependency isDependency
      rw [requires, if_pos ((keys name).mp member)] at isDependency
      exact (keys dependency).mpr (closed name ((keys name).mp member) isDependency)
    refine ⟨?_, fun order sorted => ?_⟩
    · rw [topologicalSort_eq_ok_iff, and_iff_right defined, acyclic_filterKeys same closed]
      refine forall_congr' fun name => ?_
      rw [isNeeded]
      refine imp_congr_right fun needs => (and_iff_right ?_).symm
      exact List.Subset.trans (closed name ((isNeeded name).mpr needs)) within
    · have isOrder := isTopologicalOrder_of_getStartOrder placement
        (Result.toOption_eq_some.mpr sorted)
      have members : ∀ name, name ∈ order ↔ name ∈ needed := fun name =>
        isOrder.perm.mem_iff.trans (keys name)
      refine ⟨fun name => (members name).trans (isNeeded name),
        isOrder.perm.nodup_iff.mpr filtered.keys_nodup, fun earlier node later split => ?_⟩
      have ordered := isOrder.inOrder earlier node later split
      rwa [requires, if_pos ((members node).mp (by rw [split]; simp))] at ordered

def webBesideLoop : HashMap String RawServiceConfig :=
  webOnDatabase.insert "loop" { dependsOn := [("loop", {})] }

theorem webBesideLoop_closure :
    getServiceWithDeps ⟨fun _ _ => 0, fun _ _ => Nat.zero_le _⟩ ⟨id, HashMap.Same.refl⟩ "web"
        webBesideLoop = .ok ["db", "web"] ∧
      ∀ name, name ∈ ["db", "web"] ↔ Needs webBesideLoop "web" name :=
  have found : getServiceWithDeps ⟨fun _ _ => 0, fun _ _ => Nat.zero_le _⟩
    ⟨id, HashMap.Same.refl⟩ "web" webBesideLoop = .ok ["db", "web"] := by decide +kernel
  ⟨found, ((getServiceWithDeps_correct _ _ webBesideLoop "web" (by decide +kernel)).2 _ found).1⟩

end Kepler
