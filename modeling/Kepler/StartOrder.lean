/-
This file models `topological_sort` of `deps.rs` and the order in which services are started.

The sort is Kahn's algorithm on the dependencies of the services. The queue is sorted only once.
From then on `partition_point` chooses the place for a service by a comparison that the queue does
not follow, so that its answer is some position in the queue and the order is not determined.
-/

import Kepler.Library.TopologicalOrder
import Kepler.Config

namespace Kepler

def DependsOn.names (dependsOn : DependsOn) : List String := dependsOn.map Prod.fst

def dependencyNames (services : HashMap String RawServiceConfig) (name : String) : List String :=
  ((services.lookup name).map fun raw => DependsOn.names raw.dependsOn).getD []

def findMissingDependency (services : HashMap String RawServiceConfig) :
    Option (String × String) :=
  services.entries.findSome? fun entry =>
    ((DependsOn.names entry.2.dependsOn).find? (· ∉ services.keys)).map (entry.1, ·)

def independentServices (services : HashMap String RawServiceConfig) : List String :=
  (services.keys.filter fun name => dependencyNames services name = []).insertionSort (· ≤ ·)

def topologicalSort (placement : Kahn.Placement String)
    (services : HashMap String RawServiceConfig) : Except DaemonError (List String) :=
  match findMissingDependency services with
  | some (service, dependency) => .error (.missingDependency service dependency)
  | none =>
    let result := Kahn.sort services.keys (dependencyNames services) placement
      (independentServices services)
    if result.length = services.keys.length then .ok result
    else
      let remaining := services.keys.filter (· ∉ result)
      .error (.dependencyCycle ("Cycle detected involving: " ++ ", ".intercalate remaining))

def getStartOrder (placement : Kahn.Placement String)
    (services : HashMap String RawServiceConfig) : Except DaemonError (List String) :=
  topologicalSort placement services

def getStopOrder (placement : Kahn.Placement String)
    (services : HashMap String RawServiceConfig) : Except DaemonError (List String) := do
  let order ← topologicalSort placement services
  return order.reverse

/-- Every dependency is on a service of the config, as `validate` demands. -/
def DependenciesDefined (services : HashMap String RawServiceConfig) : Prop :=
  ∀ name ∈ services.keys, dependencyNames services name ⊆ services.keys

section

variable {services : HashMap String RawServiceConfig} (placement : Kahn.Placement String)

theorem dependencyNames_of_entry {entry : (_ : String) × RawServiceConfig}
    (member : entry ∈ services.entries) :
    dependencyNames services entry.1 = DependsOn.names entry.2.dependsOn := by
  have found : services.lookup entry.1 = some entry.2 := AList.mem_lookup_iff.mpr member
  rw [dependencyNames, found]
  rfl

theorem dependencyNames_of_notMem {name : String} (outside : name ∉ services.keys) :
    dependencyNames services name = [] := by
  rw [dependencyNames, AList.lookup_eq_none.mpr outside]
  rfl

theorem findMissingDependency_eq_none_iff :
    findMissingDependency services = none ↔ DependenciesDefined services := by
  have entry_iff : ∀ entry ∈ services.entries,
      ((DependsOn.names entry.2.dependsOn).find? (· ∉ services.keys)).map (entry.1, ·) = none ↔
        dependencyNames services entry.1 ⊆ services.keys := by
    intro entry member
    rw [dependencyNames_of_entry member, Option.map_eq_none_iff, List.find?_eq_none]
    simp only [decide_eq_true_iff, not_not]
    rfl
  rw [findMissingDependency, List.findSome?_eq_none_iff]
  constructor
  · intro none name member
    obtain ⟨entry, isEntry, rfl⟩ := List.mem_map.mp member
    exact (entry_iff entry isEntry).mp (none entry isEntry)
  · intro defined entry isEntry
    exact (entry_iff entry isEntry).mpr
      (defined entry.1 (List.mem_map.mpr ⟨entry, isEntry, rfl⟩))

theorem starts_independentServices : (independentServices services).Perm
    (services.keys.filter fun name => dependencyNames services name = []) :=
  List.perm_insertionSort ..

theorem isSome_getStartOrder_iff :
    (getStartOrder placement services).toOption.isSome ↔
      DependenciesDefined services ∧ Acyclic (dependencyNames services) := by
  unfold getStartOrder topologicalSort
  cases missing : findMissingDependency services with
  | some found =>
    have undefined : ¬ DependenciesDefined services := by
      rw [← findMissingDependency_eq_none_iff, missing]
      exact Option.some_ne_none found
    simp [undefined, Except.toOption]
  | none =>
    have defined := findMissingDependency_eq_none_iff.mp missing
    rw [← Kahn.length_sort_eq_iff placement services.keys_nodup starts_independentServices defined
      fun name => dependencyNames_of_notMem]
    dsimp only
    split
    · rename_i complete
      exact iff_of_true rfl ⟨defined, complete⟩
    · rename_i incomplete
      exact iff_of_false Bool.false_ne_true fun both => incomplete both.2

theorem isTopologicalOrder_of_getStartOrder {order : List String}
    (found : (getStartOrder placement services).toOption = some order) :
    IsTopologicalOrder services.keys (dependencyNames services) order := by
  rw [Result.toOption_eq_some, getStartOrder, topologicalSort] at found
  split at found
  · cases found
  · dsimp only at found
    split at found
    · rename_i complete
      rw [← Except.ok.inj found]
      exact Kahn.isTopologicalOrder_sort placement services.keys_nodup starts_independentServices
        complete
    · cases found

theorem topologicalSort_eq_ok_iff :
    (∃ order, topologicalSort placement services = .ok order) ↔
      DependenciesDefined services ∧ Acyclic (dependencyNames services) := by
  rw [← isSome_getStartOrder_iff placement, Option.isSome_iff_exists]
  exact exists_congr fun order => Result.toOption_eq_some.symm

end

/-- The sort goes through exactly if every dependency is there and no service depends on itself in
one step or more. It then has every service once, after its dependencies, and the services are
stopped in the opposite order. -/
theorem topologicalSort_correct (placement : Kahn.Placement String)
    (services : HashMap String RawServiceConfig) :
    ((∃ order, topologicalSort placement services = .ok order) ↔
        DependenciesDefined services ∧ Acyclic (dependencyNames services)) ∧
      ∀ order, topologicalSort placement services = .ok order →
        IsTopologicalOrder services.keys (dependencyNames services) order ∧ order.Nodup ∧
          getStopOrder placement services = .ok order.reverse := by
  refine ⟨topologicalSort_eq_ok_iff placement, fun order sorted => ?_⟩
  have isOrder := isTopologicalOrder_of_getStartOrder placement (Result.toOption_eq_some.mpr sorted)
  refine ⟨isOrder, isOrder.perm.nodup_iff.mpr services.keys_nodup, ?_⟩
  rw [getStopOrder, sorted]
  rfl

/-- A database and a web server that names it twice as its dependency. -/
def webOnDatabase : HashMap String RawServiceConfig :=
  (AList.singleton "db" {}).insert "web" { dependsOn := [("db", {}), ("db", { restart := true })] }

theorem webOnDatabase_sorted :
    topologicalSort ⟨fun _ _ => 0, fun _ _ => Nat.zero_le _⟩ webOnDatabase = .ok ["db", "web"] ∧
      getStopOrder ⟨fun _ _ => 0, fun _ _ => Nat.zero_le _⟩ webOnDatabase = .ok ["web", "db"] :=
  have sorted : topologicalSort ⟨fun _ _ => 0, fun _ _ => Nat.zero_le _⟩ webOnDatabase =
    .ok ["db", "web"] := rfl
  ⟨sorted, ((topologicalSort_correct _ webOnDatabase).2 _ sorted).2.2⟩

end Kepler
