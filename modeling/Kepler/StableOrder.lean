/-
This file is about the start order of a config and the iteration order of the maps that it is
computed from.

`topological_sort` sorts the services without dependencies in ascending order and takes them from
the end, and it puts every other service where `partition_point` finds the first one that is not
above it. That place is determined only in a queue in descending order. So two services that become
ready together may end in different places, depending on which of them comes first in the map.
-/

import Kepler.StartOrder
import Kepler.Library.QueueOrder
import Mathlib.Data.String.Basic

namespace Kepler

open AList

/-! ### Maps in another iteration order -/

/-- The same service, with its dependencies in another order. -/
def RawServiceConfig.Reordered (raw other : RawServiceConfig) : Prop :=
  other.dependsOn.Perm raw.dependsOn ∧ other = { raw with dependsOn := other.dependsOn }

/-- The same services, with another iteration order of the map and of the dependency maps. -/
def ServicesReordered (services others : HashMap String RawServiceConfig) : Prop :=
  ∀ name, Option.Rel RawServiceConfig.Reordered (services.lookup name) (others.lookup name)

namespace ServicesReordered

variable {services others : HashMap String RawServiceConfig}

section

variable (reordered : ServicesReordered services others)

include reordered

theorem keys : others.keys.Perm services.keys := by
  refine (List.perm_ext_iff_of_nodup others.keys_nodup services.keys_nodup).mpr fun name => ?_
  rw [← mem_keys, ← mem_keys, ← lookup_isSome, ← lookup_isSome]
  have same := reordered name
  generalize services.lookup name = found at same ⊢
  generalize others.lookup name = again at same ⊢
  cases same with
  | none => rfl
  | some _ => rfl

theorem dependencyNames (name : String) :
    (Kepler.dependencyNames others name).Perm (Kepler.dependencyNames services name) := by
  have same := reordered name
  unfold Kepler.dependencyNames
  generalize services.lookup name = found at same ⊢
  generalize others.lookup name = again at same ⊢
  cases same with
  | none => exact .nil
  | some same => exact same.1.map _

theorem rearranged :
    Kahn.Rearranged services.keys others.keys (Kepler.dependencyNames services)
      (Kepler.dependencyNames others) :=
  ⟨reordered.keys, reordered.dependencyNames⟩

theorem defined_iff : DependenciesDefined others ↔ DependenciesDefined services := by
  refine forall_congr' fun name => ?_
  rw [reordered.keys.mem_iff]
  refine imp_congr_right fun _ => ?_
  refine forall_congr' fun dependency => ?_
  rw [(reordered.dependencyNames name).mem_iff, reordered.keys.mem_iff]

theorem independentServices_eq : independentServices others = independentServices services := by
  have none_iff : ∀ name, Kepler.dependencyNames others name = [] ↔
      Kepler.dependencyNames services name = [] := fun name => by
    rw [← List.length_eq_zero_iff, (reordered.dependencyNames name).length_eq,
      List.length_eq_zero_iff]
  unfold independentServices
  simp only [none_iff]
  refine List.Perm.eq_of_pairwise' (r := (· ≤ ·)) (List.pairwise_insertionSort ..)
    (List.pairwise_insertionSort ..) ?_
  exact (List.perm_insertionSort ..).trans
    ((reordered.keys.filter _).trans (List.perm_insertionSort ..).symm)

end

theorem of_reordering (same : HashMap.Reordering others services) :
    ServicesReordered services others := by
  intro name
  rw [perm_lookup same]
  cases services.lookup name with
  | none => exact .none
  | some raw => exact .some ⟨.refl _, rfl⟩

end ServicesReordered

/-! ### Orders that do not depend on the maps -/

/-- Every service with dependencies depends on something besides the services without dependencies
other than the first two of them by name. -/
def IndependentDeferred (services : HashMap String RawServiceConfig) : Prop :=
  Kahn.Deferred services.keys (independentServices services) (dependencyNames services)

instance (services : HashMap String RawServiceConfig) : Decidable (IndependentDeferred services) :=
  inferInstanceAs (Decidable (∀ name ∈ services.keys, _ → ¬ _))

/-- The start order of a config does not depend on the iteration order of its maps, when no service
becomes ready before at most one of the services without dependencies is left. -/
theorem getStartOrder_reordered (search : Kahn.Search String)
    (services others : HashMap String RawServiceConfig)
    (reordered : ServicesReordered services others) (deferred : IndependentDeferred services)
    (order : List String) (sorted : getStartOrder search.toPlacement services = .ok order) :
    getStartOrder search.toPlacement others = .ok order := by
  have starts := @starts_independentServices services
  have same := Kahn.sort_rearranged reordered.rearranged services.keys_nodup starts deferred search
  have defined := ((topologicalSort_eq_ok_iff search.toPlacement).mp ⟨order, sorted⟩).1
  have none := findMissingDependency_eq_none_iff.mpr defined
  have none' := findMissingDependency_eq_none_iff.mpr (reordered.defined_iff.mpr defined)
  rw [getStartOrder, topologicalSort, none] at sorted
  rw [getStartOrder, topologicalSort, none', reordered.independentServices_eq]
  dsimp only at sorted ⊢
  rw [same, reordered.keys.length_eq]
  split at sorted
  · rename_i complete
    rw [if_pos complete]
    exact sorted
  · cases sorted

/-- Three independent services with two that depend on one of them, in some order. -/
def databaseUsers (dependency : String) (first second : String) : HashMap String RawServiceConfig :=
  ((((AList.singleton "auth" {}).insert "cache" {}).insert "db" {}).insert second
    { dependsOn := [(dependency, {})] }).insert first { dependsOn := [(dependency, {})] }

theorem databaseUsers_reordered (dependency : String) {first second : String}
    (different : first ≠ second) :
    ServicesReordered (databaseUsers dependency first second)
      (databaseUsers dependency second first) :=
  .of_reordering (insert_insert_of_ne _ different)

/-- Services that depend on the first service by name are ready only after all the independent ones.
-/
theorem authUsers_stable :
    getStartOrder Kahn.Search.binary.toPlacement (databaseUsers "auth" "worker" "beat") =
      .ok ["db", "cache", "auth", "beat", "worker"] :=
  getStartOrder_reordered _ (databaseUsers "auth" "beat" "worker") _
    (databaseUsers_reordered "auth" (by decide)) (by decide +kernel) _ rfl

/-- With services that depend on the last service by name, the order follows the map. -/
theorem databaseUsers_unstable :
    ServicesReordered (databaseUsers "db" "beat" "worker") (databaseUsers "db" "worker" "beat") ∧
      Acyclic (dependencyNames (databaseUsers "db" "beat" "worker")) ∧
      getStartOrder Kahn.Search.binary.toPlacement (databaseUsers "db" "beat" "worker") =
        .ok ["db", "beat", "cache", "auth", "worker"] ∧
      getStartOrder Kahn.Search.binary.toPlacement (databaseUsers "db" "worker" "beat") =
        .ok ["db", "cache", "auth", "beat", "worker"] :=
  have sorted : getStartOrder Kahn.Search.binary.toPlacement (databaseUsers "db" "beat" "worker") =
    .ok ["db", "beat", "cache", "auth", "worker"] := rfl
  ⟨databaseUsers_reordered "db" (by decide),
    ((topologicalSort_eq_ok_iff Kahn.Search.binary.toPlacement).mp ⟨_, sorted⟩).2, sorted, rfl⟩

end Kepler
