/-
This file is about the processes that the metric collector counts for a service
(`monitor/collector.rs`): those of its cgroup and those below its main process.

A process id may have been used again, so the parent links of the process table may have cycles. The
walk keeps the ids that it has visited apart from those that it has collected, since the cgroup may
have listed a process whose children are still to be found.
-/

import Mathlib.Data.Finset.Card
import Mathlib.Data.List.Destutter
import Mathlib.Data.List.Sort
import Mathlib.Logic.Relation

namespace Kepler.Collector

open Relation

/-- What is collected, and the processes whose children have been looked for. -/
structure Progress where
  result : List UInt32
  visited : Finset UInt32

/-- `System::processes`: the processes with their parents. -/
abbrev ProcessTable := List (UInt32 × Option UInt32)

/-- What `collect_descendants` does with one process of the table. -/
def collectChild (descend : UInt32 → Progress → Option Progress) (parentPid : UInt32)
    (progress : Progress) (process : UInt32 × Option UInt32) : Option Progress :=
  if process.2 ≠ some parentPid then some progress
  else if process.1 ∈ progress.visited then some progress
  else descend process.1
    ⟨progress.result ++ [process.1], insert process.1 progress.visited⟩

/-- `collect_descendants`, as far as a number of nested calls goes. -/
def collectDescendants (processes : ProcessTable) : Nat → UInt32 → Progress → Option Progress
  | 0, _, _ => none
  | calls + 1, parentPid, progress =>
    processes.foldlM (collectChild (collectDescendants processes calls) parentPid) progress

def unitedPids (processes : ProcessTable) (cgroupPids : List UInt32) :
    Option UInt32 → Option (List UInt32)
  | none => some cgroupPids
  | some pid => (collectDescendants processes (processes.length + 1) pid
      ⟨cgroupPids ++ [pid], {pid}⟩).map Progress.result

/-- The process ids that `spawn_collector` counts for a service. -/
def servicePids (processes : ProcessTable) (cgroupPids : List UInt32) (main : Option UInt32) :
    Option (List UInt32) :=
  (unitedPids processes cgroupPids main).map fun pids =>
    (pids.insertionSort (· ≤ ·)).destutter (· ≠ ·)

def Child (processes : ProcessTable) (parent child : UInt32) : Prop :=
  (child, some parent) ∈ processes

structure Sources where
  processes : ProcessTable
  cgroupPids : List UInt32
  main : UInt32

namespace Sources

/-- In the middle of a walk, some children of visited processes are pending. -/
structure Walking (sources : Sources) (pending : UInt32 → UInt32 → Prop) (progress : Progress) :
    Prop where
  reached : ∀ pid ∈ progress.visited,
    ReflTransGen (Child sources.processes) sources.main pid
  closed : ∀ pid ∈ progress.visited, ∀ child, Child sources.processes pid child →
    child ∈ progress.visited ∨ pending pid child
  listed : ∀ pid, pid ∈ progress.result ↔ pid ∈ sources.cgroupPids ∨ pid ∈ progress.visited

/-- The children of a process in a list, beside what was pending. -/
def below (parent : UInt32) (rest : ProcessTable) (pending : UInt32 → UInt32 → Prop)
    (pid child : UInt32) : Prop :=
  pid = parent ∧ (child, some parent) ∈ rest ∨ pending pid child

def Ends (sources : Sources) (pending : UInt32 → UInt32 → Prop) (before : Progress)
    (outcome : Option Progress) : Prop :=
  ∃ after, outcome = some after ∧ before.visited ⊆ after.visited ∧ sources.Walking pending after

def unvisited (sources : Sources) (visited : Finset UInt32) : Finset UInt32 :=
  (sources.processes.map Prod.fst).toFinset \ visited

variable {sources : Sources} {parent child : UInt32}
  {pending later : UInt32 → UInt32 → Prop} {progress : Progress}

theorem Walking.enter (walking : sources.Walking pending progress)
    (visited : parent ∈ progress.visited) (isChild : Child sources.processes parent child) :
    sources.Walking (below child sources.processes pending)
      ⟨progress.result ++ [child], insert child progress.visited⟩ where
  reached pid member := by
    rcases Finset.mem_insert.mp member with rfl | before
    · exact (walking.reached parent visited).tail isChild
    · exact walking.reached pid before
  closed pid member other isOther := by
    rcases Finset.mem_insert.mp member with rfl | before
    · exact .inr (.inl ⟨rfl, isOther⟩)
    · exact (walking.closed pid before other isOther).imp Finset.mem_insert_of_mem .inr
  listed pid := by simp [walking.listed, or_assoc, or_comm]

theorem Walking.settle (walking : sources.Walking pending progress)
    (settles : ∀ pid child, pending pid child → child ∈ progress.visited ∨ later pid child) :
    sources.Walking later progress where
  reached := walking.reached
  closed pid member child isChild := (walking.closed pid member child isChild).elim .inl
    (settles pid child)
  listed := walking.listed

theorem ends_loop {descend : UInt32 → Progress → Option Progress} {calls : Nat}
    (descends : ∀ child pending progress, child ∈ progress.visited →
      sources.Walking (below child sources.processes pending) progress →
      (sources.unvisited progress.visited).card < calls →
      sources.Ends pending progress (descend child progress))
    {rest : ProcessTable} (within : rest ⊆ sources.processes) (visited : parent ∈ progress.visited)
    (walking : sources.Walking (below parent rest pending) progress)
    (enough : (sources.unvisited progress.visited).card < calls + 1) :
    sources.Ends pending progress
      (rest.foldlM (collectChild descend parent) progress) := by
  induction rest generalizing progress with
  | nil =>
    refine ⟨progress, rfl, Finset.Subset.refl _, walking.settle fun pid child left => .inr ?_⟩
    exact left.resolve_left fun nothing => List.not_mem_nil nothing.2
  | cons process rest inductionHypothesis =>
    obtain ⟨isProcess, within⟩ := List.cons_subset.mp within
    obtain ⟨between, found, ends, retains, walking⟩ : ∃ between : Progress,
        (process.2 = some parent → process.1 ∈ between.visited) ∧
        collectChild descend parent progress process = some between ∧
        progress.visited ⊆ between.visited ∧
        sources.Walking (below parent (process :: rest) pending) between := by
      unfold collectChild
      split_ifs with other known
      · exact ⟨progress, fun same => absurd same other, rfl, Finset.Subset.refl _, walking⟩
      · exact ⟨progress, fun _ => known, rfl, Finset.Subset.refl _, walking⟩
      have isChild : Child sources.processes parent process.1 := by
        rw [Child, ← not_not.mp other]
        exact isProcess
      have fewer : (sources.unvisited (insert process.1 progress.visited)).card <
          (sources.unvisited progress.visited).card := by
        rw [unvisited, Finset.sdiff_insert]
        refine Finset.card_erase_lt_of_mem (Finset.mem_sdiff.mpr ⟨?_, known⟩)
        exact List.mem_toFinset.mpr (List.mem_map_of_mem isProcess)
      obtain ⟨after, ends, retains, walking⟩ := descends _ _ _ (Finset.mem_insert_self ..)
        (walking.enter visited isChild) (fewer.trans_le (Nat.lt_succ_iff.mp enough))
      obtain ⟨found, retains⟩ := Finset.insert_subset_iff.mp retains
      exact ⟨after, fun _ => found, ends, retains, walking⟩
    have fewer : (sources.unvisited between.visited).card ≤
        (sources.unvisited progress.visited).card :=
      Finset.card_le_card (Finset.sdiff_subset_sdiff (Finset.Subset.refl _) retains)
    have settled : sources.Walking (below parent rest pending) between := by
      refine walking.settle fun pid child left => ?_
      rcases left with ⟨same, member⟩ | outside
      · rcases List.mem_cons.mp member with rfl | later
        · exact .inl (found rfl)
        · exact .inr (.inl ⟨same, later⟩)
      · exact .inr (.inr outside)
    obtain ⟨after, rest, kept, walking⟩ :=
      inductionHypothesis within (retains visited) settled (fewer.trans_lt enough)
    refine ⟨after, ?_, retains.trans kept, walking⟩
    rw [List.foldlM_cons, ends]
    exact rest

theorem ends_collectDescendants {calls : Nat} (visited : parent ∈ progress.visited)
    (walking : sources.Walking (below parent sources.processes pending) progress)
    (enough : (sources.unvisited progress.visited).card < calls) :
    sources.Ends pending progress
      (collectDescendants sources.processes calls parent progress) := by
  induction calls generalizing parent pending progress with
  | zero => exact absurd enough (Nat.not_lt_zero _)
  | succ calls inductionHypothesis =>
    exact ends_loop (fun _ _ _ => inductionHypothesis) (List.Subset.refl _) visited walking enough

end Sources

theorem unitedPids_spec (processes : ProcessTable) (cgroupPids : List UInt32)
    (main : Option UInt32) :
    ∃ pids, unitedPids processes cgroupPids main = some pids ∧ ∀ pid, pid ∈ pids ↔
      pid ∈ cgroupPids ∨
        ∃ start, main = some start ∧ ReflTransGen (Child processes) start pid := by
  cases main with
  | none => exact ⟨cgroupPids, rfl, fun pid => by simp⟩
  | some main =>
    have start : main ∈ ({main} : Finset UInt32) := Finset.mem_singleton_self main
    let sources : Sources := ⟨processes, cgroupPids, main⟩
    have walking : sources.Walking (Sources.below main processes fun _ _ => False)
        ⟨cgroupPids ++ [main], {main}⟩ :=
      ⟨fun pid member => Finset.mem_singleton.mp member ▸ .refl, fun pid member child isChild =>
        .inr (.inl ⟨Finset.mem_singleton.mp member, Finset.mem_singleton.mp member ▸ isChild⟩),
        fun pid => by simp [sources]⟩
    have fewer : (sources.unvisited {main}).card ≤ processes.length := by
      rw [← List.length_map Prod.fst]
      exact (Finset.card_le_card Finset.sdiff_subset).trans (List.toFinset_card_le _)
    obtain ⟨after, ends, retains, walking⟩ :=
      Sources.ends_collectDescendants start walking (Nat.lt_succ_of_le fewer)
    have reaches : ∀ pid, pid ∈ after.visited ↔
        ReflTransGen (Child processes) main pid := by
      refine fun pid => ⟨walking.reached pid, fun reached => ?_⟩
      induction reached with
      | refl => exact retains start
      | tail _ isChild inductionHypothesis =>
        exact (walking.closed _ inductionHypothesis _ isChild).resolve_right id
    refine ⟨after.result, by rw [unitedPids, ends]; rfl, fun pid => ?_⟩
    simp [walking.listed, reaches, sources]

/-- The collector counts exactly the processes of the cgroup and those reached from the main
process, each once. -/
theorem servicePids_correct (processes : ProcessTable) (cgroupPids : List UInt32)
    (main : Option UInt32) :
    ∃ pids, servicePids processes cgroupPids main = some pids ∧ pids.Nodup ∧ ∀ pid, pid ∈ pids ↔
      pid ∈ cgroupPids ∨
        ∃ start, main = some start ∧ ReflTransGen (Child processes) start pid := by
  obtain ⟨pids, united, listed⟩ := unitedPids_spec processes cgroupPids main
  refine ⟨(pids.insertionSort (· ≤ ·)).dedup, ?_, List.nodup_dedup _, fun pid => ?_⟩
  · rw [servicePids, united, Option.map_some,
      (List.pairwise_insertionSort (· ≤ ·) pids).destutter_eq_dedup]
  · rw [List.mem_dedup, List.mem_insertionSort, listed]

end Kepler.Collector
