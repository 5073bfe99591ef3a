/-
This file is about the signal that ends a foreground start: `compute_quiescence`, which judges the
services in start order and finds out whether any of them can still change.

What it computes is given by a recursive definition over the dependencies, which names no order, so
all orders give the same answer.

The policy is asked about every ended service but a failed one. A service that was stopped by hand
is therefore taken for one that comes back when its policy covers the exit code on record.
-/

import Kepler.StartOrder
import Kepler.ServiceActor

namespace Kepler

open Runs Option

namespace ServiceActor

/-! ### Settled services -/

inductive Settles (actor : ServiceActor) : String → Prop where
  | unknown {name : String} (absent : (actor.cells name).state = none) : Settles actor name
  | skipped {name : String} (skipped : actor.status name = some .skipped) : Settles actor name
  /-- A service that waits for conditions that will never hold. -/
  | waiting {name : String} (waits : actor.status name = some .waiting)
      (blocked : actor.unsatisfied name ≠ [])
      (settled : ∀ dependency ∈ actor.unsatisfied name, Settles actor dependency.1) :
      Settles actor name
  | ended {name : String} {state : ServiceState} (found : (actor.cells name).state = some state)
      (inactive : state.status.isActive = false)
      (stays : actor.restartFollows name state.status state.exitCode = false) :
      Settles actor name
  /-- A service that cannot be restarted, as a condition will never hold. -/
  | unsatisfiable {name : String} {state : ServiceState}
      (found : (actor.cells name).state = some state) (inactive : state.status.isActive = false)
      {dependency : String × DependencyConfig} (blocks : dependency ∈ actor.unsatisfied name)
      (settled : Settles actor dependency.1) : Settles actor name

variable {actor : ServiceActor} {name : String} {state : ServiceState} {settled : String → Bool}

theorem status_of_state (found : (actor.cells name).state = some state) :
    actor.status name = some state.status :=
  congrArg (Option.map ServiceState.status) found

theorem mem_dependencyNames {dependency : String × DependencyConfig}
    (member : dependency ∈ actor.unsatisfied name) :
    dependency.1 ∈ dependencyNames actor.config.services name := by
  have declared : dependency ∈ actor.dependsOn name := List.mem_of_mem_filter member
  unfold dependsOn at declared
  unfold dependencyNames
  cases found : actor.config.services.lookup name with
  | none =>
    rw [found] at declared
    cases declared
  | some raw =>
    rw [found] at declared
    exact List.mem_map_of_mem declared

theorem settles_waiting_iff (waits : actor.status name = some .waiting) :
    actor.Settles name ↔ actor.unsatisfied name ≠ [] ∧
      ∀ dependency ∈ actor.unsatisfied name, actor.Settles dependency.1 := by
  constructor
  · intro settles
    cases settles with
    | unknown absent =>
      rw [status, ServiceCell.status, absent] at waits
      cases waits
    | skipped skipped => cases waits.symm.trans skipped
    | waiting _ blocked settled => exact ⟨blocked, settled⟩
    | ended found inactive _ | unsatisfiable found inactive _ _ =>
      rw [status_of_state found, some.injEq] at waits
      rw [waits] at inactive
      cases inactive
  · exact fun ⟨blocked, settled⟩ => .waiting waits blocked settled

theorem settles_inactive_iff (found : (actor.cells name).state = some state)
    (inactive : state.status.isActive = false) (notSkipped : state.status ≠ .skipped) :
    actor.Settles name ↔ actor.restartFollows name state.status state.exitCode = false ∨
      ∃ dependency ∈ actor.unsatisfied name, actor.Settles dependency.1 := by
  constructor
  · intro settles
    cases settles with
    | unknown absent => cases found.symm.trans absent
    | skipped skipped =>
      rw [status_of_state found] at skipped
      exact absurd (some.inj skipped) notSkipped
    | waiting waits _ _ =>
      rw [status_of_state found, some.injEq] at waits
      rw [waits] at inactive
      cases inactive
    | ended same _ stays =>
      cases found.symm.trans same
      exact .inl stays
    | unsatisfiable _ _ blocks settled => exact .inr ⟨_, blocks, settled⟩
  · rintro (stays | ⟨dependency, blocks, settled⟩)
    · exact .ended found inactive stays
    · exact .unsatisfiable found inactive blocks settled

theorem not_settles_of_isActive (found : (actor.cells name).state = some state)
    (active : state.status.isActive) (notWaiting : state.status ≠ .waiting) :
    ¬ actor.Settles name := by
  intro settles
  cases settles with
  | unknown absent => cases found.symm.trans absent
  | skipped skipped =>
    rw [status_of_state found, some.injEq] at skipped
    rw [skipped] at active
    cases active
  | waiting waits _ _ =>
    rw [status_of_state found] at waits
    exact notWaiting (some.inj waits)
  | ended same inactive _ | unsatisfiable same inactive _ _ =>
    cases found.symm.trans same
    cases active.symm.trans inactive

theorem not_areDepsSatisfiable_iff (configured : name ∈ actor.config.services)
    (known : ∀ dependency ∈ dependencyNames actor.config.services name,
      settled dependency ↔ actor.Settles dependency) :
    actor.areDepsSatisfiable settled name = false ↔
      ∃ dependency ∈ actor.unsatisfied name, actor.Settles dependency.1 := by
  have one : ∀ dependency ∈ actor.unsatisfied name,
      ((actor.cells dependency.1).state.any fun state =>
        !(state.status = .skipped && !dependency.2.allowSkipped) && !settled dependency.1) = false ↔
          actor.Settles dependency.1 := by
    intro dependency member
    have agrees := known dependency.1 (mem_dependencyNames member)
    cases found : (actor.cells dependency.1).state with
    | none => exact iff_of_true rfl (.unknown found)
    | some state => ?_
    rw [any_some]
    by_cases skipped : state.status = .skipped
    · have settles : actor.Settles dependency.1 :=
        .skipped (by rw [status_of_state found, skipped])
      rw [agrees.mpr settles, Bool.not_true, Bool.and_false]
      exact iff_of_true rfl settles
    · rw [← agrees]
      simp [skipped]
  have present : (actor.config.services.lookup name).isSome := AList.lookup_isSome.mpr configured
  rw [areDepsSatisfiable, present, Bool.true_and, List.all_eq_false]
  constructor
  · rintro ⟨dependency, member, blocks⟩
    exact ⟨dependency, member, (one dependency member).mp (Bool.eq_false_iff.mpr blocks)⟩
  · rintro ⟨dependency, member, settles⟩
    exact ⟨dependency, member, Bool.eq_false_iff.mp ((one dependency member).mpr settles)⟩

/-- The judgement of the actor is right when it is right about the dependencies. -/
theorem isServiceSettled_iff (configured : name ∈ actor.config.services)
    (known : ∀ dependency ∈ dependencyNames actor.config.services name,
      settled dependency ↔ actor.Settles dependency) :
    actor.isServiceSettled settled name ↔ actor.Settles name := by
  unfold isServiceSettled
  cases found : (actor.cells name).state with
  | none => exact iff_of_true rfl (.unknown found)
  | some state => ?_
  rw [all_some]
  have entered := status_of_state found
  cases status : state.status with
  | skipped => exact iff_of_true rfl (.skipped (status ▸ entered))
  | waiting =>
    rw [settles_waiting_iff (status ▸ entered)]
    simp only [Bool.and_eq_true, List.all_eq_true, Bool.not_eq_true', List.isEmpty_eq_false_iff]
    exact and_comm.trans (and_congr_right fun _ => forall₂_congr fun dependency member =>
      known dependency.1 (mem_dependencyNames member))
  | stopped | failed | exited | killed =>
    rw [settles_inactive_iff found (by rw [status]; rfl) (by rw [status]; decide), status,
      ← not_areDepsSatisfiable_iff configured known]
    simp
  | _ =>
    exact iff_of_false Bool.false_ne_true
      (not_settles_of_isActive found (by rw [status]; rfl) (by rw [status]; decide))

theorem quiescent_iff {order : List String}
    (isOrder : IsTopologicalOrder actor.config.services.keys
      (dependencyNames actor.config.services) order) :
    order.all (actor.settledIn order) ↔
      ∀ name ∈ actor.config.services.keys, actor.Settles name := by
  have judged := isOrder.inOrder.judged (fun settled name member => isServiceSettled_iff
    (isOrder.perm.mem_iff.mp member)) fun _ => false
  rw [List.all_eq_true]
  constructor
  · intro all name member
    have ordered := isOrder.perm.mem_iff.mpr member
    exact (judged name ordered).mp (all name ordered)
  · intro all name ordered
    exact (judged name ordered).mpr (all name (isOrder.perm.mem_iff.mp ordered))

/-- The services of an acyclic config are quiescent exactly if all of them are settled, and the
answer does not depend on the order. -/
theorem computeQuiescence_iff (actor : ServiceActor) (placement : Kahn.Placement String)
    (cached : actor.startOrder = (getStartOrder placement actor.config.services).toOption)
    (defined : DependenciesDefined actor.config.services)
    (acyclic : Acyclic (dependencyNames actor.config.services)) :
    (actor.computeQuiescence ↔ ∀ name ∈ actor.config.services.keys, actor.Settles name) ∧
      ∀ order, IsTopologicalOrder actor.config.services.keys
          (dependencyNames actor.config.services) order →
        ({ actor with startOrder := some order } : ServiceActor).computeQuiescence =
          actor.computeQuiescence := by
  obtain ⟨found, isFound⟩ := isSome_iff_exists.mp
    ((isSome_getStartOrder_iff placement).mpr ⟨defined, acyclic⟩)
  have answer : actor.computeQuiescence ↔
      ∀ name ∈ actor.config.services.keys, actor.Settles name := by
    rw [computeQuiescence, cached, isFound, any_some]
    exact quiescent_iff (isTopologicalOrder_of_getStartOrder placement isFound)
  refine ⟨answer, fun order isOrder => ?_⟩
  rw [Bool.eq_iff_iff, answer]
  exact quiescent_iff isOrder

def pairConfig (restart : RestartConfig) : KeplerConfig where
  services := (AList.singleton "db" { restart := .static restart }).insert "web"
    { dependsOn := [("db", { condition := .serviceHealthy })] }

/-- A position before the services that come earlier in the alphabet. -/
def descending : Kahn.Placement String where
  position queue name := (queue.takeWhile fun other => name < other).length
  inRange _ _ := (List.takeWhile_sublist _).length_le

def afterEnd (restart : RestartConfig) (status : ServiceStatus) : ServiceActor :=
  run step (create (pairConfig restart)
      (getStartOrder descending (pairConfig restart).services).toOption false fun _ => {})
    [.service 0 "db" (.setServiceStatus .running), .service 1 "web" (.setServiceStatus .waiting),
      .service 2 "db" (.recordProcessExit (some 0) none),
      .service 3 "db" (.setServiceStatus status)]

theorem settles_afterEnd : (afterEnd (.simple {}) .exited).Settles "web" :=
  (computeQuiescence_iff _ descending rfl
    ((isSome_getStartOrder_iff descending).mp (by decide +kernel)).1
    ((isSome_getStartOrder_iff descending).mp (by decide +kernel)).2).1.mp (by decide +kernel)
      "web" (by decide)

/-! ### Services that have all ended -/

/-- An ended service that is not failed or skipped counts as one that comes back if its policy
covers the exit code on record, although the policy never restarts a stopped service. -/
def isExpectedBack (actor : ServiceActor) (name : String) : Bool :=
  (actor.cells name).state.any fun state =>
    state.status != .skipped && actor.restartFollows name state.status state.exitCode

def hasEnded (actor : ServiceActor) (name : String) : Bool :=
  (actor.cells name).state.any fun state => !state.status.isActive

/-- Without cycles, ended services are settled exactly if every one that is expected back has a
dependency that keeps it from coming back. -/
theorem settles_iff_of_ended (defined : DependenciesDefined actor.config.services)
    (acyclic : Acyclic (dependencyNames actor.config.services))
    (ended : ∀ name ∈ actor.config.services.keys, actor.hasEnded name) :
    (∀ name ∈ actor.config.services.keys, actor.Settles name) ↔
      ∀ name ∈ actor.config.services.keys, actor.isExpectedBack name →
        actor.unsatisfied name ≠ [] := by
  have inactive : ∀ name ∈ actor.config.services.keys, ∃ state,
      (actor.cells name).state = some state ∧ state.status.isActive = false := by
    intro name member
    obtain ⟨state, found, inactive⟩ := (any_eq_true ..).mp (ended name member)
    exact ⟨state, found, (Bool.not_eq_true' _).mp inactive⟩
  constructor
  · intro settled name member expected
    obtain ⟨state, found, inactive⟩ := inactive name member
    rw [isExpectedBack, found, any_some, Bool.and_eq_true, bne_iff_ne] at expected
    rcases (settles_inactive_iff found inactive expected.1).mp (settled name member) with
      stays | ⟨dependency, blocks, _⟩
    · cases expected.2.symm.trans stays
    · exact List.ne_nil_of_mem blocks
  · -- A dependency that keeps a service from coming back is settled before the service.
    intro blocked
    refine acyclic.induction defined fun name member dependencies => ?_
    obtain ⟨state, found, inactive⟩ := inactive name member
    by_cases skipped : state.status = .skipped
    · exact .skipped (by rw [status_of_state found, skipped])
    · cases expected : actor.restartFollows name state.status state.exitCode with
      | false => exact .ended found inactive expected
      | true => ?_
      have isExpected : actor.isExpectedBack name := by
        rw [isExpectedBack, found, any_some, expected, Bool.and_true, bne_iff_ne]
        exact skipped
      obtain ⟨dependency, blocks⟩ := List.exists_mem_of_ne_nil _ (blocked name member isExpected)
      exact .unsatisfiable found inactive blocks
        (dependencies dependency.1 (mem_dependencyNames blocks))

/-- When all services have ended, they are quiescent exactly if the config has a start order and
every service that is expected back has a dependency that keeps it from coming back. -/
theorem computeQuiescence_iff_of_ended (actor : ServiceActor) (placement : Kahn.Placement String)
    (cached : actor.startOrder = (getStartOrder placement actor.config.services).toOption)
    (ended : ∀ name ∈ actor.config.services.keys, actor.hasEnded name) :
    actor.computeQuiescence ↔
      (DependenciesDefined actor.config.services ∧
        Acyclic (dependencyNames actor.config.services)) ∧
      ∀ name ∈ actor.config.services.keys, actor.isExpectedBack name →
        actor.unsatisfied name ≠ [] := by
  rw [computeQuiescence, cached, ← isSome_getStartOrder_iff placement]
  cases found : (getStartOrder placement actor.config.services).toOption with
  | none => exact iff_of_false Bool.false_ne_true fun both => nomatch both.1
  | some order => ?_
  obtain ⟨defined, acyclic⟩ := (isSome_getStartOrder_iff placement).mp
    (isSome_iff_exists.mpr ⟨order, found⟩)
  rw [any_some, quiescent_iff (isTopologicalOrder_of_getStartOrder placement found),
    settles_iff_of_ended defined acyclic ended]
  exact (and_iff_right rfl).symm

/-- The dependency was stopped by hand, and the other service was never started. -/
def afterStop (restart : RestartConfig) : ServiceActor :=
  run step (create (pairConfig restart)
      (getStartOrder descending (pairConfig restart).services).toOption false fun _ => {})
    [.service 0 "db" (.setServiceStatus .running), .service 1 "db" (.setServiceStatus .stopping),
      .service 2 "db" (.recordProcessExit none (some 15)),
      .service 3 "db" (.setServiceStatus .stopped)]

/-- Without a restart policy a stopped service is settled. -/
theorem quiescent_afterStop : (afterStop (.simple {})).computeQuiescence :=
  (computeQuiescence_iff_of_ended _ descending rfl (by decide +kernel)).mpr
    ⟨(isSome_getStartOrder_iff descending).mp (by decide +kernel), by decide +kernel⟩

/-- A policy that restarts the service after every exit does not restart it after a stop, but it
keeps the actor waiting for that. -/
theorem not_quiescent_afterStop :
    (∀ name ∈ ["web", "db"], (afterStop (.simple { flags := 3 })).status name = some .stopped) ∧
      (afterStop (.simple { flags := 3 })).computeQuiescence = false := by
  decide +kernel

end ServiceActor

end Kepler
