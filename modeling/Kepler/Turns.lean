/-
This file is about tasks on one service that take turns. A task that has begun has the turn until it
ends. Only a startup lets others go ahead: while it waits for its dependencies, while its config is
computed, and while its pre-start hook runs. The task that has the turn can rely on its custody.
-/

import Kepler.CustodyDrift

namespace Kepler

open Function Custody Option

/-! ### Taking turns -/

/-- A task that has not begun, or a startup that can be interrupted. -/
def RunningTask.GivesWay (task : RunningTask) : Prop :=
  task.fresh ∨ task.kind.role = .startup ∧ task.nextOperation.any Operation.isPause

instance (task : RunningTask) : Decidable task.GivesWay :=
  inferInstanceAs (Decidable (_ ∨ _))

def ServiceSystem.Aside.clearsConfigs : ServiceSystem.Aside → Bool
  | .config .clearResolvedConfigs => true
  | _ => false

namespace Custody

variable {strict : Bool} {answered others : Token → Prop} {view : ServiceView} {phase : Custody}
  {role : Role} {pending : Pending}

theorem Holds.release (holds : Holds strict answered view { role, pending })
    (more : ∀ token, answered token → others token)
    (mine : ∀ token, pending.Answers token → others token) :
    Holds strict others view { role := .other } :=
  ⟨holds.place, nofun, fun isStrict =>
    have tokens := holds.tokens isStrict
    ⟨tokens.accounted, fun covered token stored => (tokens.covered covered token stored).imp id
      fun answers => .inl (answers.elim (more token) (mine token)), nofun, nofun⟩⟩

theorem Holds.take (holds : Holds strict others view { role := .other })
    (divided : ∀ token, others token → answered token ∨ pending.Answers token) :
    Holds strict answered view { role, pending } :=
  ⟨holds.place, nofun, fun isStrict =>
    have tokens := holds.tokens isStrict
    ⟨tokens.accounted, fun covered token stored => (tokens.covered covered token stored).imp id
      fun answers => divided token (answers.resolve_right id), nofun, nofun⟩⟩

theorem Holds.finish (holds : phase.Holds strict answered view) (final : phase.Final strict) :
    Holds strict answered view { role := .other } := by
  refine ⟨?_, nofun, fun isStrict => ?_⟩
  · have placed := holds.place
    obtain rest | cleared := final.1
    · rw [rest] at placed
      exact placed
    · rw [cleared] at placed
      exact Place.rest_of_cleared placed
  · have tokens := holds.tokens isStrict
    obtain ⟨owned, nothing, clean⟩ := final.2 isStrict
    refine ⟨?_, fun _ token stored => ?_, nofun, nofun⟩
    · have accounted := tokens.accounted
      rw [owned] at accounted
      exact accounted
    · obtain covered | empty := clean
      · have looked := tokens.covered covered token stored
        rw [nothing] at looked
        exact looked
      · rw [holds.known none empty] at stored
        cases stored

theorem stand_after (operation : Operation) (reply : operation.Reply) :
    (phase.after operation reply).role = phase.role ∧
      ((phase.after operation reply).resolved → phase.resolved ∨ phase.role = .exit) := by
  have paused : phase.afterPause.role = phase.role ∧
      (phase.afterPause.resolved → phase.resolved ∨ phase.role = .exit) := by
    unfold afterPause
    split
    · exact ⟨rfl, nofun⟩
    · exact ⟨rfl, .inl⟩
  cases operation with
  | command command =>
    cases command with
    | getServiceContext | removeProcessHandle => cases reply <;> exact ⟨rfl, .inl⟩
    | storeResolvedConfig =>
      exact ⟨rfl, fun resolved => .inr (of_decide_eq_true resolved)⟩
    | _ =>
      first
        | exact ⟨rfl, .inl⟩
        | (change (if _ then _ else _ : Custody).role = _ ∧
             ((if _ then _ else _ : Custody).resolved = true → _)
           split <;> exact ⟨rfl, .inl⟩)
  | runHook hook =>
    cases hook with
    | preStart => exact paused
    | _ => exact ⟨rfl, .inl⟩
  | resolveService | awaitDependencies => exact paused
  | createToken | spawnProcess => cases reply <;> exact ⟨rfl, .inl⟩
  | _ => exact ⟨rfl, .inl⟩

end Custody

namespace ServiceSystem

/-- When a task on the service acts, all others on it give way. -/
def Serial (service : String) (system : ServiceSystem) : Event → Prop
  | .advance id _ => ∀ task ∈ system.tasks id, task.service = service →
      ∀ other < system.nextTask, other ≠ id → ∀ otherTask ∈ system.tasks other,
        otherTask.service = service → otherTask.GivesWay
  | _ => True

/-- What it takes so that no token is forgotten: the config that an exit handler needs can be
computed if the service has a token, computed configs are not cleared under an exit handler, and a
monitor that was told to shut its process down records the exit before there is a handle of a newer
process. -/
def Orderly (service : String) (system : ServiceSystem) : Event → Prop
  | .advance id choice => ∀ task ∈ system.tasks id, task.service = service →
      task.kind.role = .exit → task.nextOperation.any Operation.isResolve →
      choice.resolution.isOk ∨ (system.actor.cells service).tokenGuard = none
  | .aside input => input.clearsConfigs → ∀ id < system.nextTask, ∀ task ∈ system.tasks id,
      task.service = service → task.kind.role ≠ .exit
  | .kill _ other process _ _ => other = service →
      (system.runtime service).processes[process]? = some .told →
      (system.actor.cells service).process = none
  | _ => True

instance (service : String) (system : ServiceSystem) :
    (event : Event) → Decidable (system.Serial service event)
  | .advance id _ => inferInstanceAs (Decidable (∀ task ∈ system.tasks id, _))
  | .begin _ _ | .exit _ _ _ _ | .report _ _ | .kill _ _ _ _ _ | .deliver _ | .revokeDropped _
  | .aside _ => isTrue trivial

instance (service : String) (system : ServiceSystem) :
    (event : Event) → Decidable (system.Orderly service event)
  | .advance id _ => inferInstanceAs (Decidable (∀ task ∈ system.tasks id, _))
  | .aside _ => inferInstanceAs (Decidable (_ → _))
  | .kill _ _ _ _ _ => inferInstanceAs (Decidable (_ → _))
  | .begin _ _ | .exit _ _ _ _ | .report _ _ | .deliver _ | .revokeDropped _ => isTrue trivial

/-! ### The invariant -/

/-- The tokens that tasks without the turn are going to look after. -/
def Answered (system : ServiceSystem) (service : String) (pending : Nat → Pending)
    (turn : Option Nat) (token : Token) : Prop :=
  ∃ id task, system.Runs service id task ∧ turn ≠ some id ∧ (pending id).Answers token

/-- The tasks without the turn keep to the rules as ones that have nothing in their hands. -/
def OthersFollow (strict : Bool) (system : ServiceSystem) (service : String)
    (pending : Nat → Pending) (turn : Option Nat) : Prop :=
  ∀ id task, system.Runs service id task → turn ≠ some id →
    Custody.Follows strict (fun _ following => following.Final strict) task.program
      { role := task.kind.role, pending := pending id }

/-- One task has the turn, in a phase of custody that means what is the case. -/
structure HasTurn (strict : Bool) (system : ServiceSystem) (service : String)
    (pending : Nat → Pending) (id : Nat) (task : RunningTask) (phase : Custody) : Prop where
  runs : system.Runs service id task
  role : phase.role = task.kind.role
  resolved : phase.resolved → phase.role = .exit
  follows : Custody.Follows strict (fun _ following => following.Final strict) task.program phase
  holds : phase.Holds strict (system.Answered service pending (some id)) (system.view service)
  others : system.OthersFollow strict service pending (some id)

structure AtRest (strict : Bool) (system : ServiceSystem) (service : String)
    (pending : Nat → Pending) : Prop where
  holds : Custody.Holds strict (system.Answered service pending none) (system.view service)
    { role := .other }
  others : system.OthersFollow strict service pending none

structure TakesTurns (strict : Bool) (service : String) (system : ServiceSystem) : Prop where
  known : system.Knows service
  unused : ∀ id, system.nextTask ≤ id → system.tasks id = none
  turn : ∃ pending, system.AtRest strict service pending ∨
    ∃ id task phase, task.fresh = false ∧ system.HasTurn strict service pending id task phase

variable {strict : Bool} {system : ServiceSystem} {service : String} {pending : Nat → Pending}
  {id : Nat} {task : RunningTask} {phase : Custody} {operation : Operation}

/-! ### Passing the turn on -/

theorem follows_paused {next : operation.Reply → Lifecycle Unit} (pause : operation.isPause)
    (startup : phase.role = .startup)
    (follows : Custody.Ends strict (Program.perform operation next) phase) :
    phase.Pausable ∧ Custody.Ends strict (Program.perform operation next) phase.paused := by
  have pausable : phase.Pausable := by
    have allowed := follows.1
    cases operation with
    | runHook hook => cases hook <;> first | exact allowed startup | cases pause
    | _ => first | exact allowed startup | cases pause
  refine ⟨pausable, allows_pause pause ⟨⟨.inl rfl, rfl⟩, .inl rfl⟩, ?_⟩
  rintro reply following ⟨_, rfl⟩
  have expected : phase.Expects strict operation reply := by
    cases operation with
    | resolveService =>
      intro _ exit
      rw [startup] at exit
      cases exit
    | _ => first | exact trivial | cases pause
  have again : phase.paused.after operation reply = phase.after operation reply := by
    rw [after_pause pause, after_pause pause, afterPause,
      afterPause, if_pos startup, if_pos (show phase.paused.role = .startup from startup)]
    rfl
  rw [again]
  exact follows.2 reply _ ⟨expected, rfl⟩

theorem HasTurn.giveWay (hasTurn : system.HasTurn strict service pending id task phase)
    (begun : task.fresh = false) (givesWay : task.GivesWay) :
    system.AtRest strict service (Function.update pending id phase.owed) := by
  obtain fresh | ⟨startup, pauses⟩ := givesWay
  · rw [begun] at fresh
    cases fresh
  obtain ⟨operation, next, program, pause⟩ := RunningTask.of_any_nextOperation pauses
  have follows := hasTurn.follows
  rw [program] at follows
  obtain ⟨pausable, follows⟩ := follows_paused pause (hasTurn.role.trans startup) follows
  refine ⟨(hasTurn.holds.paused pausable).release ?_ ?_, ?_⟩
  · rintro token ⟨other, otherTask, runs, different, answers⟩
    refine ⟨other, otherTask, runs, nofun, ?_⟩
    rw [update_of_ne fun same => different (congrArg some same.symm)]
    exact answers
  · intro token answers
    refine ⟨id, task, hasTurn.runs, nofun, ?_⟩
    rw [update_self]
    exact answers
  · intro other otherTask runs _
    by_cases same : other = id
    · subst same
      rw [update_self, ← some.inj (hasTurn.runs.1.symm.trans runs.1),
        ← hasTurn.role, program]
      exact follows
    · rw [update_of_ne same]
      exact hasTurn.others other otherTask runs fun turn => same (some.inj turn).symm

theorem AtRest.take (atRest : system.AtRest strict service pending)
    (runs : system.Runs service id task) :
    system.HasTurn strict service pending id task
      { role := task.kind.role, pending := pending id } where
  runs
  role := rfl
  resolved := nofun
  follows := atRest.others id task runs nofun
  holds := atRest.holds.take fun token answers => by
    obtain ⟨other, otherTask, otherRuns, _, answers⟩ := answers
    by_cases same : other = id
    · exact .inr (same ▸ answers)
    · exact .inl ⟨other, otherTask, otherRuns, fun turn => same (some.inj turn).symm,
        answers⟩
  others := fun other otherTask otherRuns _ => atRest.others other otherTask otherRuns nofun

/-- When all others give way, a task can have the turn. -/
theorem TakesTurns.hasTurn (turns : TakesTurns strict service system)
    (runs : system.Runs service id task)
    (serial : ∀ other otherTask, other ≠ id → system.Runs service other otherTask →
      otherTask.GivesWay) :
    ∃ pending phase, system.HasTurn strict service pending id task phase := by
  obtain ⟨pending, atRest | ⟨other, otherTask, phase, begun, hasTurn⟩⟩ := turns.turn
  · exact ⟨pending, _, atRest.take runs⟩
  · by_cases same : other = id
    · subst same
      cases hasTurn.runs.1.symm.trans runs.1
      exact ⟨pending, phase, hasTurn⟩
    · exact ⟨_, _, (hasTurn.giveWay begun (serial other otherTask same hasTurn.runs)).take runs⟩

/-! ### Steps of tasks -/

variable {new : ServiceSystem} {choice : Choice}

section

variable (turns : TakesTurns strict service system) (known : new.Knows service)
  (unused : new.Unused)
  (keeps : ∀ (answered : Token → Prop) (phase : Custody),
    (phase.resolved → ∃ id task, system.Runs service id task ∧ task.kind.role = .exit) →
    phase.Holds strict answered (system.view service) →
    phase.Holds strict answered (new.view service))

include turns known unused keeps

/-- A change that does not concern the tasks on the service and makes no custody wrong. -/
theorem TakesTurns.changed
    (runs : ∀ id task, new.Runs service id task ↔ system.Runs service id task) :
    TakesTurns strict service new := by
  refine ⟨known, unused, ?_⟩
  have answers : ∀ pending turn token, system.Answered service pending turn token →
      new.Answered service pending turn token := by
    rintro pending turn token ⟨id, task, running, rest⟩
    exact ⟨id, task, (runs id task).mpr running, rest⟩
  have others : ∀ pending turn, system.OthersFollow strict service pending turn →
      new.OthersFollow strict service pending turn :=
    fun pending turn follow id task running => follow id task ((runs id task).mp running)
  obtain ⟨pending, atRest | ⟨id, task, phase, begun, hasTurn⟩⟩ := turns.turn
  · exact ⟨pending, .inl
      ⟨(keeps _ { role := .other } nofun atRest.holds).answers (answers pending none),
        others pending none atRest.others⟩⟩
  · have exit : phase.resolved → ∃ id task, system.Runs service id task ∧
        task.kind.role = .exit :=
      fun resolved => ⟨id, task, hasTurn.runs, hasTurn.role.symm.trans (hasTurn.resolved resolved)⟩
    exact ⟨pending, .inr ⟨id, task, phase, begun, (runs id task).mpr hasTurn.runs, hasTurn.role,
      hasTurn.resolved, hasTurn.follows, (keeps _ _ exit hasTurn.holds).answers
        (answers pending (some id)), others pending (some id) hasTurn.others⟩⟩

theorem TakesTurns.drifts (tasks : new.tasks = system.tasks) : TakesTurns strict service new :=
  turns.changed known unused keeps fun _ _ =>
    ⟨fun runs => runs.of_tasks tasks, fun runs => runs.of_tasks tasks.symm⟩

end

theorem TakesTurns.unnoticed (turns : TakesTurns strict service system)
    (frame : new.actor = system.actor ∧ new.tasks = system.tasks ∧
      new.nextTask = system.nextTask)
    (drifts : (system.view service).Drifts (new.view service)) : TakesTurns strict service new := by
  refine turns.drifts (turns.known.of_actor frame.1) (Unused.same turns.unused frame.2)
    (fun answered phase _ holds => holds.drifts drifts fun _ _ computed => ?_) frame.2.1
  change (new.actor.cells service).resolved.isSome
  rw [frame.1]
  exact computed

theorem HasTurn.answered {left : Option RunningTask}
    (tasks : new.tasks = Function.update system.tasks id left) {token : Token}
    (answered : system.Answered service pending (some id) token) (turn : Option Nat)
    (free : ∀ other, turn = some other → other = id) : new.Answered service pending turn token := by
  obtain ⟨other, otherTask, runs, different, answers⟩ := answered
  have ne : other ≠ id := fun same => different (congrArg some same.symm)
  exact ⟨other, otherTask, (runs_of_update tasks ne otherTask).mpr runs,
    fun same => ne (free other same), answers⟩

theorem atRest_of_ended (others : system.OthersFollow strict service pending (some id))
    (tasks : new.tasks = Function.update system.tasks id none)
    (holds : phase.Holds strict (system.Answered service pending (some id)) (new.view service))
    (final : phase.Final strict) : new.AtRest strict service pending := by
  refine ⟨(holds.finish final).answers fun token answered => ?_, ?_⟩
  · exact HasTurn.answered tasks answered none nofun
  · intro other otherTask runs _
    have different : other ≠ id := by
      rintro rfl
      have ended := runs.1
      rw [tasks, update_self] at ended
      cases ended
    exact others other otherTask ((runs_of_update tasks different otherTask).mp runs)
      fun same => different (some.inj same).symm

theorem HasTurn.perform (hasTurn : system.HasTurn strict service pending id task phase)
    (known : system.Knows service) {next : operation.Reply → Lifecycle Unit}
    (program : task.program = Program.perform operation next)
    (computes : strict → phase.role = .exit → operation = .resolveService →
      choice.resolution.isOk ∨ (system.actor.cells service).tokenGuard = none) :
    (system.advance id choice).AtRest strict service pending ∨
      ∃ left following, left.fresh = false ∧
        (system.advance id choice).HasTurn strict service pending id left following := by
  have follows := hasTurn.follows
  rw [program] at follows
  obtain ⟨expected, holds⟩ := hasTurn.holds.perform known follows.1 computes
  have goesOn := follows.2 _ _ ⟨expected, rfl⟩
  rw [advance_of_perform hasTurn.runs.1 program, hasTurn.runs.2]
  generalize system.perform service choice operation = performed at holds goesOn ⊢
  cases rest : next performed.2 with
  | done | fail =>
    rw [rest] at goesOn
    exact .inl (atRest_of_ended hasTurn.others rfl holds goesOn)
  | perform second afterwards =>
    rw [rest] at goesOn
    have stand := @Custody.stand_after phase operation performed.2
    exact .inr ⟨{ task with program := Program.perform second afterwards, fresh := false },
      phase.after operation performed.2, rfl,
      { runs := ⟨update_self .., hasTurn.runs.2⟩
        role := stand.1.trans hasTurn.role
        resolved := fun resolved => stand.1.trans
          ((stand.2 resolved).elim hasTurn.resolved fun exit => exit)
        follows := goesOn
        holds := holds.answers fun token answered => HasTurn.answered rfl answered (some id)
          fun other same => (some.inj same).symm
        others := fun other otherTask runs different => by
          have ne : other ≠ id := fun same => different (congrArg some same.symm)
          exact hasTurn.others other otherTask ((runs_of_update rfl ne otherTask).mp runs)
            different }⟩

section

variable (turns : TakesTurns strict service system)

include turns

theorem TakesTurns.hasTurn_of_serial (runs : system.Runs service id task)
    (serial : system.Serial service (.advance id choice)) :
    ∃ pending phase, system.HasTurn strict service pending id task phase :=
  turns.hasTurn runs fun other otherTask different otherRuns =>
    serial task runs.1 runs.2 other (lt_nextTask turns.unused otherRuns.1) different otherTask
      otherRuns.1 otherRuns.2

theorem TakesTurns.advance_self (runs : system.Runs service id task)
    (serial : system.Serial service (.advance id choice))
    (orderly : strict → system.Orderly service (.advance id choice)) :
    ∃ pending, (system.advance id choice).AtRest strict service pending ∨
      ∃ other otherTask phase, otherTask.fresh = false ∧
        (system.advance id choice).HasTurn strict service pending other otherTask phase := by
  obtain ⟨pending, phase, hasTurn⟩ := turns.hasTurn_of_serial runs serial
  have follows := hasTurn.follows
  cases program : task.program with
  | done | fail =>
    rw [program] at follows
    rw [advance_of_ended runs.1 program rfl]
    exact ⟨pending, .inl (atRest_of_ended hasTurn.others rfl hasTurn.holds follows)⟩
  | perform operation next =>
    have computes : strict → phase.role = .exit → operation = .resolveService →
        choice.resolution.isOk ∨ (system.actor.cells service).tokenGuard = none := by
      intro isStrict exit same
      subst same
      exact orderly isStrict task runs.1 runs.2 (hasTurn.role.symm.trans exit)
        (RunningTask.any_nextOperation program rfl)
    obtain atRest | ⟨left, following, begun, goesOn⟩ :=
      hasTurn.perform turns.known program computes
    · exact ⟨pending, .inl atRest⟩
    · exact ⟨pending, .inr ⟨id, left, following, begun, goesOn⟩⟩

theorem TakesTurns.advance (serial : system.Serial service (.advance id choice))
    (orderly : strict → system.Orderly service (.advance id choice)) :
    TakesTurns strict service (system.advance id choice) := by
  cases found : system.tasks id with
  | none =>
    rw [show system.advance id choice = system by simp only [ServiceSystem.advance, found]]
    exact turns
  | some task =>
    obtain ⟨new, left, same, worked, kept⟩ := advance_cases found choice
    have known := turns.known.event (.advance id choice)
    have unused := unused_step turns.unused (.advance id choice)
    by_cases here : task.service = service
    · exact ⟨known, unused, turns.advance_self ⟨found, here⟩ serial orderly⟩
    · rw [step, same] at known unused
      rw [same]
      refine turns.changed known unused ?_ ?_
      · intro answered phase _ holds
        obtain rfl | ⟨operation, rfl⟩ := worked
        · exact holds
        · refine holds.drifts (drifts_perform (Ne.symm here) choice operation) fun _ _ => ?_
          change _ → ((system.perform _ choice operation).1.actor.cells service).resolved.isSome
          rw [cells_perform_of_ne (Ne.symm here)]
          exact fun computed => computed
      · intro other otherTask
        by_cases acts : other = id
        · subst acts
          refine ⟨fun runs => ?_, fun runs => ?_⟩
          · have goesOn := (update_self ..).symm.trans runs.1
            exact absurd ((kept otherTask goesOn).1.symm.trans runs.2) here
          · cases found.symm.trans runs.1
            exact absurd runs.2 here
        · exact runs_of_update rfl acts otherTask

/-! ### New tasks -/

theorem TakesTurns.spawned (known : new.Knows service)
    (unused : new.Unused)
    (tasks : new.tasks = Function.update system.tasks system.nextTask (some task))
    (follows : Custody.Ends strict task.program (Custody.begun task.kind))
    (keeps : ∀ (answered others : Token → Prop) (phase : Custody),
      (∀ token, answered token → others token) →
      (task.service = service → ∀ token, (Custody.begun task.kind).pending.Answers token →
        others token) →
      phase.Holds strict answered (system.view service) →
      phase.Holds strict others (new.view service)) : TakesTurns strict service new := by
  have older : ∀ id otherTask, system.Runs service id otherTask → id ≠ system.nextTask := by
    rintro id otherTask runs rfl
    have free := turns.unused _ (Nat.le_refl _)
    rw [runs.1] at free
    cases free
  have answers : ∀ pending turn token, system.Answered service pending turn token →
      new.Answered service
        (update pending system.nextTask (begun task.kind).pending) turn token := by
    rintro pending turn token ⟨id, otherTask, runs, different, answers⟩
    have ne := older id otherTask runs
    refine ⟨id, otherTask, (runs_of_update tasks ne otherTask).mpr runs, different, ?_⟩
    rw [update_of_ne ne]
    exact answers
  have mine : ∀ pending turn, turn ≠ some system.nextTask → task.service = service →
      ∀ token, (begun task.kind).pending.Answers token → new.Answered service
        (update pending system.nextTask (begun task.kind).pending) turn token := by
    intro pending turn different here token answers
    refine ⟨system.nextTask, task, ⟨?_, here⟩, different, ?_⟩
    · rw [tasks, update_self]
    · rw [update_self]
      exact answers
  have others : ∀ pending turn, system.OthersFollow strict service pending turn →
      new.OthersFollow strict service
        (update pending system.nextTask (begun task.kind).pending) turn := by
    intro pending turn follow id otherTask runs different
    by_cases newest : id = system.nextTask
    · subst newest
      have same := runs.1
      rw [tasks, update_self] at same
      cases same
      rw [update_self]
      exact follows
    · rw [update_of_ne newest]
      exact follow id otherTask ((runs_of_update tasks newest otherTask).mp runs) different
  obtain ⟨pending, atRest | ⟨id, otherTask, phase, begun, hasTurn⟩⟩ := turns.turn
  · exact ⟨known, unused, _, .inl ⟨keeps _ _ _ (answers pending none) (mine pending none nofun)
      atRest.holds, others pending none atRest.others⟩⟩
  · have ne := older id otherTask hasTurn.runs
    have different : some id ≠ some system.nextTask := fun same => ne (some.inj same)
    exact ⟨known, unused, _, .inr ⟨id, otherTask, phase, begun,
      (runs_of_update tasks ne otherTask).mpr hasTurn.runs, hasTurn.role, hasTurn.resolved,
      hasTurn.follows, keeps _ _ _ (answers pending (some id)) (mine pending (some id) different)
        hasTurn.holds, others pending (some id) hasTurn.others⟩⟩

theorem TakesTurns.begin (other : String) (request : ServiceRequest) :
    TakesTurns strict service (system.step (.begin other request)) := by
  change TakesTurns strict service (if _ then _ else _)
  split
  · refine turns.spawned (turns.known.of_actor rfl) (unused_spawnTask turns.unused _) rfl
      (follows_program ..) ?_
    intro answered others phase more _ holds
    exact holds.answers more
  · exact turns

theorem TakesTurns.deliver (other : String) :
    TakesTurns strict service (system.deliverExit other) := by
  unfold deliverExit
  split
  · exact turns
  · next exit rest found =>
    refine turns.spawned (turns.known.of_actor rfl) (unused_spawnTask turns.unused _) rfl
      (follows_handleExit other exit.exitCode exit.signal) ?_
    intro answered others phase more mine holds
    change phase.Holds strict others
      ((system.withRuntime other fun runtime => { runtime with exits := rest }).view service)
    by_cases here : service = other
    · subst here
      -- The new task looks after all tokens, so that the report is no longer needed.
      rw [view_withRuntime_self]
      exact ⟨holds.place.fewer (fun _ live => live) rfl rfl rfl, holds.known, fun isStrict =>
        ⟨(holds.tokens isStrict).accounted,
          fun _ token _ => .inr (.inl (mine rfl token trivial)),
          fun _ _ token => .inr (mine rfl token trivial), (holds.tokens isStrict).resolved⟩⟩
    · rw [view_withRuntime_of_ne here]
      exact holds.answers more

/-! ### Runs -/

theorem takesTurns_step (event : Event) (serial : system.Serial service event)
    (orderly : strict → system.Orderly service event) :
    TakesTurns strict service (system.step event) := by
  have known := turns.known.event event
  have unused := unused_step turns.unused event
  cases event with
  | begin => exact turns.begin ..
  | advance => exact turns.advance serial orderly
  | deliver other => exact turns.deliver other
  | exit => exact turns.unnoticed (frame_exitProcess ..) (drifts_exitProcess ..)
  | report => exact turns.unnoticed (frame_reportExit ..) (drifts_reportExit _)
  | revokeDropped => exact turns.unnoticed (frame_revokeFirstDropped ..) drifts_revokeFirstDropped
  | kill now other process exitCode signal =>
    have tasks := (tasks_killTold system now other process exitCode signal).1
    refine turns.drifts known unused (fun answered phase _ holds => ?_) tasks
    by_cases here : service = other
    · subst here
      exact holds.killTold now process exitCode signal fun isStrict => orderly isStrict rfl
    · change phase.Holds strict answered
        ((system.killTold ..).view service)
      rw [view_killTold_of_ne here]
      exact holds
  | aside input =>
    refine turns.drifts known unused (fun answered phase exit holds => ?_) rfl
    refine holds.drifts (drifts_aside input) fun isStrict done computed => ?_
    have kept : input ≠ .config .clearResolvedConfigs := by
      rintro rfl
      obtain ⟨id, task, runs, handles⟩ := exit done
      exact orderly isStrict rfl id (lt_nextTask turns.unused runs.1) task runs.1 runs.2 handles
    have same : (system.actor.cells service).SameButHealth
        ((system.actor.step input.input).cells service) := sameButHealth_aside kept
    change ((system.actor.step input.input).cells service).resolved.isSome
    rw [same.resolved]
    exact computed

end

theorem takesTurns_create (configPath : String) {config : KeplerConfig}
    (startOrder : Option (List String)) (initialized : Bool) (restored : String → ServiceState)
    (member : service ∈ config.services) :
    TakesTurns strict service (create configPath config startOrder initialized restored) where
  known := knows_create configPath startOrder initialized restored member
  unused := fun _ _ => rfl
  turn := ⟨fun _ => .nothing, .inl
    { holds := ⟨⟨nofun, fun _ => rfl⟩, nofun, fun _ => ⟨nofun, nofun, nofun, nofun⟩⟩
      others := fun _ _ runs => nomatch runs.1 }⟩

end ServiceSystem

end Kepler
