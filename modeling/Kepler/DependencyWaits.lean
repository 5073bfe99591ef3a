/-
This file is about a task that waits for the dependencies of a service before it starts it
(`wait_for_dependencies`), while the actor carries out commands of others.

The task asks the actor one question after another, and when nothing speaks for an end of the wait
it blocks until one of its two channels has a message. The channels get a message with every status
change, and they are opened before the first question.

The exit code of a process is recorded without a message. When that happens to a dependency that has
ended already, the task may block although there is nothing left to wait for.
-/

import Kepler.DependencyChecks
import Kepler.StatusSignals

namespace Kepler

open Runs ServiceActor Program DependencyWait ServiceStatus

/-! ### What a check looks at -/

/-- The statuses in which conditions look at the exit code. -/
def ServiceStatus.hasEnded : ServiceStatus → Bool
  | .stopped | .exited | .failed | .killed => true
  | _ => false

/-- The states look alike to a check: the exit code counts only after the end. -/
structure ServiceState.LooksLike (state other : ServiceState) : Prop where
  status : state.status = other.status
  wasHealthy : state.wasHealthy = other.wasHealthy
  exitCode : state.status.hasEnded → state.exitCode = other.exitCode

namespace DependencyWait

def Similar (startup : ServiceStartup) : (query : WaitQuery) → query.Reply → query.Reply → Prop
  | .serviceStartup => fun reply other => reply = some startup ↔ other = some startup
  | .dependencyState => Option.Rel ServiceState.LooksLike

/-- The check comes to the same end for answers that look alike. -/
abbrev Steady (startup : ServiceStartup) {Result : Type} (program : DependencyWait Result) : Prop :=
  Program.Alike (Similar startup) program program

variable {startup : ServiceStartup} {state other : ServiceState}

theorem isConditionMet_of_looksLike (alike : state.LooksLike other) (entry : DependencyConfig) :
    isConditionMet state entry none = isConditionMet other entry none := by
  unfold isConditionMet DependencyConfig.holdsIn
  rw [alike.status, alike.wasHealthy]
  cases ended : other.status.hasEnded with
  | true => rw [alike.exitCode (by rw [alike.status, ended])]; rfl
  | false => cases status : other.status <;> simp_all [ServiceStatus.hasEnded]

theorem isTransientSatisfaction_of_looksLike (alike : state.LooksLike other)
    (restart : RestartConfig) :
    isTransientSatisfaction state restart = isTransientSatisfaction other restart := by
  rw [isTransientSatisfaction_eq, isTransientSatisfaction_eq, alike.status]
  cases exited : other.status.isExit with
  | false => rfl
  | true =>
    rw [alike.exitCode (by rw [alike.status]; cases status : other.status <;> simp_all
      [ServiceStatus.hasEnded, isExit])]

theorem similar_refl (query : WaitQuery) (reply : query.Reply) :
    Similar startup query reply reply := by
  cases query with
  | serviceStartup => exact Iff.rfl
  | dependencyState =>
    cases reply with
    | none => exact .none
    | some state => exact .some ⟨rfl, rfl, fun _ => rfl⟩

theorem any_of_similar {reply reply' : Option ServiceState} {test : ServiceState → Bool}
    (same : Option.Rel ServiceState.LooksLike reply reply')
    (agrees : ∀ {state other}, ServiceState.LooksLike state other → test state = test other) :
    reply.any test = reply'.any test := by
  cases same with
  | none => rfl
  | some alike => exact agrees alike

section

variable (config : KeplerConfig) (service name : String) (entry : DependencyConfig)

theorem steady_ensureServiceStartup : Steady startup (ensureServiceStartup service startup) := by
  refine alike_call_bind fun reply other same => ?_
  by_cases valid : reply = some startup
  · rw [if_pos valid, if_pos (same.mp valid)]
    exact .done ()
  · rw [if_neg valid, if_neg fun valid' => valid (same.mpr valid')]
    exact .fail _ _

theorem steady_checkDependencySatisfied : Steady startup (checkDependencySatisfied entry) := by
  refine alike_call_bind fun reply other same => ?_
  rw [any_of_similar same fun alike => isConditionMet_of_looksLike alike entry]
  exact .done _

theorem steady_isTransient : Steady startup (isTransient config name) := by
  unfold isTransient
  cases writtenRestart config name with
  | none => exact .done false
  | some restart =>
    refine alike_call_bind fun reply other same => ?_
    rw [any_of_similar same fun alike => isTransientSatisfaction_of_looksLike alike restart]
    exact .done _

theorem steady_ensureNotSkipped : Steady startup (ensureNotSkipped service name entry) := by
  refine alike_call_bind fun reply other same => ?_
  rw [any_of_similar same fun alike => by rw [alike.status]]
  split
  · exact .fail _ _
  · exact .done ()

theorem steady_isDependencyPermanentlyUnsatisfied (restart : RestartConfig) :
    Steady startup (isDependencyPermanentlyUnsatisfied entry restart) := by
  refine alike_call_bind fun reply other same => ?_
  cases same with
  | none => exact .done false
  | some alike => ?_
  rename_i state other
  obtain ⟨status, _, exitCode⟩ := alike
  dsimp only
  rw [status] at exitCode ⊢
  cases ended : other.status with
  | skipped => exact .done _
  | stopped | exited | failed | killed =>
    rw [exitCode (by rw [ended]; rfl)]
    exact (steady_checkDependencySatisfied entry).bind fun _ => .done _
  | _ => exact .done false

theorem steady_ensureNotAtRest : Steady startup (ensureNotAtRest config service name entry) := by
  unfold ensureNotAtRest
  cases writtenRestart config name with
  | none => exact .done ()
  | some =>
    refine (steady_isDependencyPermanentlyUnsatisfied ..).bind fun unsatisfied => ?_
    cases unsatisfied with
    | true => exact alike_call_bind fun _ _ _ => .fail _ _
    | false => exact .done ()

theorem steady_ensureReachable : Steady startup (ensureReachable config service name entry) := by
  unfold ensureReachable
  cases writtenRestart config name with
  | none => exact .done ()
  | some restart => ?_
  refine alike_call_bind fun reply other same => ?_
  rw [any_of_similar same fun alike => by rw [alike.status]]
  split
  · cases isConditionUnreachableByPolicy name entry.condition restart.policy with
    | none => exact .done ()
    | some reason => exact .fail _ _
  · exact .done ()

theorem steady_checkDependency :
    Steady startup (checkDependency config service startup name entry) := by
  refine (steady_ensureServiceStartup service).bind fun _ => ?_
  refine (steady_checkDependencySatisfied entry).bind fun satisfied => ?_
  cases satisfied with
  | true =>
    refine (steady_isTransient ..).bind fun transient => ?_
    cases transient with
    | true => exact (steady_ensureServiceStartup service).bind fun _ => .done false
    | false => exact .done true
  | false =>
    refine (steady_ensureNotSkipped ..).bind fun _ => ?_
    refine (steady_ensureNotAtRest ..).bind fun _ => ?_
    refine (steady_ensureReachable ..).bind fun _ => ?_
    exact (steady_ensureServiceStartup service).bind fun _ => .done false

end

end DependencyWait

/-! ### The waiting task -/

inductive WaitProgress where
  | checking (program : DependencyWait Bool)
  | blocked

/-- Where a task is: the dependency that it waits for, those after it, and the number of unread
messages about it, or the end of the wait. -/
inductive WaitPlace where
  | waiting (name : String) (entry : DependencyConfig) (rest : DependsOn) (unread : Nat)
      (progress : WaitProgress)
  | finished (result : Except OrchestratorError Unit)

/-- The actor, and a task that waits for the dependencies of a service. The messages about the
service are counted too. -/
structure DependencyWaiter where
  actor : ServiceActor
  service : String
  startup : ServiceStartup
  unread : Nat := 0
  place : WaitPlace

/-- The actor takes an input, the task asks its next question or draws its conclusion, it receives a
message about the dependency or the service, its time is up, or the channels are closed. -/
inductive WaitEvent where
  | actor (input : ServiceActor.Input)
  | check
  | receiveDependency
  | receiveService
  | deadline
  | closed

def ServiceActor.messagesAbout (actor : ServiceActor) (input : ServiceActor.Input)
    (name : String) : Nat :=
  (actor.effects input).countP fun effect => match effect with
    | .notified (.statusChange changed _) => changed = name
    | _ => false

namespace DependencyWaiter

variable (waiter : DependencyWaiter)

def start (name : String) (entry : DependencyConfig) : DependencyWait Bool :=
  DependencyWait.checkDependency waiter.actor.config waiter.service waiter.startup name entry

def enter : DependsOn → WaitPlace
  | [] => .finished (.ok ())
  | (name, entry) :: rest => .waiting name entry rest 0 (.checking (waiter.start name entry))

def check (name : String) (entry : DependencyConfig) (rest : DependsOn) (unread : Nat) :
    DependencyWait Bool → WaitPlace
  | .perform query next =>
    .waiting name entry rest unread
      (.checking (next (waiter.actor.answer waiter.service name query)))
  | .done true => waiter.enter rest
  | .done false => .waiting name entry rest unread .blocked
  | .fail error => .finished (.error error)

def step : WaitEvent → DependencyWaiter
  | .actor input =>
    { waiter with
      actor := waiter.actor.step input
      unread := waiter.unread + waiter.actor.messagesAbout input waiter.service
      place := match waiter.place with
        | .waiting name entry rest unread progress =>
          .waiting name entry rest (unread + waiter.actor.messagesAbout input name) progress
        | .finished result => .finished result }
  | .check => match waiter.place with
    | .waiting name entry rest unread (.checking program) =>
      { waiter with place := waiter.check name entry rest unread program }
    | _ => waiter
  | .receiveDependency => match waiter.place with
    | .waiting name entry rest (unread + 1) .blocked =>
      { waiter with place := .waiting name entry rest unread (.checking (waiter.start name entry)) }
    | _ => waiter
  | .receiveService => match waiter.place, waiter.unread with
    | .waiting name entry rest unread .blocked, message + 1 =>
      { waiter with
        unread := message
        place := .waiting name entry rest unread (.checking (waiter.start name entry)) }
    | _, _ => waiter
  | .deadline => match waiter.place with
    | .waiting name entry _ _ .blocked =>
      if entry.timeout.isSome then
        { waiter with
          place := .finished (.error (.dependencyTimeout waiter.service name entry.condition)) }
      else waiter
    | _ => waiter
  | .closed => match waiter.place with
    | .waiting _ _ _ _ .blocked =>
      { waiter with place := .finished (.error (.startupCancelled waiter.service)) }
    | _ => waiter

def begin (actor : ServiceActor) (service : String) (startup : ServiceStartup)
    (dependsOn : DependsOn) : DependencyWaiter :=
  let waiter : DependencyWaiter :=
    { actor, service, startup, place := .finished (.ok ()) }
  { waiter with place := waiter.enter dependsOn }

/-! ### Changes without a message -/

/-- No new exit code is recorded for a dependency that has ended. -/
def keepsExitCode : WaitEvent → Bool
  | .actor (.service _ target (.recordProcessExit exitCode _)) => match waiter.place with
    | .waiting name _ _ _ _ => target ≠ name || (waiter.actor.cells name).state.all fun state =>
        !state.status.hasEnded || state.exitCode = exitCode
    | .finished _ => true
  | _ => true

end DependencyWaiter

namespace ServiceActor

variable {actor : ServiceActor} {input : Input} {name : String}

theorem signalTo_eq_none_of_messagesAbout (silent : actor.messagesAbout input name = 0) :
    actor.signalTo input name = none := by
  have unannounced : ∀ status, .notified (.statusChange name status) ∉ actor.effects input := by
    intro status member
    exact List.countP_eq_zero.mp silent _ member (decide_eq_true rfl)
  cases told : actor.signalTo input name with
  | none => rfl
  | some signal => ?_
  cases signal with
  | entered status =>
    exact absurd (statusChange_mem_effects_iff.mpr (.inl told)) (unannounced status)
  | health status =>
    exact absurd (statusChange_mem_effects_iff.mpr (.inr told)) (unannounced status)

theorem looksLike_of_observed {state other : Option ServiceState}
    (same : other.map ServiceState.observed = state.map ServiceState.observed) :
    Option.Rel ServiceState.LooksLike state other := by
  cases state with
  | none =>
    rw [Option.map_eq_none_iff.mp same]
    exact .none
  | some state =>
    obtain ⟨other, rfl, observed⟩ := Option.map_eq_some_iff.mp same
    simp only [ServiceState.observed, Prod.mk.injEq] at observed
    exact .some ⟨observed.1.symm, observed.2.2.symm, fun _ => observed.2.1.symm⟩

end ServiceActor

namespace DependencyWaiter

variable {waiter : DependencyWaiter} {input : ServiceActor.Input} {name : String}
  {entry : DependencyConfig} {rest : DependsOn} {unread : Nat} {progress : WaitProgress}

theorem looksLike_of_silent (place : waiter.place = .waiting name entry rest unread progress)
    (keeps : waiter.keepsExitCode (.actor input))
    (silent : waiter.actor.signalTo input name = none) :
    Option.Rel ServiceState.LooksLike (waiter.actor.cells name).state
      ((waiter.actor.step input).cells name).state := by
  rcases (observed_of_silent silent).1 with
    ⟨now, exitCode, signal, rfl, becomes⟩ | same
  · rw [becomes]
    rw [keepsExitCode, place] at keeps
    cases known : (waiter.actor.cells name).state with
    | none => exact .none
    | some state =>
      refine .some ⟨rfl, rfl, fun ended => ?_⟩
      simpa [known, ended] using keeps
  · exact looksLike_of_observed same

/-! ### No message is missed -/

/-- The check of the task is about the present states: it is at its beginning or has failed, or the
claim is valid, and the rest of the check on these states lets the task block only if a new check
does. -/
def IsCurrent (waiter : DependencyWaiter) (name : String) (entry : DependencyConfig) :
    WaitProgress → Prop
  | .blocked => waiter.actor.judge waiter.service waiter.startup name entry = .ok false
  | .checking program => program = waiter.start name entry ∨ (∃ error, program = .fail error) ∨
      (waiter.actor.cells waiter.service).serviceStartup = some waiter.startup ∧
        DependencyWait.Steady waiter.startup program ∧
        (program.evaluate (waiter.actor.answer waiter.service name) = .ok false →
          waiter.actor.judge waiter.service waiter.startup name entry = .ok false)

/-- Without an unread message the task is up to date. -/
def UpToDate (waiter : DependencyWaiter) : Prop :=
  match waiter.place with
  | .waiting name entry _ unread progress =>
    waiter.unread = 0 → unread = 0 → waiter.IsCurrent name entry progress
  | .finished _ => True

theorem start_eq (waiter : DependencyWaiter) (name : String) (entry : DependencyConfig) :
    ∃ next, waiter.start name entry = .perform .serviceStartup next ∧
      ∀ reply, reply ≠ some waiter.startup →
        next reply = .fail (.startupCancelled waiter.service) := by
  refine ⟨_, rfl, fun reply invalid => ?_⟩
  change andThen (if reply = some waiter.startup then pure () else _) _ = _
  rw [if_neg invalid]
  rfl

theorem isCurrent_next {query : WaitQuery} {next : query.Reply → DependencyWait Bool}
    (current : waiter.IsCurrent name entry (.checking (.perform query next))) :
    waiter.IsCurrent name entry
      (.checking (next (waiter.actor.answer waiter.service name query))) := by
  obtain begins | ⟨error, failed⟩ | ⟨valid, steady, agrees⟩ := current
  · by_cases valid : (waiter.actor.cells waiter.service).serviceStartup = some waiter.startup
    · have judged : (perform query next).evaluate
          (waiter.actor.answer waiter.service name) =
            waiter.actor.judge waiter.service waiter.startup name entry := by
        rw [begins]
        rfl
      have steady : DependencyWait.Steady waiter.startup (perform query next) := by
        rw [begins]
        exact steady_checkDependency ..
      exact .inr (.inr ⟨valid, steady.next (similar_refl ..),
        fun blocks => judged.symm.trans blocks⟩)
    · obtain ⟨first, opened, cancels⟩ := start_eq waiter name entry
      rw [opened] at begins
      cases begins
      exact .inr (.inl ⟨_, cancels _ valid⟩)
  · cases failed
  · exact .inr (.inr ⟨valid, steady.next (similar_refl ..), agrees⟩)

theorem upToDate_enter (waiter : DependencyWaiter) (dependsOn : DependsOn) :
    ({ waiter with place := waiter.enter dependsOn } : DependencyWaiter).UpToDate := by
  cases dependsOn with
  | nil => exact trivial
  | cons => exact fun _ _ => .inl rfl

theorem upToDate_check {program : DependencyWait Bool}
    (place : waiter.place = .waiting name entry rest unread (.checking program))
    (upToDate : waiter.UpToDate) :
    ({ waiter with place := waiter.check name entry rest unread program } :
      DependencyWaiter).UpToDate := by
  rw [UpToDate, place] at upToDate
  cases program with
  | perform => exact fun mine theirs => isCurrent_next (upToDate mine theirs)
  | fail error => exact trivial
  | done result => ?_
  cases result with
  | true => exact upToDate_enter ..
  | false => ?_
  intro mine theirs
  obtain begins | ⟨error, failed⟩ | ⟨_, _, agrees⟩ := upToDate mine theirs
  · obtain ⟨first, opened, _⟩ := start_eq waiter name entry
    cases begins.trans opened
  · cases failed
  · exact agrees rfl

theorem valid_of_judge
    (blocks : waiter.actor.judge waiter.service waiter.startup name entry = .ok false) :
    (waiter.actor.cells waiter.service).serviceStartup = some waiter.startup := by
  by_contra invalid
  cases (judge_of_invalid invalid).symm.trans blocks

theorem similar_of_silent (place : waiter.place = .waiting name entry rest unread progress)
    (keeps : waiter.keepsExitCode (.actor input))
    (mine : waiter.actor.messagesAbout input waiter.service = 0)
    (theirs : waiter.actor.messagesAbout input name = 0)
    (valid : (waiter.actor.cells waiter.service).serviceStartup = some waiter.startup)
    (query : WaitQuery) :
    DependencyWait.Similar waiter.startup query (waiter.actor.answer waiter.service name query)
      ((waiter.actor.step input).answer waiter.service name query) := by
  cases query with
  | serviceStartup =>
    exact iff_of_true valid (serviceStartup_of_silent
      (signalTo_eq_none_of_messagesAbout mine) valid)
  | dependencyState =>
    exact looksLike_of_silent place keeps (signalTo_eq_none_of_messagesAbout theirs)

theorem isCurrent_step (place : waiter.place = .waiting name entry rest unread progress)
    (keeps : waiter.keepsExitCode (.actor input))
    (mine : waiter.actor.messagesAbout input waiter.service = 0)
    (theirs : waiter.actor.messagesAbout input name = 0)
    (current : waiter.IsCurrent name entry progress) :
    (waiter.step (.actor input)).IsCurrent name entry progress := by
  have similar := similar_of_silent place keeps mine theirs
  have restart : (waiter.step (.actor input)).start name entry = waiter.start name entry :=
    congrArg (fun config => checkDependency config waiter.service waiter.startup
      name entry) (config_step input)
  -- A new check before the input and one after it let the task block alike.
  have judged (blocks : waiter.actor.judge waiter.service waiter.startup name entry = .ok false) :
      (waiter.actor.step input).judge waiter.service waiter.startup name entry = .ok false := by
    have valid := valid_of_judge blocks
    have steady := @DependencyWait.steady_checkDependency waiter.startup waiter.actor.config
      waiter.service name entry
    rw [ServiceActor.judge, config_step]
    exact (steady.evaluate_eq_ok_iff (similar valid) false).mp blocks
  cases progress with
  | blocked => exact judged current
  | checking => ?_
  obtain begins | failed | ⟨valid, steady, agrees⟩ := current
  · exact .inl (begins.trans restart.symm)
  · exact .inr (.inl failed)
  · refine .inr (.inr ⟨?_, steady, fun blocks => ?_⟩)
    · exact serviceStartup_of_silent
        (signalTo_eq_none_of_messagesAbout mine) valid
    · exact judged (agrees ((steady.evaluate_eq_ok_iff (similar valid) false).mpr blocks))

theorem upToDate_step (upToDate : waiter.UpToDate) (event : WaitEvent)
    (keeps : waiter.keepsExitCode event) : (waiter.step event).UpToDate := by
  cases event with
  | actor input =>
    cases place : waiter.place with
    | finished result =>
      rw [UpToDate, step, place]
      exact trivial
    | waiting name entry rest unread progress =>
      have current := upToDate
      rw [UpToDate, place] at current
      have moved : (waiter.step (.actor input)).place =
          .waiting name entry rest (unread + waiter.actor.messagesAbout input name) progress := by
        rw [step, place]
      rw [UpToDate, moved]
      intro mine theirs
      obtain ⟨noneBefore, mine⟩ := Nat.add_eq_zero_iff.mp mine
      obtain ⟨noneThere, theirs⟩ := Nat.add_eq_zero_iff.mp theirs
      exact isCurrent_step place keeps mine theirs (current noneBefore noneThere)
  | check =>
    unfold step
    dsimp only
    split
    · rename_i place
      exact upToDate_check place upToDate
    · exact upToDate
  | receiveDependency | receiveService =>
    unfold step
    dsimp only
    split
    · exact fun _ _ => .inl rfl
    · exact upToDate
  | deadline =>
    unfold step
    dsimp only
    split
    · split
      · exact trivial
      · exact upToDate
    · exact upToDate
  | closed =>
    unfold step
    dsimp only
    split
    · exact trivial
    · exact upToDate

/-- A task that is blocked without an unread message would block again. -/
def BlocksAgain (waiter : DependencyWaiter) : Prop :=
  ∀ name entry rest, waiter.place = .waiting name entry rest 0 .blocked → waiter.unread = 0 →
    waiter.actor.judge waiter.service waiter.startup name entry = .ok false

/-- In every run in which no exit code is recorded for a dependency that has ended, no message is
missing. -/
theorem blocksAgain_run (actor : ServiceActor) (service : String) (startup : ServiceStartup)
    (dependsOn : DependsOn) (events : List WaitEvent)
    (keeps : Meets step (fun waiter event => waiter.keepsExitCode event)
      (begin actor service startup dependsOn) events) :
    BlocksAgain (run step (begin actor service startup dependsOn) events) := by
  have stays : ∀ waiter event, UpToDate waiter → waiter.keepsExitCode event →
      UpToDate (waiter.step event) := fun waiter event upToDate => upToDate_step upToDate event
  have upToDate := invariant stays keeps (upToDate_enter _ dependsOn)
  intro name entry rest blocked read
  rw [UpToDate, blocked] at upToDate
  exact upToDate read rfl

/-- A task waits for the end of a service that is restarted after a failure and was taken for exited
before its process has ended. -/
def awaitingEnd : DependencyWaiter :=
  begin
    (run ServiceActor.step
      (ServiceActor.create (ServiceActor.failureConfig (.static (.simple { flags := 1 })))
        (some ["db", "web"]) false fun _ => {})
      [.service 0 "db" (.setServiceStatus .running), .service 1 "db" (.setServiceStatus .exited),
        .service 2 "web" .claimServiceStart])
    "web" ⟨1⟩ [("db", { condition := .serviceStopped })]

def untilBlocked : List WaitEvent := List.replicate 5 .check

/-- Without an exit code the end looks like a failure, and the task waits for the restart. -/
theorem judge_untilBlocked :
    (run step awaitingEnd untilBlocked).actor.judge "web" ⟨1⟩ "db"
      { condition := .serviceStopped } = .ok false :=
  blocksAgain_run _ _ _ _ untilBlocked (by decide +kernel) _ _ [] rfl rfl

/-- The end of the process is recorded as a success, without a restart. The task is blocked without
a message, and a new check would end the wait. -/
theorem wakeup_lost :
    let waiter := run step awaitingEnd
      (untilBlocked ++ [.actor (.service 3 "db" (.recordProcessExit (some 0) none))])
    waiter.place = .waiting "db" { condition := .serviceStopped } [] 0 .blocked ∧
      waiter.unread = 0 ∧
      waiter.actor.judge "web" ⟨1⟩ "db" { condition := .serviceStopped } = .ok true :=
  ⟨rfl, rfl, by decide +kernel⟩

end DependencyWaiter

end Kepler
