/-
This file is about the failures of the steps of a hook: which steps `run_service_hook` runs after a
failure, and which error it returns.

A failure is handled by a later step that asks for failures in its own condition and succeeds. The
error should be that of the first failure that nobody handles, and as long as there is one, a step
without a condition should be skipped.

Whether a condition has asked for failures is kept in a variable that lives as long as the hook. A
step with `if: true` does not set it, and its success handles a failure when an earlier step has
asked and has not handled one itself.
-/

import Kepler.Processes

namespace Kepler

open Runs Option HookProgress

/-! ### What became of the steps -/

/-- A step was skipped, or it ran, with a condition that asked for failures or not, or none that was
evaluated, and has failed or not. -/
inductive HookRecord where
  | skipped
  | ran (asked : Option Bool) (error : Option DaemonError)

namespace HookRecord

def error : HookRecord → Option DaemonError
  | skipped => none
  | ran _ error => error

/-- The step handles the failures before it: its own condition has asked for them, and it has
succeeded. -/
def handles : HookRecord → Bool
  | ran (some true) none => true
  | _ => false

theorem error_of_handles {record : HookRecord} (handling : record.handles) :
    record.error = none := by
  cases record with
  | skipped => rfl
  | ran asked error => ?_
  cases error with
  | none => rfl
  | some error =>
    unfold handles at handling
    split at handling
    · simp_all
    · cases handling

end HookRecord

def Unhandled (records : List HookRecord) (index : Nat) (error : DaemonError) : Prop :=
  (∃ record, records[index]? = some record ∧ record.error = some error) ∧
    ∀ later record, index < later → records[later]? = some record → record.handles = false

def FirstUnhandled (records : List HookRecord) (error : DaemonError) : Prop :=
  ∃ index, Unhandled records index error ∧
    ∀ earlier < index, ∀ other, ¬ Unhandled records earlier other

/-- The first failure that nobody has handled, and whether the last condition that was evaluated has
asked for failures while its step has not handled one. -/
structure HookLedger where
  pending : Option DaemonError := none
  leftover : Bool := false

def HookLedger.add (ledger : HookLedger) (record : HookRecord) : HookLedger where
  pending := if record.handles then none else ledger.pending.or record.error
  leftover := match record with
    | .ran (some asked) error => asked && (error.isSome || ledger.pending.isNone)
    | _ => ledger.leftover

def hookLedger (records : List HookRecord) : HookLedger := records.foldl HookLedger.add {}

section

variable {records : List HookRecord} {record : HookRecord} {index : Nat} {error : DaemonError}
  {ledger : HookLedger}

theorem hookLedger_concat (records : List HookRecord) (record : HookRecord) :
    hookLedger (records ++ [record]) = (hookLedger records).add record := by
  rw [hookLedger, List.foldl_append]
  rfl

theorem HookLedger.add_skipped (ledger : HookLedger) : ledger.add .skipped = ledger := by
  simp [add, HookRecord.handles, HookRecord.error]

theorem HookLedger.add_failed (ledger : HookLedger) (asks : Option Bool) (error : DaemonError) :
    ledger.add (.ran asks (some error)) =
      ⟨ledger.pending.or (some error), asks.getD ledger.leftover⟩ := by
  cases asks with
  | none => rfl
  | some asked => simp [add, HookRecord.handles, HookRecord.error]

theorem HookLedger.add_succeeded {asks : Option Bool}
    (idle : asks = some true → ledger.pending = none) :
    ledger.add (.ran asks none) = ⟨ledger.pending, asks.getD ledger.leftover⟩ := by
  cases asks with
  | none => simp [add, HookRecord.handles, HookRecord.error]
  | some asked =>
    cases asked with
    | false => simp [add, HookRecord.handles, HookRecord.error]
    | true => simp [add, HookRecord.handles, idle rfl]

theorem HookLedger.add_handling (pending : ledger.pending.isSome) :
    ledger.add (.ran (some true) none) = {} := by
  simp [add, HookRecord.handles, pending]

theorem HookLedger.pending_add (ledger : HookLedger) (record : HookRecord) :
    (ledger.add record).pending =
      if record.handles then none else ledger.pending.or record.error := rfl

theorem Unhandled.lt_length (unhandled : Unhandled records index error) :
    index < records.length := by
  obtain ⟨⟨record, found, _⟩, _⟩ := unhandled
  exact (List.getElem?_eq_some_iff.mp found).1

theorem getElem?_concat_iff {found : HookRecord} : (records ++ [record])[index]? = some found ↔
    records[index]? = some found ∨ index = records.length ∧ record = found := by
  grind

theorem unhandled_concat_iff : Unhandled (records ++ [record]) index error ↔
    Unhandled records index error ∧ record.handles = false ∨
      index = records.length ∧ record.error = some error := by
  have within {index found} (there : records[index]? = some found) : index < records.length :=
    (List.getElem?_eq_some_iff.mp there).1
  simp only [Unhandled, getElem?_concat_iff]
  constructor
  · rintro ⟨⟨failed, found | ⟨rfl, rfl⟩, isError⟩, unhandled⟩
    · exact .inl ⟨⟨⟨failed, found, isError⟩, fun later other after there =>
        unhandled later other after (.inl there)⟩,
        unhandled _ record (within found) (.inr ⟨rfl, rfl⟩)⟩
    · exact .inr ⟨rfl, isError⟩
  · rintro (⟨⟨⟨failed, found, isError⟩, unhandled⟩, kept⟩ | ⟨rfl, isError⟩)
    · refine ⟨⟨failed, .inl found, isError⟩, ?_⟩
      rintro later other after (there | ⟨rfl, rfl⟩)
      · exact unhandled later other after there
      · exact kept
    · refine ⟨⟨record, .inr ⟨rfl, rfl⟩, isError⟩, ?_⟩
      rintro later other after (there | ⟨rfl, rfl⟩)
      · exact absurd (within there) (Nat.lt_asymm after)
      · exact absurd after (Nat.lt_irrefl _)

theorem Unhandled.exists_first (unhandled : Unhandled records index error) :
    ∃ first, FirstUnhandled records first := by
  classical
  have some : ∃ index error, Unhandled records index error := ⟨index, error, unhandled⟩
  obtain ⟨first, isFirst⟩ := Nat.find_spec some
  exact ⟨first, Nat.find some, isFirst, fun earlier before other unhandled =>
    Nat.find_min some before ⟨other, unhandled⟩⟩

theorem firstUnhandled_concat_iff : FirstUnhandled (records ++ [record]) error ↔
    record.handles = false ∧ (FirstUnhandled records error ∨
      (∀ other, ¬ FirstUnhandled records other) ∧ record.error = some error) := by
  cases handling : record.handles with
  | true =>
    refine iff_of_false ?_ fun impossible => nomatch impossible.1
    rintro ⟨index, unhandled, _⟩
    rcases unhandled_concat_iff.mp unhandled with ⟨_, kept⟩ | ⟨_, isError⟩
    · cases handling.symm.trans kept
    · cases (HookRecord.error_of_handles handling).symm.trans isError
  | false =>
    rw [and_iff_right rfl]
    constructor
    · rintro ⟨index, unhandled, first⟩
      rcases unhandled_concat_iff.mp unhandled with ⟨before, _⟩ | ⟨rfl, isError⟩
      · refine .inl ⟨index, before, fun earlier isEarlier other unhandled => ?_⟩
        exact first earlier isEarlier other (unhandled_concat_iff.mpr (.inl ⟨unhandled, handling⟩))
      · refine .inr ⟨?_, isError⟩
        rintro other ⟨earlier, unhandled, _⟩
        exact first earlier unhandled.lt_length other
          (unhandled_concat_iff.mpr (.inl ⟨unhandled, handling⟩))
    · rintro (⟨index, unhandled, first⟩ | ⟨none, isError⟩)
      · refine ⟨index, unhandled_concat_iff.mpr (.inl ⟨unhandled, handling⟩),
          fun earlier isEarlier other unhandledEarlier => ?_⟩
        rcases unhandled_concat_iff.mp unhandledEarlier with ⟨before, _⟩ | ⟨rfl, _⟩
        · exact first earlier isEarlier other before
        · exact absurd unhandled.lt_length (Nat.lt_asymm isEarlier)
      · refine ⟨records.length, unhandled_concat_iff.mpr (.inr ⟨rfl, isError⟩),
          fun earlier isEarlier other unhandledEarlier => ?_⟩
        rcases unhandled_concat_iff.mp unhandledEarlier with ⟨before, _⟩ | ⟨rfl, _⟩
        · obtain ⟨first, isFirst⟩ := before.exists_first
          exact none first isFirst
        · exact Nat.lt_irrefl _ isEarlier

theorem firstUnhandled_iff :
    FirstUnhandled records error ↔ (hookLedger records).pending = some error := by
  induction records using List.reverseRecOn generalizing error with
  | nil =>
    refine iff_of_false ?_ nofun
    rintro ⟨index, unhandled, _⟩
    exact Nat.not_lt_zero _ unhandled.lt_length
  | append_singleton records record inductionHypothesis =>
    -- A failure of the new step counts only if no failure was pending.
    rw [firstUnhandled_concat_iff, hookLedger_concat, HookLedger.pending_add]
    simp only [inductionHypothesis]
    cases record.handles with
    | true => simp
    | false =>
      rw [and_iff_right rfl, if_neg Bool.false_ne_true, or_eq_some_iff,
        eq_none_iff_forall_ne_some]

theorem exists_unhandled_iff :
    (∃ index error, Unhandled records index error) ↔ (hookLedger records).pending.isSome := by
  rw [isSome_iff_exists]
  constructor
  · rintro ⟨index, error, unhandled⟩
    obtain ⟨first, isFirst⟩ := unhandled.exists_first
    exact ⟨first, firstUnhandled_iff.mp isFirst⟩
  · rintro ⟨first, isFirst⟩
    obtain ⟨index, unhandled, _⟩ := firstUnhandled_iff.mpr isFirst
    exact ⟨index, first, unhandled⟩

end

/-! ### The steps of a hook -/

structure HookStep where
  hook : HookCommand
  surroundings : Surroundings
  params : ServiceHookParams

/-- Whether the condition of a step asks for failures, if it is evaluated and true. -/
def HookStep.asks (step : HookStep) : Option Bool :=
  match step.hook.common.condition with
  | .static _ => none
  | .dynamic expression =>
    match step.surroundings.evalIfCondition expression with
    | .ok (true, asked) => some asked
    | .ok (false, _) | .error _ => none

def HookProgress.result (progress : HookProgress) : Except DaemonError StepOutputs :=
  match progress.firstError with
  | some error => .error error
  | none => .ok progress.outputs

variable {progress : HookProgress}

theorem HookProgress.result_eq_error_iff {error : DaemonError} :
    progress.result = .error error ↔ progress.firstError = some error := by
  unfold result
  cases progress.firstError <;> simp

theorem HookStep.admits_of_dynamic {step : HookStep} {expression : String}
    (condition : step.hook.common.condition = .dynamic expression) (progress : HookProgress) :
    progress.admits step.surroundings step.hook.common.condition = step.asks := by
  rw [condition, asks, condition]
  rfl

theorem HookStep.asked_of_admits {step : HookStep} {asked : Bool}
    (admitted : progress.admits step.surroundings step.hook.common.condition = some asked) :
    asked = step.asks.getD progress.failureChecked := by
  cases condition : step.hook.common.condition with
  | dynamic =>
    rw [HookStep.admits_of_dynamic condition] at admitted
    rw [admitted, getD_some]
  | static value =>
    rw [condition] at admitted
    rw [asks, condition, getD_none]
    cases value with
    | none => exact (some.inj (ite_none_left_eq_some.mp admitted).2).symm
    | some truth =>
      cases truth with
      | false => cases admitted
      | true => exact (some.inj admitted).symm

structure HookRun where
  progress : HookProgress := {}
  records : List HookRecord := []

namespace HookRun

variable (daemon : DaemonProcess) (service hookName : String)

def record (state : HookRun) (step : HookStep) : HookRecord :=
  match state.progress.admits step.surroundings step.hook.common.condition with
  | none => .skipped
  | some _ =>
    match (runHookStep daemon step.surroundings step.params service hookName step.hook).1 with
    | .ok _ => .ran step.asks none
    | .error e => .ran step.asks (some e)

def step (state : HookRun) (step : HookStep) : HookRun where
  progress := hookLoopStep daemon step.surroundings step.params service hookName state.progress
    step.hook
  records := state.records ++ [state.record daemon service hookName step]

/-- The records are only kept for the proof: `run_service_hook` is the run of its steps. -/
theorem progress_run_eq (surroundings : Surroundings) (params : ServiceHookParams)
    (hooks : List HookCommand) (state : HookRun) :
    (run (step daemon service hookName) state
      (hooks.map fun hook => ⟨hook, surroundings, params⟩)).progress =
      run (hookLoopStep daemon surroundings params service hookName) state.progress hooks := by
  induction hooks generalizing state with
  | nil => rfl
  | cons hook rest inductionHypothesis =>
    exact inductionHypothesis (state.step daemon service hookName ⟨hook, surroundings, params⟩)

/-- The error that is returned is that of the first failure that nobody has handled. -/
def Exact (state : HookRun) : Prop :=
  ∀ error, state.progress.result = .error error ↔ FirstUnhandled state.records error

/-- A step without a condition is skipped exactly while a failure is unhandled. -/
def SkipsRightly (state : HookRun) (step : HookStep) : Prop :=
  step.hook.common.condition = .static none →
    (state.record daemon service hookName step = .skipped ↔
      ∃ index error, Unhandled state.records index error)

/-- With `if: true`, the step succeeds while a failure is unhandled, after the condition of an
earlier step has asked for failures and that step has not handled one. -/
def borrowsHandling (state : HookRun) (step : HookStep) : Bool :=
  match step.hook.common.condition,
      (runHookStep daemon step.surroundings step.params service hookName step.hook).1 with
  | .static (some true), .ok _ =>
    (hookLedger state.records).pending.isSome && (hookLedger state.records).leftover
  | _, _ => false

/-- The variables of the loop are what there is to know about the steps so far. -/
structure Agrees (state : HookRun) : Prop where
  firstError : state.progress.firstError = (hookLedger state.records).pending
  hadFailure : state.progress.hadFailure = (hookLedger state.records).pending.isSome
  failureChecked : state.progress.failureChecked = (hookLedger state.records).leftover

variable {daemon service hookName} {state : HookRun} {next : HookStep}

theorem Agrees.exact (agrees : state.Agrees) : state.Exact := by
  intro error
  rw [result_eq_error_iff, agrees.firstError, firstUnhandled_iff]

theorem Agrees.skipsRightly (agrees : state.Agrees) :
    state.SkipsRightly daemon service hookName next := by
  intro unconditional
  rw [exists_unhandled_iff, ← agrees.hadFailure, record, unconditional, admits]
  cases state.progress.hadFailure with
  | true => simp
  | false =>
    simp only [Bool.false_eq_true, if_false, iff_false]
    cases (runHookStep daemon next.surroundings next.params service hookName next.hook).1 <;>
      exact nofun

/-- A step that counts as handling a failure handles it by its own condition, or borrows an earlier
one. -/
theorem Agrees.asks_of_handled (agrees : state.Agrees) {asked : Bool}
    {captured : Option (List String)}
    (admitted : state.progress.admits next.surroundings next.hook.common.condition = some asked)
    (succeeded : (runHookStep daemon next.surroundings next.params service hookName
      next.hook).1 = .ok captured)
    (own : state.borrowsHandling daemon service hookName next = false)
    (handled : (state.progress.hadFailure && asked) = true) : next.asks = some true := by
  obtain ⟨failed, rfl⟩ := (Bool.and_eq_true ..).mp handled
  cases condition : next.hook.common.condition with
  | dynamic => rw [← admitted, HookStep.admits_of_dynamic condition]
  | static value => ?_
  rw [condition] at admitted
  cases value with
  | none => exact absurd failed (ite_none_left_eq_some.mp admitted).1
  | some truth => ?_
  cases truth with
  | false => cases admitted
  | true =>
    have borrowed : state.progress.failureChecked = true := some.inj admitted
    simp only [borrowsHandling, condition, succeeded, ← agrees.hadFailure, failed,
      ← agrees.failureChecked, borrowed] at own
    cases own

theorem Agrees.step (agrees : state.Agrees)
    (own : state.borrowsHandling daemon service hookName next = false) :
    (state.step daemon service hookName next).Agrees := by
  have recorded : hookLedger (state.step ..).records =
      (hookLedger state.records).add (state.record daemon service hookName next) :=
    hookLedger_concat _ _
  have moved : (state.step ..).progress = hookLoopStep daemon
    next.surroundings next.params service hookName state.progress next.hook := rfl
  unfold hookLoopStep at moved
  unfold record at recorded
  cases admitted : state.progress.admits next.surroundings next.hook.common.condition with
  | none =>
    rw [admitted] at moved recorded
    rw [HookLedger.add_skipped] at recorded
    exact ⟨by rw [moved, recorded, agrees.firstError], by rw [moved, recorded, agrees.hadFailure],
      by rw [moved, recorded, agrees.failureChecked]⟩
  | some asked =>
    have asked_eq := HookStep.asked_of_admits admitted
    rw [admitted] at moved recorded
    dsimp only at moved recorded
    cases outcome : (runHookStep daemon next.surroundings next.params service hookName
        next.hook).1 with
    | error e =>
      rw [outcome] at moved recorded
      rw [HookLedger.add_failed] at recorded
      refine ⟨?_, ?_, ?_⟩
      · rw [moved, recorded, agrees.firstError]
      · rw [moved, recorded, isSome_or, isSome_some, Bool.or_true]
      · rw [moved, recorded, asked_eq, agrees.failureChecked]
    | ok =>
      rw [outcome] at moved recorded
      dsimp only at moved recorded
      cases handled : state.progress.hadFailure && asked with
      | true =>
        have asks := agrees.asks_of_handled admitted outcome own handled
        have pending : (hookLedger state.records).pending.isSome = true :=
          agrees.hadFailure ▸ (Bool.and_eq_true_iff.mp handled).1
        rw [handled, if_pos rfl] at moved
        rw [asks, HookLedger.add_handling pending] at recorded
        exact ⟨by rw [moved, recorded], by rw [moved, recorded]; rfl, by rw [moved, recorded]⟩
      | false =>
        have idle (asks : next.asks = some true) : (hookLedger state.records).pending = none := by
          rw [asked_eq, asks, getD_some, Bool.and_true, agrees.hadFailure] at handled
          exact isNone_iff_eq_none.mp (isSome_eq_false_iff.mp handled)
        rw [handled, if_neg Bool.false_ne_true] at moved
        rw [HookLedger.add_succeeded idle] at recorded
        exact ⟨by rw [moved, recorded, agrees.firstError],
          by rw [moved, recorded, agrees.hadFailure],
          by rw [moved, recorded, asked_eq, agrees.failureChecked]⟩

/-- A borrowed condition makes a failure go away that nobody has handled. -/
theorem Agrees.not_exact (agrees : state.Agrees)
    (borrows : state.borrowsHandling daemon service hookName next = true) :
    ¬ (state.step daemon service hookName next).Exact := by
  unfold borrowsHandling at borrows
  split at borrows
  case h_2 => exact nomatch borrows
  case h_1 captured condition outcome =>
    obtain ⟨pending, leftover⟩ := Bool.and_eq_true_iff.mp borrows
    obtain ⟨error, pendingError⟩ := isSome_iff_exists.mp pending
    have cleared : (state.step daemon service hookName next).progress.firstError = none := by
      simp only [HookRun.step, hookLoopStep, condition, admits, outcome,
        agrees.hadFailure, pending, agrees.failureChecked, leftover, Bool.and_self, if_true]
    have stillPending : (hookLedger (state.step daemon service hookName next).records).pending =
        some error := by
      have unasked : (none : Option Bool) = some true →
        (hookLedger state.records).pending = none := nofun
      simp only [HookRun.step, record, condition, admits, outcome, HookStep.asks,
        hookLedger_concat, HookLedger.add_succeeded unasked, pendingError]
    intro exact
    have returned := (exact error).mpr (firstUnhandled_iff.mpr stillPending)
    rw [result_eq_error_iff, cleared] at returned
    cases returned

variable (daemon service hookName) in
/-- After every step of a hook the error is the right one, exactly when no step borrows the
condition of an earlier one. (The error in the end can be right all the same: a later step may
handle everything.) -/
theorem treatsFailures_iff (steps : List HookStep) :
    Meets (HookRun.step daemon service hookName)
      (fun state next => state.SkipsRightly daemon service hookName next ∧
        (state.step daemon service hookName next).Exact) {} steps ↔
      Meets (HookRun.step daemon service hookName) (fun state next =>
        state.borrowsHandling daemon service hookName next = false) {} steps := by
  have initially : ({} : HookRun).Agrees := ⟨rfl, rfl, rfl⟩
  have owns (state : HookRun) (next : HookStep) (agrees : state.Agrees)
      (exact : (state.step daemon service hookName next).Exact) :
      state.borrowsHandling daemon service hookName next = false := by
    cases borrows : state.borrowsHandling daemon service hookName next with
    | false => rfl
    | true => exact absurd exact (agrees.not_exact borrows)
  constructor
  · intro treats
    exact meets_of_meets
      (fun state next agrees right => agrees.step (owns state next agrees right.2))
      (fun state next agrees right => owns state next agrees right.2) treats initially
  · intro own
    exact meets_of_meets (fun state next agrees own => agrees.step own)
      (fun state next agrees own => ⟨agrees.skipsRightly, (agrees.step own).exact⟩) own initially

end HookRun

/-! ### A failure that is forgotten -/

def migrationSteps : List HookCommand :=
  [.command (.static (wrapVec ["migrate"])) {},
    .command (.static (wrapVec ["rollback"])) { condition := .dynamic "failure()" },
    .command (.static (wrapVec ["cleanup"])) { condition := .static (some true) }]

def cleanupSurroundings : Surroundings :=
  { (quietly (.fetch "web")).surroundings with
    evalIfCondition := fun _ => .ok (true, true)
    exitCode := fun command => if command = ["cleanup"] then some 0 else some 1 }

def migrationParams : ServiceHookParams where
  workingDir := "/srv"
  serviceUser := none
  serviceGroups := []
  evaluator := some staticEvaluator
  configDir := "/srv"
  hardening := .none
  ownerUid := none
  keplerGid := none
  serviceNoNewPrivileges := none
  outputMaxSize := 0

def migrationRun : HookRun :=
  run (HookRun.step rootDaemon "web" ServiceHookType.preStart.asStr) {}
    (migrationSteps.map fun hook => ⟨hook, cleanupSurroundings, migrationParams⟩)

/-- The step that should handle the failure fails itself, and the hook succeeds because the last
step does. -/
theorem failure_forgotten :
    runServiceHook rootDaemon cleanupSurroundings migrationParams "web"
      (some fun _ => some migrationSteps) .preStart = migrationRun.progress ∧
    migrationRun.progress.result = .ok ∅ ∧
    FirstUnhandled migrationRun.records (.hookFailed "web" "pre_start" "exit code 1") := by
  refine ⟨?_, rfl, ?_⟩
  · exact (HookRun.progress_run_eq rootDaemon "web" _ cleanupSurroundings migrationParams
      migrationSteps {}).symm
  · rw [firstUnhandled_iff]
    decide +kernel

end Kepler
