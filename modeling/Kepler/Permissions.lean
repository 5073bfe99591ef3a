/-
This file models the rights of `permissions.rs`: the base rights and sub-rights, the rights
that a request needs, the check of a request against a granted set, and the expansion
of an `allow` list through the built-in alias and the aliases of a config.

The source interns a right as a reference into its two tables. Here a right is a
constructor, its table text is `Right.text`, and a granted set is a finite set of
rights.
-/

import Mathlib.Data.Fintype.Sets
import Kepler.Protocol

namespace Kepler

open List

inductive Right where
  | start
  | run
  | stop
  | restart
  | recreate
  | status
  | inspect
  | logs
  | subscribe
  | quiescence
  | readiness
  | monitor
  | startEnvOverride
  | startHardening
  | startNoDeps
  | runEnvOverride
  | runHardening
  | runNoDeps
  | runStartClean
  | stopClean
  | stopSignal
  | restartEnvOverride
  | restartInactive
  | restartNoDeps
  | recreateHardening
  | inspectServices
  | inspectEnvironment
  | inspectFlags
  | logsSearch
  | logsSearchSql
  | monitorSearch
  | monitorSearchSql
  deriving DecidableEq, Repr

namespace Right

def baseRights : List Right :=
  [start, run, stop, restart, recreate, status, inspect, logs, subscribe, quiescence, readiness,
    monitor]

def subRights : List Right :=
  [startEnvOverride, startHardening, startNoDeps, runEnvOverride, runHardening, runNoDeps,
    runStartClean, stopClean, stopSignal, restartEnvOverride, restartInactive, restartNoDeps,
    recreateHardening, inspectServices, inspectEnvironment, inspectFlags, logsSearch,
    logsSearchSql, monitorSearch, monitorSearchSql]

def text : Right → String
  | start => "start"
  | run => "run"
  | stop => "stop"
  | restart => "restart"
  | recreate => "recreate"
  | status => "status"
  | inspect => "inspect"
  | logs => "logs"
  | subscribe => "subscribe"
  | quiescence => "quiescence"
  | readiness => "readiness"
  | monitor => "monitor"
  | startEnvOverride => "start:env-override"
  | startHardening => "start:hardening"
  | startNoDeps => "start:no-deps"
  | runEnvOverride => "run:env-override"
  | runHardening => "run:hardening"
  | runNoDeps => "run:no-deps"
  | runStartClean => "run:start-clean"
  | stopClean => "stop:clean"
  | stopSignal => "stop:signal"
  | restartEnvOverride => "restart:env-override"
  | restartInactive => "restart:inactive"
  | restartNoDeps => "restart:no-deps"
  | recreateHardening => "recreate:hardening"
  | inspectServices => "inspect:services"
  | inspectEnvironment => "inspect:environment"
  | inspectFlags => "inspect:flags"
  | logsSearch => "logs:search"
  | logsSearchSql => "logs:search:sql"
  | monitorSearch => "monitor:search"
  | monitorSearchSql => "monitor:search:sql"

end Right

def allRights : Finset Right := (Right.baseRights ++ Right.subRights).toFinset

/-- `intern_right`: the base rights are searched before the sub-rights. -/
def internRight (right : String) : Option Right :=
  (Right.baseRights.find? fun known => known.text == right).or
    (Right.subRights.find? fun known => known.text == right)

structure RequiredRights where
  base : Right
  subRights : List Right
  deriving DecidableEq, Repr

/-- A sub-right that is needed when a feature of the request is used. -/
def onlyIf (used : Bool) (right : Right) : List Right := if used then [right] else []

def requiredRights : Request → Option RequiredRights
  | .start fields => some {
      base := .start
      subRights := onlyIf fields.overrideEnvs.isSome .startEnvOverride ++
        onlyIf fields.hardening.isSome .startHardening ++ onlyIf fields.noDeps .startNoDeps }
  | .run fields => some {
      base := .run
      subRights := onlyIf fields.overrideEnvs.isSome .runEnvOverride ++
        onlyIf fields.hardening.isSome .runHardening ++ onlyIf fields.noDeps .runNoDeps ++
        onlyIf fields.startClean .runStartClean }
  | .stop fields => some {
      base := .stop
      subRights := onlyIf fields.clean .stopClean ++ onlyIf fields.signal.isSome .stopSignal }
  | .restart fields => some {
      base := .restart
      subRights := onlyIf (!fields.states.isEmpty) .restartInactive ++
        onlyIf fields.overrideEnvs.isSome .restartEnvOverride ++
        onlyIf fields.noDeps .restartNoDeps }
  | .recreate fields => some {
      base := .recreate
      subRights := onlyIf fields.hardening.isSome .recreateHardening }
  | .logsStream fields => some {
      base := .logs
      subRights := match fields.filter.isSome, fields.sql with
        | true, true => [.logsSearch, .logsSearchSql]
        | true, false => [.logsSearch]
        | false, _ => [] }
  | .subscribeLogs _ => some { base := .logs, subRights := [] }
  | .subscribe _ => some { base := .subscribe, subRights := [] }
  | .checkQuiescence _ => some { base := .quiescence, subRights := [] }
  | .checkReadiness _ => some { base := .readiness, subRights := [] }
  | .inspect _ => some { base := .inspect, subRights := [] }
  | .monitorMetrics fields => some {
      base := .monitor
      subRights := match fields.filter.isSome, fields.sql with
        | true, true => [.monitorSearch, .monitorSearchSql]
        | true, false => [.monitorSearch]
        | false, _ => [] }
  | .status (some _) => some { base := .status, subRights := [] }
  | .ping | .listConfigs | .shutdown | .prune _ _ | .configOwner _ | .status none
  | .userRights _ => none

/-- Every right that a request needs: the base right and the sub-rights. -/
def RequiredRights.all (required : RequiredRights) : List Right :=
  required.base :: required.subRights

/-- `check_rights`: the base right is checked first, then the sub-rights in order. -/
def checkRights (granted : Finset Right) (request : Request) : Except String Unit :=
  match requiredRights request with
  | none => .ok ()
  | some required =>
    if required.base ∉ granted then
      .error ("permission denied: missing required right '" ++ required.base.text ++ "'")
    else match required.subRights.find? fun sub => sub ∉ granted with
      | some sub =>
        .error ("permission denied: missing required sub-right '" ++ sub.text ++ "'")
      | none => .ok ()

theorem checkRights_eq_ok_iff (granted : Finset Right) (request : Request) :
    checkRights granted request = .ok () ↔
      ∀ required, requiredRights request = some required → ∀ right ∈ required.all,
        right ∈ granted := by
  unfold checkRights
  cases needed : requiredRights request with
  | none => simp
  | some required => ?_
  simp only [Option.some.injEq, forall_eq', RequiredRights.all, forall_mem_cons]
  by_cases base : required.base ∈ granted
  · simp only [base, not_true_eq_false, if_false, true_and]
    cases missing : required.subRights.find? fun sub => sub ∉ granted with
    | none => simpa using find?_eq_none.mp missing
    | some sub =>
      have absent : sub ∉ granted := by simpa using find?_some missing
      have member := mem_of_find?_eq_some missing
      simp only [reduceCtorEq, false_iff, not_forall]
      exact ⟨sub, member, absent⟩
  · simp [base]

theorem onlyIf_subset {used usedToo : Bool} (implied : used = true → usedToo = true)
    (right : Right) : onlyIf used right ⊆ onlyIf usedToo right := by
  intro found member
  cases used with
  | false => simp [onlyIf] at member
  | true => rwa [implied rfl]

theorem requiredRights_withHardening (level : String) (request : Request)
    (required : RequiredRights) (needed : requiredRights request = some required) :
    ∃ more, requiredRights (request.withHardening level) = some more ∧
      required.all ⊆ more.all := by
  have asked (hardening : Option String) (right : Right) :
      onlyIf hardening.isSome right ⊆ onlyIf (some level).isSome right :=
    onlyIf_subset (fun _ => rfl) right
  cases request with
  | start fields =>
    cases needed
    refine ⟨_, rfl, fun right member => ?_⟩
    simp only [RequiredRights.all, mem_cons, mem_append] at member ⊢
    exact member.imp_right (Or.imp_left (Or.imp_right fun found => asked _ _ found))
  | run fields =>
    cases needed
    refine ⟨_, rfl, fun right member => ?_⟩
    simp only [RequiredRights.all, mem_cons, mem_append] at member ⊢
    exact member.imp_right
      (Or.imp_left (Or.imp_left (Or.imp_right fun found => asked _ _ found)))
  | recreate fields =>
    cases needed
    exact ⟨_, rfl, cons_subset_cons _ (asked fields.hardening _)⟩
  | _ => exact ⟨required, needed, List.Subset.refl _⟩

theorem extractConfigPath_isSome (request : Request) (required : RequiredRights)
    (needed : requiredRights request = some required) : request.extractConfigPath.isSome := by
  cases request with
  | status configPath => cases configPath <;> simp_all [requiredRights, Request.extractConfigPath]
  | _ => simp_all [requiredRights, Request.extractConfigPath]

theorem requiredRights_withConfigPath (path : String) (request : Request) :
    requiredRights (request.withConfigPath path) = requiredRights request := by
  cases request with
  | status configPath => cases configPath <;> rfl
  | _ => rfl

theorem checkRights_withConfigPath (granted : Finset Right) (path : String) (request : Request) :
    checkRights granted (request.withConfigPath path) = checkRights granted request := by
  unfold checkRights
  rw [requiredRights_withConfigPath]

/-! ### Expanding an allow list -/

abbrev Aliases : Type := HashMap String (List String)

def validateRights (rights : List String) (userAliases : Aliases) : Except String Unit :=
  rights.forM fun right =>
    if (internRight right).isSome then .ok ()
    else if right = "all" then .ok ()
    else if (userAliases.lookup right).isSome then .ok ()
    else .error s!"unknown right or alias '{right}'"

/-- `resolve_alias_entry`. The source counts the depth up to 2, here `remaining` counts down, and
`chain` holds the aliases being expanded. -/
def resolveAliasEntry (userAliases : Aliases) :
    Nat → List String → String → Except String (Finset Right)
  | remaining, chain, entry =>
    match internRight entry with
    | some right => .ok {right}
    | none =>
      if entry = "all" then .ok allRights
      else match userAliases.lookup entry with
        | none => .error s!"unknown right or alias '{entry}'"
        | some entries =>
          if entry ∈ chain then
            .error ("recursive alias detected: " ++ " -> ".intercalate chain ++ " -> " ++ entry)
          else match remaining with
            | 0 => .error ("alias depth limit exceeded (max 2): " ++
                " -> ".intercalate chain ++ " -> " ++ entry)
            | next + 1 => do
              let sets ← entries.mapM (resolveAliasEntry userAliases next (chain ++ [entry]))
              return sets.foldl (· ∪ ·) ∅

def resolveAliases (allow : List String) (userAliases : Aliases) :
    Except String (Finset Right) := do
  let sets ← allow.mapM (resolveAliasEntry userAliases 2 [])
  return sets.foldl (· ∪ ·) ∅

def expandAllow (allow : List String) (userAliases : Aliases) :
    Except String (Finset Right) := do
  validateRights allow userAliases
  resolveAliases allow userAliases

end Kepler
