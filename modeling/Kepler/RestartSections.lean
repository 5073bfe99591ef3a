/-
This file is about the restart section of a service. The section may be an expression, or hold one,
and then its value is known only once the service has been computed (`config/restart.rs`).

The requests and the event handler (`orchestrator/mod.rs`, `orchestrator/events.rs`) read the policy
and the grace period from the section as it was written. What an expression stands for is not known
to them, and counts as no restart and no grace period.

A service may also be restarted together with its dependencies. The handler is created for every
entry that asks for it, and the propagation asks the first entry of a name (`config/deps.rs`).
-/

import Kepler.ServiceSystem
import Kepler.StartupClaims

namespace Kepler

open Runs List Bool Lifecycle Text ServiceRequest RestartConfig AList

/-! ### Durations -/

/-- The milliseconds of a unit of time. A number without a unit counts seconds. -/
def durationUnit (unit : String) : Option Nat :=
  match unit.toList.map Char.toLower with
  | ['m', 's'] => some 1
  | ['s'] | [] => some 1000
  | ['m'] => some (60 * 1000)
  | ['h'] => some (60 * 60 * 1000)
  | ['d'] => some (24 * 60 * 60 * 1000)
  | _ => none

/-- `parse_duration`, in milliseconds. -/
def parseDuration (text : String) : Except String Nat :=
  let trimmed := Text.trim text
  let digits := String.ofList (trimmed.toList.takeWhile Char.isDigit)
  let unit := String.ofList (trimmed.toList.dropWhile Char.isDigit)
  if trimmed = "" then .error "Empty duration string"
  else match Text.parseU64 digits, durationUnit unit with
    | none, _ => .error s!"Invalid number in duration: {digits}"
    | some _, none => .error s!"Unknown duration unit: {unit}"
    | some number, some factor =>
      if number.toNat * factor < UInt64.size then .ok (number.toNat * factor)
      else .error s!"Duration value too large: {trimmed}"

/-- `format_duration`, for a duration in nanoseconds. -/
def formatDuration (nanos : Nat) : String :=
  let millis := nanos / 1000000 % UInt64.size
  if millis = 0 then "0s"
  else if millis % (24 * 60 * 60 * 1000) = 0 then toString (millis / (24 * 60 * 60 * 1000)) ++ "d"
  else if millis % (60 * 60 * 1000) = 0 then toString (millis / (60 * 60 * 1000)) ++ "h"
  else if millis % (60 * 1000) = 0 then toString (millis / (60 * 1000)) ++ "m"
  else if millis % 1000 = 0 then toString (millis / 1000) ++ "s"
  else toString millis ++ "ms"

theorem parseDuration_toString {number factor : Nat} {unit : String}
    (isUnit : durationUnit unit = some factor) (small : number < UInt64.size)
    (letters : ∀ letter ∈ unit.toList, letter.isDigit = false ∧ Text.isWhitespace letter = false) :
    parseDuration (toString number ++ unit) =
      if number * factor < UInt64.size then .ok (number * factor)
      else .error s!"Duration value too large: {toString number ++ unit}" := by
  have digits : ∀ digit ∈ (toString number).toList, digit.isDigit := fun _ =>
    isDigit_of_mem_toString
  have trimmed : trim (toString number ++ unit) = toString number ++ unit := by
    refine trim_of_forall fun character member => ?_
    rw [String.toList_append, mem_append] at member
    exact member.elim (fun digit => isWhitespace_of_isDigit (digits _ digit))
      fun letter => (letters _ letter).2
  have nonempty : toString number ++ unit ≠ "" := by simp
  have back : (toString number ++ unit).toList.dropWhile Char.isDigit = unit.toList := by
    rw [String.toList_append, dropWhile_append_of_pos digits,
      dropWhile_of_forall _ _ fun letter member => (letters letter member).1]
  have front : (toString number ++ unit).toList.takeWhile Char.isDigit =
      (toString number).toList := by
    have whole := @List.takeWhile_append_dropWhile _ Char.isDigit (toString number ++ unit).toList
    rw [back] at whole
    exact append_cancel_right (whole.trans String.toList_append)
  have read : parseU64 (toString number) = some (UInt64.ofNat number) := by
    rw [parseU64, parseUnsigned_toString _ _ small, Option.map_some]
  simp only [parseDuration, trimmed, front, back, String.ofList_toList, if_neg nonempty, read,
    isUnit]
  rw [UInt64.toNat_ofNat_of_lt' small]

theorem parseDuration_formatDuration {millis : Nat} (small : millis < UInt64.size) :
    parseDuration (formatDuration (millis * 1000000)) = .ok millis := by
  have readBack {factor : Nat} {unit : String} (isUnit : durationUnit unit = some factor)
      (letters : unit.toList.all fun letter => !letter.isDigit && !isWhitespace letter)
      (even : millis % factor = 0) :
      parseDuration (toString (millis / factor) ++ unit) = .ok millis := by
    rw [parseDuration_toString isUnit ((Nat.div_le_self ..).trans_lt small)
      (by simpa using letters), Nat.div_mul_cancel (Nat.dvd_of_mod_eq_zero even), if_pos small]
  rw [formatDuration, Nat.mul_div_cancel _ (by decide), Nat.mod_eq_of_lt small]
  split_ifs with zero days hours minutes seconds
  · rw [zero]
    decide +kernel
  · exact readBack rfl rfl days
  · exact readBack rfl rfl hours
  · exact readBack rfl rfl minutes
  · exact readBack rfl rfl seconds
  · have whole := @readBack 1 "ms" rfl rfl (Nat.mod_one millis)
    rwa [Nat.div_one] at whole

/-- Every whole number of milliseconds below 2^64 is read back from its text, and so is every
duration that was read. -/
theorem duration_roundTrip :
    (∀ millis < UInt64.size, parseDuration (formatDuration (millis * 1000000)) = .ok millis) ∧
      ∀ text millis, parseDuration text = .ok millis →
        parseDuration (formatDuration (millis * 1000000)) = .ok millis := by
  refine ⟨fun millis => parseDuration_formatDuration, fun text millis read => ?_⟩
  refine parseDuration_formatDuration ?_
  unfold parseDuration at read
  grind

/-! ### Grace periods -/

namespace RestartConfig

/-- `grace_period`: nothing for an expression, and for a text that is no duration. -/
def gracePeriod : RestartConfig → Nat
  | simple _ => 0
  | extended settings =>
    (settings.gracePeriod.asStatic.bind fun text => (parseDuration text).toOption).getD 0

variable {evaluator : Evaluator} {path : String} {written computed : RestartConfig}

end RestartConfig

/-! ### The restart section of a service -/

namespace RawServiceConfig

/-- The grace period as `stop_service` is given it. -/
def gracePeriod (raw : RawServiceConfig) : Nat :=
  (raw.restart.asStatic.map RestartConfig.gracePeriod).getD 0

variable {raw : RawServiceConfig} {evaluator : Evaluator} {name : String}
  {defaultUser : Option String} {resolved : ServiceConfig}

section

variable (success : resolveService evaluator name raw defaultUser = .ok resolved)

include success

end

end RawServiceConfig

/-! ### What the requests do with it -/

def DependsOn.shouldRestartOnDependency (dependsOn : DependsOn) (dependency : String) : Bool :=
  (dependsOn.lookup dependency).any DependencyConfig.restart

/-- A service is to be restarted with one of its dependencies, or when its health check fails. -/
def KeplerConfig.needsEventHandler (config : KeplerConfig) : Bool :=
  config.services.keys.any fun name => (config.services.lookup name).any fun raw =>
    (raw.dependsOn.any fun entry => entry.2.restart) ||
      raw.restart.asStatic.any fun restart => restart.policy.shouldRestartOnUnhealthy

def ServiceCommand.isQuestion : ServiceCommand → Bool
  | .getServiceConfig | .isServiceRunning => true
  | _ => false

/-- The actor of a config, and whether there is a handler for its events. -/
structure Supervision where
  actor : ServiceActor
  eventHandlerSpawned : Bool := false

inductive SupervisionEvent where
  | input (input : ServiceActor.Input)
  /-- The end of a start or restart of some services. -/
  | postStartupWork (started : List String)

def SupervisionEvent.isStartup : SupervisionEvent → Bool
  | input _ => false
  | postStartupWork started => !started.isEmpty

variable {raw : RawServiceConfig} {name : String}

namespace Supervision

def postStartupWork (supervision : Supervision) (started : List String) : Supervision :=
  if started.isEmpty then supervision
  else
    let needed := supervision.actor.config.needsEventHandler && !supervision.eventHandlerSpawned
    let handled := if needed then supervision.actor.step (.config .getAllEventReceivers)
      else supervision.actor
    { actor := if handled.initialized then handled
        else handled.step (.config .markConfigInitialized)
      eventHandlerSpawned := supervision.eventHandlerSpawned || needed }

def step (supervision : Supervision) : SupervisionEvent → Supervision
  | .input input => { supervision with actor := supervision.actor.step input }
  | .postStartupWork started => supervision.postStartupWork started

variable {supervision : Supervision}

theorem config_step (event : SupervisionEvent) :
    (supervision.step event).actor.config = supervision.actor.config := by
  cases event with
  | input input => exact ServiceActor.config_step input
  | postStartupWork started => ?_
  change (supervision.postStartupWork started).actor.config = _
  unfold postStartupWork
  split
  · rfl
  · dsimp only
    split <;> split <;> rfl

end Supervision

/-! ### Requests and handlers that follow the computed section -/

namespace Supervision

variable {supervision : Supervision}

theorem isSome_state_step (known : (supervision.actor.cells name).state.isSome)
    (event : SupervisionEvent) : ((supervision.step event).actor.cells name).state.isSome := by
  cases event with
  | input input => exact ServiceActor.isSome_state_step known input
  | postStartupWork started => ?_
  change ((supervision.postStartupWork started).actor.cells name).state.isSome
  unfold postStartupWork
  split
  · exact known
  · dsimp only
    split <;> split <;>
      first
      | exact known
      | exact ServiceActor.isSome_state_step known _
      | exact ServiceActor.isSome_state_step (ServiceActor.isSome_state_step known _) _

def checkedService (restart : ConfigValue RestartConfig) : RawServiceConfig :=
  { command := .static [.static "serve"], healthcheck := .static (some {}), restart }

def checkedConfig (restart : ConfigValue RestartConfig) : KeplerConfig :=
  { services := AList.singleton "web" (checkedService restart) }

end Supervision

/-! ### Views of the dependencies -/

/-- An entry of a list of dependencies. A map is a single extended entry. -/
inductive DependencyEntry where
  | simple (name : String)
  | extended (configs : HashMap String DependencyConfig)

namespace DependencyEntry

def find (name : String) : DependencyEntry → Option DependencyConfig
  | simple other => if other = name then some {} else none
  | extended configs => configs.lookup name

/-- `DependsOn::get`: the first entry that has the name decides. -/
def get (entries : List DependencyEntry) (name : String) : Option DependencyConfig :=
  entries.findSome? (find name)

def iter (entries : List DependencyEntry) : DependsOn :=
  entries.flatMap fun
    | simple name => [(name, {})]
    | extended configs => configs.entries.map fun entry => (entry.1, entry.2)

def names (entries : List DependencyEntry) : List String :=
  entries.flatMap fun
    | simple name => [name]
    | extended configs => configs.keys

def shouldRestartOnDependency (entries : List DependencyEntry) (dependency : String) : Bool :=
  ((get entries dependency).map DependencyConfig.restart).getD false

def dependenciesWithRestart (entries : List DependencyEntry) : List String :=
  ((iter entries).filter fun entry => entry.2.restart).map Prod.fst

structure ViewsAgree (entries : List DependencyEntry) : Prop where
  restart : ∀ name, name ∈ dependenciesWithRestart entries ↔ shouldRestartOnDependency entries name
  listed : ∀ name, (get entries name).isSome ↔ name ∈ names entries
  yielded : ∀ name config, get entries name = some config ↔ (name, config) ∈ iter entries

/-- Entries that have the same name have the same configuration for it. -/
def Unambiguous (entries : List DependencyEntry) : Prop :=
  ∀ first ∈ entries, ∀ second ∈ entries, ∀ name config other,
    first.find name = some config → second.find name = some other → config = other

variable {entries : List DependencyEntry} {name : String}

theorem mem_iter {config : DependencyConfig} :
    (name, config) ∈ iter entries ↔ ∃ entry ∈ entries, entry.find name = some config := by
  refine mem_flatMap.trans (exists_congr fun entry => and_congr_right fun _ => ?_)
  cases entry with
  | simple other => grind [find]
  | extended =>
    refine Iff.trans ?_ mem_lookup_iff.symm
    simp

theorem isSome_get : (get entries name).isSome ↔ name ∈ names entries := by
  rw [get, isSome_findSome?, any_eq_true, names, mem_flatMap]
  refine exists_congr fun entry => and_congr_right fun _ => ?_
  cases entry with
  | simple other => grind [find]
  | extended => exact lookup_isSome

/-- The views agree exactly if no two entries have a name with different configurations. -/
theorem viewsAgree_iff (entries : List DependencyEntry) :
    ViewsAgree entries ↔ Unambiguous entries := by
  constructor
  · intro agree first isFirst second isSecond name config other found again
    have yielded := (agree.yielded ..).mpr (mem_iter.mpr ⟨first, isFirst, found⟩)
    rw [(agree.yielded ..).mpr (mem_iter.mpr ⟨second, isSecond, again⟩)] at yielded
    cases yielded
    rfl
  · intro unambiguous
    have yielded (name : String) (config : DependencyConfig) :
        get entries name = some config ↔ (name, config) ∈ iter entries := by
      rw [mem_iter]
      constructor
      · exact exists_of_findSome?_eq_some
      · rintro ⟨entry, member, found⟩
        obtain ⟨other, known⟩ : ∃ other, get entries name = some other := by
          rw [← Option.isSome_iff_exists, get, isSome_findSome?, any_eq_true]
          exact ⟨entry, member, by rw [found]; rfl⟩
        obtain ⟨earlier, isEarlier, first⟩ := exists_of_findSome?_eq_some known
        rw [known, unambiguous entry member earlier isEarlier name config other found first]
    refine ⟨fun name => ?_, fun name => isSome_get, yielded⟩
    have enabled : name ∈ dependenciesWithRestart entries ↔
        ∃ config, get entries name = some config ∧ config.restart := by
      simp [dependenciesWithRestart, yielded]
    rw [enabled, shouldRestartOnDependency]
    cases get entries name <;> simp

/-- A service that is named twice is to be restarted with its dependency for one view only. -/
theorem named_twice_disagrees :
    let entries := [simple "db", extended (AList.insert "db" { restart := true } ∅)]
    dependenciesWithRestart entries = ["db"] ∧ shouldRestartOnDependency entries "db" = false ∧
      ¬ ViewsAgree entries := by
  refine ⟨by decide, by decide, fun agree => ?_⟩
  exact absurd ((agree.restart "db").mp (by decide)) (by decide)

end DependencyEntry

end Kepler
