/-
This file says what a task may rely on while it works on a service and no other task on that service
acts. The phase of a task is its custody: where the process of the service is, which token guard the
actor holds, and which token the task has to look after itself.

A startup gives way where it waits for its dependencies, computes its config or runs the pre-start
hook: after each of these it checks its claim before it goes on. All other operations rely on being
alone from their first step to their last.
-/

import Kepler.ServiceSystem

namespace Kepler

open Lifecycle Program Bool

/-! ### Custody -/

/-- What a task does, as far as it matters for its custody. -/
inductive Role where
  | startup
  | exit
  | other
  deriving DecidableEq

def TaskKind.role : TaskKind → Role
  | request (.start _ _) | request (.restart _ _ _) => .startup
  | request .stop | request .fileChange | request .unhealthy | request (.propagate _) => .other
  | exit _ _ => .exit

/-- The operations during which a startup gives way to other tasks. -/
def Operation.isPause : Operation → Bool
  | .awaitDependencies | .resolveService | .runHook .preStart => true
  | _ => false

def Operation.isResolve : Operation → Bool
  | .resolveService => true
  | _ => false

/-- Where the process of a service is. At rest the actor holds the handle of the live process, and
none unless the service is running. -/
inductive Place where
  | rest
  /-- The actor holds the handle of the live process. A known claim is still usable. -/
  | held (claim : Option ServiceStartup)
  /-- The task has taken the handle of the live process. -/
  | removed (process : ProcessId)
  /-- There is no handle and no live process. -/
  | cleared
  /-- The task has spawned a process, and the actor holds no handle. -/
  | spawned (process : ProcessId)
  deriving DecidableEq

def Place.isSteady : Place → Bool
  | rest | held _ | cleared => true
  | removed _ | spawned _ => false

/-- The tokens that a task is going to look after when it is its turn again. -/
inductive Pending where
  | nothing
  | token (token : Token)
  | any
  deriving DecidableEq

def Pending.Answers : Pending → Token → Prop
  | nothing, _ => False
  | token expected, actual => expected = actual
  | any, _ => True

/-- What a task knows and owes. A covered guard is looked after by somebody: a process whose exit
will be reported, another task, or this task as its pending token says. -/
structure Custody where
  role : Role
  place : Place := .rest
  known : Option (Option Token) := none
  covered : Bool := true
  owned : Option Token := none
  pending : Pending := .nothing
  resolved : Bool := false

namespace Custody

variable (phase : Custody) {operation : Operation} {program : Lifecycle Unit}
  {hookType : ServiceHookType}

def Clean : Prop := phase.pending = .nothing ∧ (phase.covered ∨ phase.known = some none)

def Liable (token : Option Token) : Prop :=
  phase.pending = .nothing ∧ (phase.covered ∨ phase.known = some token) ∨
    ∃ created, token = some created ∧ phase.pending = .token created ∧ phase.covered

def Settled : Prop := (phase.place = .rest ∨ phase.place = .cleared) ∧ phase.owned = none

def Idle : Prop := phase.Settled ∧ phase.Clean

/-- Where the task may end. Only a strict task has to look after its tokens. -/
def Final (strict : Bool) : Prop :=
  (phase.place = .rest ∨ phase.place = .cleared) ∧
    (strict → phase.owned = none ∧ phase.Clean)

def Pausable : Prop := phase.Settled ∧ (phase.covered ∨ phase.known.isSome)

def owed : Pending :=
  if phase.covered then phase.pending
  else match phase.known with
    | some (some token) => .token token
    | _ => .nothing

def paused : Custody := { role := phase.role, pending := phase.owed }

/-! ### The rules -/

/-- The rest of the way of a startup that gives way, and of any other task. -/
def afterPause : Custody := if phase.role = .startup then phase.paused else phase

def stored (token : Token) : Custody :=
  { phase with owned := none, known := some (some token), covered := false, pending := .nothing }

def entered (status : ServiceStatus) : Custody :=
  { phase with place := if status.isRunning then .rest else match phase.place with
      | .cleared => .cleared
      | _ => .held none }

def AllowsCommand : ServiceCommand → Prop
  | .claimServiceStart | .claimServiceRestart | .claimInactiveServiceRestart _ =>
    phase.place = .rest
  | .getServiceContext | .getServiceStartup => True
  | .transitionServiceStartup _ status _ _ =>
    (phase.place = .rest ∨ phase.place = .cleared) ∧ status.isRunning = false
  | .setServiceStatusWithReason _ _ _ | .setServiceStatus _ => phase.place.isSteady
  | .recordProcessExit _ _ | .removeProcessHandle => phase.place.isSteady
  | .registerServiceInstance _ _ | .storeResolvedConfig _ _ => True
  | .storeProcessHandle handle => phase.place = .spawned handle.process
  | .storeTokenGuard token | .storeStartupTokenGuard _ token => phase.owned = some token
  | .takeMatchingTokenGuard _ => phase.owned = none
  | command => command.isNeutral

def Allows : Operation → Prop
  | .command request => phase.AllowsCommand request
  | .runHook .preStart | .resolveService | .awaitDependencies =>
    phase.role = .startup → phase.Pausable
  | .createToken _ => phase.owned = none
  | .revokeToken token => phase.owned = some token
  | .spawnProcess => phase.place = .cleared
  | .killProcess _ => False
  | .requestShutdown process => phase.place = .removed process
  | .runHook _ | .awaitShutdown _ | .clearProcessOutputs | .spawnTask | .awaitDependencyRestart
  | .sleep | .backoff => True

def ExpectsReply (strict : Bool) : (command : ServiceCommand) → command.Reply → Prop
  | .getServiceContext => fun reply => ∃ context, reply = some context ∧
      (∀ stored, phase.known = some stored → context.token = stored) ∧
      (strict → phase.resolved → context.resolvedConfig.isSome)
  | .getServiceStartup => fun reply => ∀ startup, phase.place = .held (some startup) →
      reply = some startup
  | .registerServiceInstance _ _ => fun reply => reply.isOk
  | .removeProcessHandle => fun reply => phase.place = .cleared → reply = none
  | .takeMatchingTokenGuard token => fun reply => (reply = none ∨ reply = some token) ∧
      (phase.known = some (some token) → reply = some token)
  | .storeStartupTokenGuard _ token => fun reply => reply = none ∨ reply = some token
  | _ => fun _ => True

/-- What an operation can lead to. The config of a strict exit handler with a token can be computed.
-/
def Expects (strict : Bool) : (operation : Operation) → operation.Reply → Prop
  | .command request => phase.ExpectsReply strict request
  | .resolveService => fun reply => strict → phase.role = .exit → phase.known.isSome →
      reply.isOk ∨ phase.known = some none
  | _ => fun _ => True

def afterReply : (command : ServiceCommand) → command.Reply → Custody
  | .getServiceContext => fun reply => match reply with
    | none => phase
    | some context => { phase with
        known := some context.token
        covered := phase.covered && phase.pending != .any
        pending := if phase.pending = .any then .nothing else phase.pending }
  | .claimServiceStart | .claimInactiveServiceRestart _ => fun reply =>
    if reply.isSome then { phase with place := .cleared } else phase
  | .claimServiceRestart => fun reply =>
    if reply.isSome then { phase with place := .held reply } else phase
  | .getServiceStartup => fun reply =>
    if reply.isSome && phase.place = .rest then { phase with place := .cleared } else phase
  | .transitionServiceStartup _ _ _ _ => fun moved =>
    if moved then { phase with place := .cleared } else phase
  | .setServiceStatusWithReason status _ _ | .setServiceStatus status => fun _ =>
    phase.entered status
  | .recordProcessExit _ _ => fun _ => { phase with place := .cleared, covered := false }
  | .removeProcessHandle => fun reply => match reply with
    | none => { phase with place := .cleared }
    | some handle => { phase with place := .removed handle.process, covered := false }
  | .storeProcessHandle _ => fun _ =>
    { phase with place := .held none, covered := true, pending := .nothing }
  | .storeResolvedConfig _ _ => fun _ => { phase with resolved := phase.role = .exit }
  | .storeTokenGuard token => fun _ => phase.stored token
  | .storeStartupTokenGuard _ token => fun rejected =>
    if rejected.isSome then phase else phase.stored token
  | .takeMatchingTokenGuard token => fun taken =>
    if taken.isSome then
      { phase with owned := taken, known := some none, covered := true, pending := .nothing }
    else { phase with
      pending := if phase.pending = .token token then .nothing else phase.pending }
  | _ => fun _ => phase

def after : (operation : Operation) → operation.Reply → Custody
  | .command request => phase.afterReply request
  | .runHook .preStart | .resolveService | .awaitDependencies => fun _ => phase.afterPause
  | .createToken _ => fun created => match created with
    | .ok token => { phase with owned := some token }
    | .error _ => phase
  | .revokeToken _ => fun _ => { phase with owned := none }
  | .spawnProcess => fun spawned => match spawned with
    | .ok spawned => { phase with place := .spawned spawned.handle.process }
    | .error _ => phase
  | .requestShutdown _ => fun _ => { phase with place := .cleared }
  | _ => fun _ => phase

def protocol (strict : Bool) : Program.Protocol Operation.Reply Custody where
  Allowed := Allows
  Next phase operation reply following :=
    phase.Expects strict operation reply ∧ following = phase.after operation reply

abbrev Follows (strict : Bool) {Result : Type}
    (post : Except OrchestratorError Result → Custody → Prop) (program : Lifecycle Result)
    (phase : Custody) : Prop :=
  Program.Follows (protocol strict) post program phase

abbrev Ends (strict : Bool) (program : Lifecycle Unit) (phase : Custody) : Prop :=
  Follows strict (fun _ following => following.Final strict) program phase

/-! ### Single operations -/

section

variable {phase} {strict : Bool} {Result : Type}
  {post : Except OrchestratorError Result → Custody → Prop} {command : ServiceCommand}
  {Answer : Type}

theorem follows_operation {continuation : operation.Reply → Lifecycle Result}
    (allowed : phase.Allows operation) (rest : ∀ reply, phase.Expects strict operation reply →
      Follows strict post (continuation reply) (phase.after operation reply)) :
    Follows strict post (perform operation >>= continuation) phase :=
  follows_call_bind allowed (fun _ _ leads => leads) rest

theorem follows_then {continuation : Unit → Lifecycle Result} {Between : Custody → Prop}
    (first : Follows strict (fun outcome following => outcome = .ok () ∧ Between following)
      program phase)
    (rest : ∀ following, Between following → Follows strict post (continuation ()) following) :
    Follows strict post (program >>= continuation) phase :=
  follows_bind_of first (fun _ following holds => rest following holds.2)
    fun _ _ holds => by cases holds.1

theorem neutral_command (neutral : command.isNeutral) :
    phase.AllowsCommand command ∧ ∀ reply, phase.afterReply command reply = phase := by
  cases command <;> first | exact ⟨neutral, fun _ => rfl⟩ | cases neutral

theorem neutral_operation (neutral : operation.isNeutral) :
    phase.Allows operation ∧ ∀ reply, phase.after operation reply = phase := by
  cases operation with
  | command => exact neutral_command neutral
  | runHook hook => cases hook <;> first | exact ⟨trivial, fun _ => rfl⟩ | cases neutral
  | _ => first | exact ⟨trivial, fun _ => rfl⟩ | cases neutral

theorem follows_neutral {continuation : operation.Reply → Lifecycle Result}
    (neutral : operation.isNeutral) (rest : ∀ reply, Follows strict post (continuation reply) phase) :
    Follows strict post (perform operation >>= continuation) phase := by
  obtain ⟨allowed, stays⟩ := @neutral_operation phase operation neutral
  refine follows_operation allowed fun reply _ => ?_
  rw [stays]
  exact rest reply

theorem follows_hook {continuation : Unit → Lifecycle Result}
    (alone : hookType ≠ .preStart ∨ phase.role ≠ .startup)
    (rest : Follows strict post (continuation ()) phase) :
    Follows strict post (hook hookType >>= continuation) phase := by
  by_cases preStart : hookType = .preStart
  · subst preStart
    have different : phase.role ≠ .startup := alone.resolve_left fun differs => differs rfl
    refine follows_operation (fun same => absurd same different) fun reply _ => ?_
    rw [show phase.after (.runHook .preStart) reply = phase from if_neg different]
    exact rest
  · refine follows_neutral ?_ fun _ => rest
    exact bne_iff_ne.mpr preStart

theorem follows_check {answer : Except OrchestratorError Answer}
    {continuation : Answer → Lifecycle Result}
    (rest : ∀ value, answer = .ok value → Follows strict post (continuation value) phase)
    (failed : ∀ failure, answer = .error failure → post (.error failure) phase) :
    Follows strict post (check answer >>= continuation) phase := by
  cases answer with
  | ok value => exact rest value rfl
  | error failure => exact failed failure rfl

theorem follows_require {answer : Option Answer} {continuation : Answer → Lifecycle Result}
    (rest : ∀ value, answer = some value → Follows strict post (continuation value) phase)
    (missing : answer = none → post (.error .serviceContextNotFound) phase) :
    Follows strict post (require answer >>= continuation) phase := by
  cases answer with
  | some value => exact rest value rfl
  | none => exact missing rfl

end

/-! ### Token guards -/

section

variable {phase} {strict : Bool}

/-- The same custody but for the tokens. -/
structure SameStand (phase following : Custody) : Prop where
  role : following.role = phase.role
  place : following.place = phase.place
  resolved : following.resolved = phase.resolved

theorem SameStand.refl (phase : Custody) : SameStand phase phase := ⟨rfl, rfl, rfl⟩

theorem Clean.liable (clean : phase.Clean) : phase.Liable none := .inl clean

theorem Liable.clean (liable : phase.Liable none) : phase.Clean := by
  obtain clean | ⟨_, absent, _⟩ := liable
  · exact clean
  · cases absent

variable {token : Option Token} {service : String} {context : FetchedContext} {Result : Type}
  {post : Except OrchestratorError Result → Custody → Prop} {status : ServiceStatus}

theorem follows_revokeMatching (owned : phase.owned = none) (liable : phase.Liable token) :
    Follows strict (fun outcome following => outcome = .ok () ∧ SameStand phase following ∧
      following.owned = none ∧ following.Clean ∧
      (phase.known = some token → following.known = some none))
      (revokeMatching token) phase := by
  cases token with
  | none => exact ⟨rfl, .refl phase, owned, liable.clean, id⟩
  | some token => ?_
  refine follows_operation owned fun reply expected => ?_
  obtain ⟨shape, matching⟩ := expected
  cases reply with
  | none =>
    have unknown : phase.known ≠ some (some token) := fun known => by cases matching known
    refine ⟨rfl, ⟨rfl, rfl, rfl⟩, owned, ?_, fun known => absurd known unknown⟩
    obtain ⟨nothing, covered⟩ | ⟨created, same, pending, covered⟩ := liable
    · refine ⟨(if_neg ?_).trans nothing, .inl (covered.resolve_right unknown)⟩
      rw [nothing]
      exact Pending.noConfusion
    · cases same
      exact ⟨if_pos pending, .inl covered⟩
  | some taken =>
    exact ⟨rfl, fun _ following leads => leads.2 ▸
      ⟨rfl, ⟨rfl, rfl, rfl⟩, rfl, ⟨rfl, .inr rfl⟩, fun _ => rfl⟩⟩

theorem follows_storeGuard {token : Token} (owned : phase.owned = some token)
    (startup : Option ServiceStartup) :
    Follows strict (fun outcome following => SameStand phase following ∧ following.owned = none ∧
      match outcome with
      | .ok _ => following.pending = .nothing ∧ following.known = some (some token)
      | .error _ => following = { phase with owned := none })
      (storeGuard service token startup) phase := by
  cases startup with
  | none => exact ⟨owned, fun _ following leads => leads.2 ▸ ⟨⟨rfl, rfl, rfl⟩, rfl, rfl, rfl⟩⟩
  | some => ?_
  refine follows_operation owned fun rejected expected => ?_
  cases rejected with
  | none => exact ⟨⟨rfl, rfl, rfl⟩, rfl, rfl, rfl⟩
  | some =>
    cases expected.resolve_left (Option.some_ne_none _)
    exact ⟨owned, fun _ following leads => leads.2 ▸ ⟨⟨rfl, rfl, rfl⟩, rfl, rfl⟩⟩

theorem follows_createServiceTokenGuard (owned : phase.owned = none) (clean : phase.Clean)
    (resolved : ServiceConfig) (startup : Option ServiceStartup) :
    Follows strict (fun outcome following => SameStand phase following ∧ following.owned = none ∧
      match outcome with
      | .ok token => following.Liable token ∧ following.pending = .nothing ∧
          (phase.known = some none → following.known = some token)
      | .error _ => following.Clean)
      (createServiceTokenGuard service resolved startup) phase := by
  unfold createServiceTokenGuard
  cases resolved.permissions with
  | none => exact ⟨.refl phase, owned, clean.liable, clean.1, id⟩
  | some => ?_
  refine follows_operation owned fun created _ => ?_
  cases created with
  | error => exact ⟨.refl phase, owned, clean⟩
  | ok token => ?_
  change Follows strict _ (storeGuard service token startup >>= fun _ =>
    pure (some token)) _
  refine follows_bind_of (follows_storeGuard rfl startup) ?_ ?_
  · intro _ following holds
    obtain ⟨same, ownedNothing, nothing, known⟩ := holds
    exact ⟨⟨same.role, same.place, same.resolved⟩, ownedNothing, .inl ⟨nothing, .inr known⟩,
      nothing, fun _ => known⟩
  · intro _ following holds
    refine ⟨⟨holds.1.role, holds.1.place, holds.1.resolved⟩, holds.2.1, ?_⟩
    rw [holds.2.2]
    exact clean

/-! ### Processes -/

theorem follows_registerProcess {spawned : SpawnedProcess}
    (place : phase.place = .spawned spawned.handle.process) (owned : phase.owned = none)
    (token : Option Token) :
    Follows strict (fun outcome following => outcome.isOk ∧ following.role = phase.role ∧
      following.place = .rest ∧ following.Idle) (registerProcess spawned token) phase := by
  refine follows_operation trivial fun registered expected => ?_
  cases registered with
  | error => cases expected
  | ok =>
    refine follows_operation place fun _ _ => ?_
    refine follows_operation rfl fun _ _ => ?_
    exact ⟨rfl, rfl, rfl, ⟨.inl rfl, owned⟩, rfl, .inl rfl⟩

theorem follows_spawnServiceWithTokenGuard (place : phase.place = .cleared)
    (owned : phase.owned = none) (liable : phase.Liable token)
    (unresolved : context.resolvedConfig = none → phase.Clean) :
    Follows strict (fun outcome following => following.role = phase.role ∧ following.Idle ∧
      following.place = if outcome.isOk then .rest else .cleared)
      (spawnServiceWithTokenGuard context token) phase := by
  refine follows_require (fun _ _ => ?_)
    fun missing => ⟨rfl, ⟨⟨.inr place, owned⟩, unresolved missing⟩, place⟩
  refine follows_operation place fun spawned _ => ?_
  cases spawned with
  | ok spawned =>
    have placed : (phase.after .spawnProcess (.ok spawned)).place =
      .spawned spawned.handle.process := rfl
    refine (follows_registerProcess placed owned token).mono fun outcome following holds => ?_
    rw [if_pos holds.1]
    exact ⟨holds.2.1, holds.2.2.2, holds.2.2.1⟩
  | error =>
    refine follows_then (follows_revokeMatching owned liable) ?_
    rintro following ⟨same, ownedNothing, clean, _⟩
    have placed : following.place = .cleared := same.place.trans place
    exact ⟨same.role, ⟨⟨.inr placed, ownedNothing⟩, clean⟩, placed⟩

/-- A program that is made of neutral operations and cannot fail. -/
def Passes (strict : Bool) (program : Lifecycle Unit) : Prop :=
  ∀ phase, Follows strict
    (fun outcome following => (∃ result, outcome = .ok result) ∧ following = phase) program phase

theorem Passes.bind {continuation : Unit → Lifecycle Result} (passes : Passes strict program)
    (rest : Follows strict post (continuation ()) phase) :
    Follows strict post (program >>= continuation) phase :=
  follows_bind_of (passes phase) (fun _ _ holds => holds.2 ▸ rest)
    fun _ _ holds => nomatch holds.1

theorem passes_spawnAuxiliaryTasks (context : FetchedContext) (attached : ServiceInstance) :
    Passes strict (spawnAuxiliaryTasks context attached) := by
  intro phase
  refine (only_spawnAuxiliaryTasks ..).follows fun operation neutral => ?_
  obtain ⟨allowed, stays⟩ := @neutral_operation phase operation neutral
  exact ⟨allowed, fun reply _ leads => leads.2.trans (stays reply)⟩

/-- The same custody but for the place and the cover of the guard. -/
def SameTokens (phase following : Custody) : Prop :=
  following = { phase with place := following.place, covered := following.covered }

theorem follows_setStatusUnless (inactive : status.isRunning = false)
    (steady : phase.place.isSteady) (skipStatusUpdate : Bool) :
    Follows strict (fun outcome following => outcome = .ok () ∧ SameTokens phase following ∧
      following.place.isSteady ∧ (phase.place = .cleared → following.place = .cleared))
      (setStatusUnless skipStatusUpdate status) phase := by
  cases skipStatusUpdate with
  | true => exact ⟨rfl, rfl, steady, id⟩
  | false => ?_
  refine follows_operation steady fun _ _ => ⟨rfl, rfl, ?_, ?_⟩
  · change (phase.entered status).place.isSteady
    simp only [entered, inactive, false_eq_true, if_false]
    split <;> rfl
  · intro cleared
    change (phase.entered status).place = .cleared
    simp only [entered, inactive, false_eq_true, if_false, cleared]

theorem follows_shutDown {handle : Option ProcessHandle}
    (taken : ∀ found, handle = some found → phase.place = .removed found.process)
    (missing : handle = none → phase.place = .cleared) :
    Follows strict (fun outcome following => outcome = .ok () ∧ SameTokens phase following ∧
      following.place = .cleared) (shutDown handle) phase := by
  cases handle with
  | none => exact ⟨rfl, rfl, missing rfl⟩
  | some handle =>
    refine follows_operation (taken handle rfl) fun _ _ => ?_
    exact ⟨trivial, fun _ _ leads => ⟨rfl, leads.2 ▸ rfl, leads.2 ▸ rfl⟩⟩

theorem SameTokens.trans {first second third : Custody} (one : SameTokens first second)
    (two : SameTokens second third) : SameTokens first third := by
  rw [SameTokens] at one two ⊢
  rw [two, one]

theorem isSteady_of_cleared (cleared : phase.place = .cleared) : phase.place.isSteady := by
  rw [cleared]
  rfl

/-- A stop leaves no process behind. What is known about tokens stays known. -/
theorem follows_stopProcess (steady : phase.place.isSteady) (skipStatusUpdate : Bool) :
    Follows strict (fun outcome following => outcome = .ok () ∧ SameTokens phase following ∧
      following.place = .cleared) (stopProcess skipStatusUpdate) phase := by
  refine follows_then (follows_setStatusUnless rfl steady skipStatusUpdate) ?_
  rintro stopping ⟨first, steady, _⟩
  refine follows_operation steady fun handle _ => ?_
  have second : SameTokens stopping (stopping.after (.command .removeProcessHandle) handle) := by
    cases handle <;> rfl
  refine follows_then (follows_shutDown ?_ ?_) ?_
  · rintro found rfl
    rfl
  · rintro rfl
    rfl
  rintro shut ⟨third, cleared⟩
  refine follows_neutral rfl fun _ => follows_neutral rfl fun _ => ?_
  refine follows_then
    (follows_setStatusUnless rfl (isSteady_of_cleared cleared) skipStatusUpdate) ?_
  rintro stopped ⟨fourth, _, stillCleared⟩
  refine follows_neutral rfl fun _ => ⟨rfl, ?_, stillCleared cleared⟩
  exact first.trans (second.trans (third.trans fourth))

/-! ### Startups -/

/-- A check of the claim changes nothing, but may show that no process is there. -/
def Checked (phase following : Custody) : Prop :=
  following = phase ∨ following = { phase with place := .cleared }

section

variable {following : Custody} (checked : Checked phase following)

include checked

theorem Checked.role : following.role = phase.role := by
  obtain rfl | rfl := checked <;> rfl

theorem Checked.settled (settled : phase.Settled) : following.Settled := by
  obtain rfl | rfl := checked
  · exact settled
  · exact ⟨.inr rfl, settled.2⟩

theorem Checked.liable (liable : phase.Liable token) : following.Liable token := by
  obtain rfl | rfl := checked <;> exact liable

theorem Checked.idle (idle : phase.Idle) : following.Idle := by
  refine ⟨checked.settled idle.1, ?_⟩
  obtain rfl | rfl := checked <;> exact idle.2

end

theorem checked_getServiceStartup (settled : phase.Settled) (current : Option ServiceStartup) :
    Checked phase (phase.after (.command .getServiceStartup) current) ∧
      (current.isSome → (phase.after (.command .getServiceStartup) current).place = .cleared) := by
  change Checked phase (if _ then _ else _) ∧ (_ → (if _ then _ else _ : Custody).place = _)
  obtain rest | cleared := settled.1
  · cases current with
    | none => exact ⟨.inl rfl, nofun⟩
    | some found =>
      rw [if_pos (by rw [rest]; rfl)]
      exact ⟨.inr rfl, fun _ => rfl⟩
  · rw [if_neg (by rw [cleared]; cases current <;> exact false_ne_true)]
    exact ⟨.inl rfl, fun _ => cleared⟩

theorem follows_ensureServiceStartup (settled : phase.Settled) (startup : ServiceStartup) :
    Follows strict (fun outcome following => Checked phase following ∧
      (outcome.isOk → following.place = .cleared))
      (ensureServiceStartup service startup) phase := by
  refine follows_operation trivial fun current _ => ?_
  obtain ⟨checked, cleared⟩ := checked_getServiceStartup settled current
  split
  · next found => exact ⟨checked, fun _ => cleared (by rw [found]; rfl)⟩
  · exact ⟨checked, nofun⟩

theorem follows_ensure_held {startup : ServiceStartup} (held : phase.place = .held (some startup)) :
    Follows strict (fun outcome following => outcome = .ok () ∧ following = phase)
      (ensureServiceStartup service startup) phase := by
  refine follows_operation trivial fun current expected => ?_
  have found : current = some startup := expected startup held
  subst found
  rw [if_pos rfl]
  refine ⟨rfl, if_neg ?_⟩
  rw [held]
  exact false_ne_true

theorem follows_advance (settled : phase.Settled) (startup : ServiceStartup)
    (inactive : status.isRunning = false) (skipReason : Option String) :
    Follows strict (fun outcome following => Checked phase following ∧
      (outcome.isOk → following.place = .cleared))
      (advance service startup status skipReason) phase := by
  refine follows_operation ⟨settled.1, inactive⟩ fun moved _ => ?_
  cases moved with
  | true => exact ⟨.inr rfl, fun _ => rfl⟩
  | false => exact ⟨.inl rfl, nofun⟩

theorem Clean.owed (clean : phase.Clean) : phase.owed = .nothing := by
  obtain ⟨nothing, covered⟩ := clean
  unfold Custody.owed
  split
  · exact nothing
  · next uncovered =>
    rw [covered.resolve_left uncovered]

theorem Idle.pausable (idle : phase.Idle) : phase.Pausable :=
  ⟨idle.1, idle.2.2.imp id fun known => by rw [known]; rfl⟩

theorem Idle.afterPause (idle : phase.Idle) : phase.afterPause.Idle := by
  unfold Custody.afterPause
  split
  · exact ⟨⟨.inl rfl, rfl⟩, idle.2.owed, .inl rfl⟩
  · exact idle

theorem role_afterPause : phase.afterPause.role = phase.role := by
  unfold Custody.afterPause
  split <;> rfl

/-- A part of a startup that leaves nothing with the task, however it ends. -/
def KeepsIdle (strict : Bool) {Result : Type} (program : Lifecycle Result) : Prop :=
  ∀ phase : Custody, phase.Idle →
    Follows strict (fun _ following => following.role = phase.role ∧ following.Idle) program phase

section

variable {Result Other : Type} {program : Lifecycle Result}
  {continuation : Result → Lifecycle Other}

theorem KeepsIdle.pure (result : Result) :
    KeepsIdle strict (Pure.pure result : Lifecycle Result) :=
  fun _ idle => ⟨rfl, idle⟩

theorem KeepsIdle.bind (first : KeepsIdle strict program)
    (rest : ∀ result, KeepsIdle strict (continuation result)) :
    KeepsIdle strict (program >>= continuation) := by
  intro phase idle
  refine follows_bind_of (first phase idle) (fun result following holds => ?_)
    fun _ _ holds => holds
  refine (rest result following holds.2).mono fun _ _ next => ?_
  exact ⟨next.1.trans holds.1, next.2⟩

theorem KeepsIdle.attempt (first : KeepsIdle strict program) : KeepsIdle strict program.attempt :=
  fun phase idle => follows_attempt.mpr (first phase idle)

theorem KeepsIdle.neutral {continuation : operation.Reply → Lifecycle Other}
    (neutral : operation.isNeutral) (rest : ∀ reply, KeepsIdle strict (continuation reply)) :
    KeepsIdle strict (perform operation >>= continuation) :=
  fun phase idle => follows_neutral neutral fun reply => rest reply phase idle

theorem KeepsIdle.check (answer : Except OrchestratorError Result) :
    KeepsIdle strict (check answer) := by
  intro phase idle
  cases answer <;> exact ⟨rfl, idle⟩

theorem KeepsIdle.require (answer : Option Result) :
    KeepsIdle strict (require answer) := by
  intro phase idle
  cases answer <;> exact ⟨rfl, idle⟩

end

theorem allows_pause (pause : operation.isPause) (pausable : phase.Pausable) :
    phase.Allows operation := by
  cases operation with
  | runHook hook => cases hook <;> first | exact fun _ => pausable | cases pause
  | _ => first | exact fun _ => pausable | cases pause

theorem after_pause (pause : operation.isPause) (reply : operation.Reply) :
    phase.after operation reply = phase.afterPause := by
  cases operation with
  | runHook hook => cases hook <;> first | rfl | cases pause
  | _ => first | rfl | cases pause

theorem KeepsIdle.pause {continuation : operation.Reply → Lifecycle Result}
    (pause : operation.isPause) (rest : ∀ reply, KeepsIdle strict (continuation reply)) :
    KeepsIdle strict (perform operation >>= continuation) := by
  intro phase idle
  refine follows_operation (allows_pause pause idle.pausable) fun reply _ => ?_
  rw [after_pause pause]
  refine (rest reply _ idle.afterPause).mono fun _ _ holds => ?_
  exact ⟨holds.1.trans role_afterPause, holds.2⟩

theorem KeepsIdle.getServiceContext {continuation : Option FetchedContext → Lifecycle Result}
    (rest : ∀ found, KeepsIdle strict (continuation found)) :
    KeepsIdle strict (command .getServiceContext >>= continuation) := by
  intro phase idle
  refine follows_operation trivial fun found expected => ?_
  obtain ⟨context, rfl, known, _⟩ := expected
  obtain ⟨settled, nothing, clean⟩ := idle
  have kept : (phase.after (.command .getServiceContext) (some context)).Idle := by
    refine ⟨settled, ?_, ?_⟩
    · exact (if_neg (by rw [nothing]; exact Pending.noConfusion)).trans nothing
    · refine clean.imp (fun covered => ?_) fun empty => congrArg some (known none empty)
      exact and_eq_true_iff.mpr ⟨covered, by rw [nothing]; rfl⟩
  exact rest (some context) _ kept

section

variable (service) (startup : ServiceStartup) (skipCondition noDeps : Bool)

theorem KeepsIdle.ensureServiceStartup : KeepsIdle strict (ensureServiceStartup service startup) :=
  fun _ idle => (follows_ensureServiceStartup idle.1 startup).mono fun _ _ holds =>
    ⟨holds.1.role, holds.1.idle idle⟩

theorem KeepsIdle.advance (inactive : status.isRunning = false) (skipReason : Option String) :
    KeepsIdle strict (advance service startup status skipReason) :=
  fun _ idle => (follows_advance idle.1 startup inactive skipReason).mono fun _ _ holds =>
    ⟨holds.1.role, holds.1.idle idle⟩

theorem keepsIdle_resolveLaunch (skipCondition : Bool) :
    KeepsIdle strict (resolveLaunch service startup skipCondition) := by
  refine .pause rfl fun answer => .bind (.check answer) fun resolved => ?_
  intro phase idle
  refine follows_operation trivial fun _ _ => ?_
  refine KeepsIdle.getServiceContext (fun found => ?_) { phase with resolved := _ } idle
  refine .bind (.require found) fun context => ?_
  refine .bind (.ensureServiceStartup service startup) fun _ => ?_
  split
  · exact .bind (.advance service startup rfl _) fun _ => .pure none
  · exact .pure (some context)

theorem keepsIdle_waitForDependencies (noDeps : Bool) :
    KeepsIdle strict (waitForDependencies noDeps) := by
  cases noDeps with
  | true => exact .pure ()
  | false => exact .pause rfl .check

theorem keepsIdle_prepareServiceLaunch (inactive : status.isRunning = false)
    (skipCondition noDeps : Bool) :
    KeepsIdle strict (prepareServiceLaunch service startup status skipCondition noDeps) := by
  refine .bind (.ensureServiceStartup service startup) fun _ => ?_
  refine .getServiceContext fun found => .bind (.require found) fun _ => ?_
  refine .bind (keepsIdle_waitForDependencies noDeps) fun _ => ?_
  refine .bind (.advance service startup inactive none) fun _ => ?_
  exact keepsIdle_resolveLaunch service startup skipCondition

theorem Liable.pausable (liable : phase.Liable token) (settled : phase.Settled) :
    phase.Pausable := by
  refine ⟨settled, ?_⟩
  obtain ⟨_, covered | known⟩ | ⟨_, _, _, covered⟩ := liable
  · exact .inl covered
  · exact .inr (by rw [known]; rfl)
  · exact .inl covered

theorem Liable.owed (liable : phase.Liable token) :
    phase.owed = .nothing ∨ ∃ created, token = some created ∧ phase.owed = .token created := by
  unfold Custody.owed
  split
  · obtain ⟨nothing, _⟩ | ⟨created, same, pending, _⟩ := liable
    · exact .inl nothing
    · exact .inr ⟨created, same, pending⟩
  · next uncovered =>
    obtain ⟨_, known⟩ | ⟨_, _, _, covered⟩ := liable
    · rw [known.resolve_left uncovered]
      cases token with
      | none => exact .inl rfl
      | some created => exact .inr ⟨created, rfl, rfl⟩
    · exact absurd covered uncovered

theorem Liable.afterPause (liable : phase.Liable token) : phase.afterPause.Liable token := by
  have owed := liable.owed
  unfold Custody.afterPause
  split
  · obtain nothing | ⟨created, same, pending⟩ := owed
    · exact .inl ⟨nothing, .inl rfl⟩
    · exact .inr ⟨created, same, pending, rfl⟩
  · exact liable

theorem Settled.afterPause (settled : phase.Settled) : phase.afterPause.Settled := by
  unfold Custody.afterPause
  split
  · exact ⟨.inl rfl, rfl⟩
  · exact settled

theorem follows_launchHook (settled : phase.Settled) (liable : phase.Liable token) :
    Follows strict (fun _ following => following = phase.afterPause)
      (launchHook .preStart) phase := by
  refine follows_operation (fun _ => liable.pausable settled) fun outcome _ => ?_
  cases outcome <;> rfl

theorem follows_orRevoke {Result : Type} {token : Option Token} {step : Lifecycle Result}
    {Good : Except OrchestratorError Result → Place → Prop}
    (done : Follows strict (fun outcome following => following.role = phase.role ∧
      following.Settled ∧ following.Liable token ∧ Good outcome following.place) step phase) :
    Follows strict (fun outcome following => following.role = phase.role ∧
      following.Settled ∧ Good outcome following.place ∧
      if outcome.isOk then following.Liable token else following.Clean)
      (orRevoke token step) phase := by
  refine follows_attempt_bind done fun outcome following holds => ?_
  obtain ⟨role, settled, liable, good⟩ := holds
  cases outcome with
  | ok result => exact ⟨role, settled, good, liable⟩
  | error => ?_
  refine follows_then (follows_revokeMatching settled.2 liable) ?_
  rintro last ⟨same, owned, clean, _⟩
  have place : last.place = following.place := same.place
  exact ⟨same.role.trans role, ⟨by rw [place]; exact settled.1, owned⟩, by rw [place]; exact good,
    clean⟩

theorem follows_hookOrRevoke (settled : phase.Settled) (liable : phase.Liable token) :
    Follows strict (fun outcome following => following.role = phase.role ∧ following.Settled ∧
      (phase.role ≠ .startup → following.place = phase.place) ∧
      if outcome.isOk then following.Liable token else following.Clean)
      (orRevoke token (launchHook .preStart)) phase := by
  refine @follows_orRevoke phase strict Unit token _
    (fun _ place => phase.role ≠ .startup → place = phase.place) ?_
  refine (follows_launchHook settled liable).mono fun outcome following paused => ?_
  rw [paused]
  refine ⟨role_afterPause, settled.afterPause, liable.afterPause, fun different => ?_⟩
  rw [Custody.afterPause, if_neg different]

theorem follows_ensureOrRevoke (settled : phase.Settled) (liable : phase.Liable token) :
    Follows strict (fun outcome following => following.role = phase.role ∧ following.Settled ∧
      (outcome.isOk → following.place = .cleared) ∧
      if outcome.isOk then following.Liable token else following.Clean)
      (orRevoke token (ensureServiceStartup service startup)) phase := by
  refine @follows_orRevoke phase strict Unit token _
    (fun outcome place => outcome.isOk → place = .cleared) ?_
  refine (follows_ensureServiceStartup settled startup).mono fun outcome following holds => ?_
  exact ⟨holds.1.role, holds.1.settled settled, holds.1.liable liable, holds.2⟩

theorem Passes.keepsIdle (passes : Passes strict program) : KeepsIdle strict program :=
  fun phase idle => (passes phase).mono fun _ following holds => by
    rw [holds.2]
    exact ⟨rfl, idle⟩

theorem keepsIdle_hook (alone : hookType ≠ .preStart) : KeepsIdle strict (hook hookType) :=
  .neutral (bne_iff_ne.mpr alone) fun _ => .pure ()

theorem keepsIdle_markInitialized (initialized : Bool) :
    KeepsIdle strict (markInitialized initialized) := by
  cases initialized with
  | true => exact .pure ()
  | false => exact .neutral rfl fun _ => .check _

theorem keepsIdle_startServiceProcess (context : FetchedContext) :
    KeepsIdle strict (startServiceProcess service startup context) := by
  refine .bind (.ensureServiceStartup service startup) fun _ => ?_
  intro phase idle
  refine follows_require (fun resolved found => ?_) fun _ => ⟨rfl, idle⟩
  refine follows_neutral rfl fun initialized => follows_neutral rfl fun _ => ?_
  -- The token is owed for from here on, until a process is there that takes it with it.
  refine follows_bind_of
    (follows_createServiceTokenGuard idle.1.2 idle.2 resolved (some startup)) ?_
    fun _ following holds => ⟨holds.1.role, ⟨by rw [holds.1.place]; exact idle.1.1, holds.2.1⟩,
      holds.2.2⟩
  rintro token created ⟨same, owned, liable, _⟩
  have settled : created.Settled := ⟨by rw [same.place]; exact idle.1.1, owned⟩
  refine follows_bind_of (follows_hookOrRevoke settled liable) ?_
    fun _ following holds => ⟨holds.1.trans same.role, holds.2.1, holds.2.2.2⟩
  rintro _ hooked ⟨hookedRole, hookedSettled, _, hookedLiable⟩
  refine follows_bind_of (follows_ensureOrRevoke service startup hookedSettled hookedLiable) ?_
    fun _ following holds => ⟨holds.1.trans (hookedRole.trans same.role), holds.2.1, holds.2.2.2⟩
  rintro _ ensured ⟨ensuredRole, ensuredSettled, cleared, ensuredLiable⟩
  have role : ensured.role = phase.role := ensuredRole.trans (hookedRole.trans same.role)
  refine follows_bind_of (follows_spawnServiceWithTokenGuard (cleared rfl)
    ensuredSettled.2 ensuredLiable fun missing => by rw [found] at missing; cases missing) ?_
    fun _ following holds => ⟨holds.1.trans role, holds.2.1⟩
  rintro registered spawned ⟨spawnedRole, spawnedIdle, _⟩
  have ending : KeepsIdle strict (do
      hook .postStart
      markInitialized initialized
      return registered : Lifecycle ServiceInstance) :=
    .bind (keepsIdle_hook nofun) fun _ =>
      .bind (keepsIdle_markInitialized initialized) fun _ => .pure registered
  exact (ending spawned spawnedIdle).mono fun _ _ holds =>
    ⟨holds.1.trans (spawnedRole.trans role), holds.2⟩

theorem keepsIdle_executeServiceStartup :
    KeepsIdle strict (executeServiceStartup service startup skipCondition noDeps) := by
  refine .bind (keepsIdle_prepareServiceLaunch service startup rfl skipCondition noDeps)
    fun prepared => ?_
  cases prepared with
  | none => exact .pure ()
  | some context =>
    exact .bind (keepsIdle_startServiceProcess service startup context) fun registered =>
      (passes_spawnAuxiliaryTasks context registered).keepsIdle

theorem keepsIdle_transition {continuation : Bool → Lifecycle Result} {startup : ServiceStartup}
    {skipReason failReason : Option String} (inactive : status.isRunning = false)
    (rest : ∀ moved, KeepsIdle strict (continuation moved)) :
    KeepsIdle strict (command
      (.transitionServiceStartup startup status skipReason failReason) >>= continuation) := by
  intro phase idle
  refine follows_operation ⟨idle.1.1, inactive⟩ fun moved _ => ?_
  cases moved with
  | true =>
    have cleared : Idle { phase with place := .cleared } := ⟨⟨.inr rfl, idle.1.2⟩, idle.2⟩
    exact rest true _ cleared
  | false => exact rest false _ idle

theorem keepsIdle_handleServiceLaunchResult (outcome : Except OrchestratorError Unit) :
    KeepsIdle strict (handleServiceLaunchResult startup outcome) := by
  unfold handleServiceLaunchResult
  split
  · exact .pure ()
  · exact keepsIdle_transition rfl fun _ => .pure ()
  · exact keepsIdle_transition rfl fun _ => .pure ()
  · exact .pure ()
  · intro phase idle
    refine follows_operation trivial fun current _ => ?_
    obtain ⟨checked, _⟩ := checked_getServiceStartup idle.1 current
    split
    · refine (keepsIdle_transition rfl (fun moved => ?_) _ (checked.idle idle)).mono
        fun _ _ holds => ⟨holds.1.trans checked.role, holds.2⟩
      cases moved <;> exact fun _ idle => ⟨rfl, idle⟩
    · exact ⟨checked.role, checked.idle idle⟩

theorem keepsIdle_runServiceStartup :
    KeepsIdle strict (runServiceStartup service startup skipCondition noDeps) :=
  .bind (keepsIdle_executeServiceStartup service startup skipCondition noDeps).attempt
    fun outcome => keepsIdle_handleServiceLaunchResult startup outcome

theorem keepsIdle_executeManualRestart :
    KeepsIdle strict (executeManualRestart service startup skipCondition noDeps) := by
  refine .bind (.ensureServiceStartup service startup) fun _ => ?_
  refine .neutral rfl fun counted => .bind (.check _) fun _ => ?_
  refine .bind (keepsIdle_prepareServiceLaunch service startup rfl skipCondition noDeps)
    fun prepared => ?_
  cases prepared with
  | none => exact .pure ()
  | some context =>
    refine .neutral rfl fun cleared => .bind (.check _) fun _ => ?_
    refine .bind (keepsIdle_startServiceProcess service startup context) fun registered => ?_
    exact .bind (keepsIdle_hook nofun) fun _ =>
      (passes_spawnAuxiliaryTasks context registered).keepsIdle

theorem keepsIdle_runManualRestartStartup :
    KeepsIdle strict (runManualRestartStartup service startup skipCondition noDeps) :=
  .bind (keepsIdle_executeManualRestart service startup skipCondition noDeps).attempt
    fun outcome => keepsIdle_handleServiceLaunchResult startup outcome

theorem Idle.final (idle : phase.Idle) : phase.Final strict :=
  ⟨idle.1.1, fun _ => ⟨idle.1.2, idle.2⟩⟩

theorem idle_of_role (role : Role) : Idle { role } := ⟨⟨.inl rfl, rfl⟩, rfl, .inl rfl⟩

theorem idle_of_claim (role : Role) : Idle { role, place := .cleared } :=
  ⟨⟨.inr rfl, rfl⟩, rfl, .inl rfl⟩

theorem entered_of_cleared (inactive : status.isRunning = false)
    (cleared : phase.place = .cleared) : phase.entered status = phase := by
  cases phase
  cases cleared
  simp [entered, inactive]

theorem follows_setServiceStatus {continuation : Except DaemonError Unit → Lifecycle Result}
    (inactive : status.isRunning = false) (cleared : phase.place = .cleared)
    (rest : ∀ reply, Follows strict post (continuation reply) phase) :
    Follows strict post (command (.setServiceStatus status) >>= continuation) phase := by
  refine follows_operation (isSteady_of_cleared cleared) fun reply _ => ?_
  change Follows strict _ _ (phase.entered status)
  rw [entered_of_cleared inactive cleared]
  exact rest reply

theorem follows_startService :
    Ends strict (startService service skipCondition noDeps) { role := .startup } := by
  refine follows_operation rfl fun claimed _ => ?_
  cases claimed with
  | none => exact (idle_of_role _).final
  | some startup =>
    exact (keepsIdle_runServiceStartup service startup skipCondition noDeps _
      (idle_of_claim .startup)).mono fun _ _ holds => holds.2.final

/-! ### Stops and manual restarts -/

theorem after_getServiceContext (context : FetchedContext) (nothing : phase.pending = .nothing) :
    phase.after (.command .getServiceContext) (some context) =
      { phase with known := some context.token } := by
  change ({ phase with known := _, covered := _, pending := _ } : Custody) = _
  rw [if_neg (by rw [nothing]; exact Pending.noConfusion), nothing]
  simp

theorem follows_hookOf {context : Option FetchedContext} {continuation : Unit → Lifecycle Result}
    (alone : hookType ≠ .preStart) (rest : Follows strict post (continuation ()) phase) :
    Follows strict post (hookOf context hookType >>= continuation) phase := by
  unfold hookOf
  split
  · exact follows_hook (.inl alone) rest
  · exact rest

/-- The token that was fetched before a stop is revoked after it. -/
theorem follows_revokeMatching_stopped {stopped : Custody} (owned : phase.owned = none)
    (nothing : phase.pending = .nothing) (known : phase.known = some token)
    (same : SameTokens phase stopped) (cleared : stopped.place = .cleared) :
    Follows strict (fun outcome following => outcome = .ok () ∧ following.role = phase.role ∧
      following.place = .cleared ∧ following.Idle ∧ following.known = some none)
      (revokeMatching token) stopped := by
  rw [SameTokens] at same
  have stoppedKnown : stopped.known = some token := by rw [same]; exact known
  refine (follows_revokeMatching (by rw [same]; exact owned)
    (.inl ⟨by rw [same]; exact nothing, .inr stoppedKnown⟩)).mono fun outcome following holds => ?_
  obtain ⟨done, stand, ownedNothing, clean, unknown⟩ := holds
  have place : following.place = .cleared := stand.place.trans cleared
  exact ⟨done, stand.role.trans (by rw [same]), place, ⟨⟨.inr place, ownedNothing⟩, clean⟩,
    unknown stoppedKnown⟩

theorem follows_stopService : Ends strict stopService { role := .other } := by
  refine follows_neutral rfl fun state => ?_
  split
  swap
  · exact (idle_of_role _).final
  refine follows_neutral rfl fun _ => follows_operation trivial fun found expected => ?_
  obtain ⟨context, rfl, _⟩ := expected
  refine follows_hookOf nofun ?_
  refine follows_then (follows_stopProcess rfl false) ?_
  rintro stopped ⟨same, cleared⟩
  refine follows_hookOf nofun (follows_neutral rfl fun _ => ?_)
  exact (follows_revokeMatching_stopped rfl rfl rfl same cleared).mono fun _ _ holds =>
    holds.2.2.2.1.final

/-- The stop phase of a manual restart cannot fail, because the claim stays usable. -/
theorem follows_stopForRestart :
    Follows strict (fun _ following => following.role = .startup ∧ following.Idle)
      (stopForRestart service startup)
      { role := .startup, place := .held (some startup) } := by
  refine follows_then (follows_ensure_held rfl) ?_
  rintro _ rfl
  refine follows_neutral rfl fun _ => follows_operation trivial fun found expected => ?_
  obtain ⟨context, rfl, _⟩ := expected
  refine follows_neutral rfl fun _ => follows_hook (.inl nofun) ?_
  refine follows_then (follows_ensure_held rfl) ?_
  rintro _ rfl
  refine follows_hook (.inl nofun) ?_
  refine follows_then (follows_ensure_held rfl) ?_
  rintro _ rfl
  refine follows_then (follows_stopProcess rfl true) ?_
  rintro stopped ⟨same, cleared⟩
  refine follows_hook (.inl nofun) ?_
  exact (follows_revokeMatching_stopped rfl rfl rfl same cleared).mono fun _ _ holds =>
    ⟨holds.2.1, holds.2.2.2.1⟩

theorem follows_restartRunning :
    Ends strict (restartRunning service skipCondition noDeps) { role := .startup } := by
  refine follows_operation rfl fun claimed _ => ?_
  cases claimed with
  | none => exact (idle_of_role _).final
  | some startup => ?_
  refine follows_attempt_bind (follows_stopForRestart ..)
    fun _ following holds => ?_
  refine follows_neutral rfl fun _ => ?_
  exact (keepsIdle_runManualRestartStartup service startup skipCondition noDeps _ holds.2).mono
    fun _ _ holds => holds.2.final

theorem follows_restartInactive (states : List RestartState) (skipCondition noDeps : Bool) :
    Ends strict (restartInactive service states skipCondition noDeps) { role := .startup } := by
  refine follows_operation rfl fun claimed _ => ?_
  cases claimed with
  | none => exact (idle_of_role _).final
  | some startup =>
    refine follows_neutral rfl fun _ => ?_
    exact (keepsIdle_runServiceStartup service startup skipCondition noDeps _
      (idle_of_claim .startup)).mono fun _ _ holds => holds.2.final

theorem follows_restartService (states : List RestartState) (skipCondition noDeps : Bool) :
    Ends strict (restartService service states skipCondition noDeps) { role := .startup } := by
  have idle := idle_of_role .startup
  refine follows_neutral rfl fun found => ?_
  cases found with
  | none => exact idle.final
  | some state => ?_
  change Follows strict _ (if _ then _ else if _ then _ else if _ then _ else _) _
  split
  · exact idle.final
  split
  · exact follows_restartRunning ..
  split
  · exact follows_restartInactive ..
  · exact idle.final

end

/-! ### Automatic restarts -/

theorem follows_reResolveService (alone : phase.role ≠ .startup)
    (nothing : phase.pending = .nothing) (known : phase.known = some token) :
    Follows strict (fun outcome following =>
      (∃ resolved, following = { phase with resolved }) ∧
      match outcome with
      | .ok context => context.token = token ∧
          (strict → phase.role = .exit → context.resolvedConfig.isSome)
      | .error _ => strict → phase.role = .exit → token = none)
      reResolveService phase := by
  have fetched : ∀ context : FetchedContext, context.token = token →
      phase.after (.command .getServiceContext) (some context) = phase := by
    rintro context rfl
    rw [after_getServiceContext context nothing, ← known]
  refine follows_operation trivial fun found expected => ?_
  obtain ⟨context, rfl, same, _⟩ := expected
  rw [fetched context (same token known)]
  refine follows_operation (fun startup => absurd startup alone) fun answer computed => ?_
  rw [show phase.after .resolveService answer = phase from if_neg alone]
  refine follows_check (fun resolved _ => ?_) fun failure failed =>
    ⟨⟨_, rfl⟩, fun isStrict exit => ?_⟩
  · refine follows_operation trivial fun _ _ => ?_
    refine follows_operation trivial fun refound again => ?_
    obtain ⟨refreshed, rfl, sameAgain, isResolved⟩ := again
    have refreshedToken : refreshed.token = token := sameAgain token known
    rw [after_getServiceContext refreshed (by exact nothing), refreshedToken, ← known]
    exact ⟨⟨_, rfl⟩, refreshedToken, fun isStrict exit =>
      isResolved isStrict (decide_eq_true exit)⟩
  · have empty := (computed isStrict exit (by rw [known]; rfl)).resolve_left
      (by rw [failed]; exact false_ne_true)
    exact Option.some.inj (known.symm.trans empty)

theorem follows_tokenOf (owned : phase.owned = none) (clean : phase.Clean) :
    Follows strict (fun outcome following => SameStand phase following ∧ following.owned = none ∧
      match outcome with
      | .ok token => following.Liable token ∧ following.pending = .nothing ∧
          (phase.known = some none → following.known = some token) ∧
          (context.resolvedConfig = none → token = none)
      | .error _ => following.Clean)
      (tokenOf service context) phase := by
  unfold tokenOf
  split
  · exact ⟨.refl phase, owned, clean.liable, clean.1, id, fun _ => rfl⟩
  · next resolved found =>
    refine (follows_createServiceTokenGuard owned clean ..).mono
      fun outcome following holds => ⟨holds.1, holds.2.1, ?_⟩
    cases outcome with
    | ok token =>
      obtain ⟨_, _, liable, nothing, known⟩ := holds
      exact ⟨liable, nothing, known, fun missing => by rw [found] at missing; cases missing⟩
    | error => exact holds.2.2

theorem follows_executeRestartStartPhase (alone : phase.role ≠ .startup) (idle : phase.Idle)
    (cleared : phase.place = .cleared) (known : phase.known = some none) :
    Follows strict (fun outcome following => following.Idle ∧
      (outcome.isOk = false → following.place = .cleared))
      (executeRestartStartPhase service) phase := by
  refine follows_neutral rfl fun _ => ?_
  refine follows_bind_of (follows_reResolveService alone idle.2.1 known) ?_ ?_
  swap
  · rintro failure _ ⟨⟨resolved, rfl⟩, _⟩
    exact ⟨idle, fun _ => cleared⟩
  rintro context _ ⟨⟨resolved, rfl⟩, _⟩
  refine follows_neutral rfl fun _ => ?_
  refine follows_bind_of (follows_tokenOf idle.1.2 idle.2) ?_ ?_
  swap
  · rintro failure following ⟨stand, owned, clean⟩
    have place : following.place = .cleared := stand.place.trans cleared
    exact ⟨⟨⟨.inr place, owned⟩, clean⟩, fun _ => place⟩
  rintro token created ⟨stand, owned, liable, _, _, unresolved⟩
  have createdPlace : created.place = .cleared := stand.place.trans cleared
  have createdRole : created.role ≠ .startup := stand.role ▸ alone
  refine follows_bind_of (follows_hookOrRevoke ⟨.inr createdPlace, owned⟩ liable) ?_ ?_
  swap
  · rintro failure following ⟨_, settled, place, clean⟩
    exact ⟨⟨settled, clean⟩, fun _ => (place createdRole).trans createdPlace⟩
  rintro _ hooked ⟨_, settled, place, hookedLiable⟩
  have hookedPlace : hooked.place = .cleared := (place createdRole).trans createdPlace
  refine follows_bind_of (follows_spawnServiceWithTokenGuard hookedPlace settled.2
    hookedLiable fun missing => ?_) ?_ ?_
  · have remaining : hooked.Liable token := hookedLiable
    rw [unresolved missing] at remaining
    exact remaining.clean
  · rintro registered spawned ⟨_, spawnedIdle, _⟩
    refine follows_hook (.inl nofun) (follows_hook (.inl nofun) ?_)
    refine (passes_spawnAuxiliaryTasks ..).mono ?_
    rintro _ _ ⟨⟨result, rfl⟩, rfl⟩
    exact ⟨spawnedIdle, nofun⟩
  · rintro failure following ⟨_, spawnedIdle, spawnedPlace⟩
    exact ⟨spawnedIdle, fun _ => spawnedPlace⟩

theorem follows_restartSingleService (reason : RestartReason)
    (alone : phase.role ≠ .startup) (place : phase.place.isSteady) (owned : phase.owned = none)
    (nothing : phase.pending = .nothing) :
    Ends strict (restartSingleService service reason) phase := by
  refine follows_neutral rfl fun _ => follows_neutral rfl fun _ => follows_neutral rfl fun _ => ?_
  refine follows_operation trivial fun found expected => ?_
  obtain ⟨context, rfl, _⟩ := expected
  rw [after_getServiceContext context nothing]
  refine follows_hook (.inl nofun) (follows_hook (.inl nofun) ?_)
  refine follows_then (follows_stopProcess (by exact place) false) ?_
  rintro stopped ⟨same, cleared⟩
  refine follows_hook (.inl nofun) ?_
  refine follows_then (follows_revokeMatching_stopped (by exact owned) (by exact nothing) rfl same
    cleared) ?_
  rintro revoked ⟨role, revokedPlace, idle, known⟩
  refine follows_neutral rfl fun _ => follows_check (fun _ _ => ?_) fun _ _ => idle.final
  refine follows_attempt_bind (follows_executeRestartStartPhase
    (by rw [role]; exact alone) idle revokedPlace known) fun outcome following holds => ?_
  cases outcome with
  | ok _ => exact holds.1.final
  | error => ?_
  have failedPlace : following.place = .cleared := holds.2 rfl
  refine follows_operation (isSteady_of_cleared failedPlace) fun _ _ => ?_
  change (following.entered .failed).Final strict
  rw [entered_of_cleared rfl failedPlace]
  exact holds.1.final

theorem follows_handleFileChange (service : String) :
    Ends strict (handleFileChange service) { role := .other } := by
  refine follows_neutral rfl fun found => ?_
  split
  · exact (idle_of_role _).final
  · exact follows_restartSingleService .watch nofun rfl rfl rfl

theorem follows_handleUnhealthyRestart (service : String) :
    Ends strict (handleUnhealthyRestart service) { role := .other } := by
  have idle := idle_of_role .other
  refine follows_neutral rfl fun raw => ?_
  split
  · refine follows_neutral rfl fun running => ?_
    split
    · exact follows_restartSingleService .unhealthy nofun rfl rfl rfl
    · exact idle.final
  · exact idle.final

theorem follows_propagateRestart (service dependency : String) :
    Ends strict (propagateRestart service dependency) { role := .other } := by
  refine follows_neutral rfl fun running => ?_
  split
  swap
  · exact (idle_of_role _).final
  refine follows_then (follows_stopProcess rfl false) ?_
  rintro stopped ⟨same, cleared⟩
  rw [SameTokens] at same
  refine follows_neutral rfl fun _ => ?_
  exact follows_restartSingleService (.dependencyRestart dependency) (by rw [same]; nofun)
    (by rw [cleared]; rfl) (by rw [same]) (by rw [same])

/-! ### Exits -/

theorem follows_respawn (cleared : phase.place = .cleared) (owned : phase.owned = none)
    (liable : phase.Liable context.token) (resolved : strict → context.resolvedConfig.isSome) :
    Ends strict (respawn context) phase := by
  have spawned : Follows strict (fun outcome following => following.Final strict ∧
      following.place = if outcome.isOk then .rest else .cleared)
      (spawnServiceWithTokenGuard context context.token) phase := by
    cases found : context.resolvedConfig with
    | none =>
      refine follows_require (fun _ present => ?_) fun _ =>
        ⟨⟨.inr cleared, fun isStrict => ?_⟩, cleared⟩
      · rw [found] at present
        cases present
      · have present := resolved isStrict
        rw [found] at present
        cases present
    | some config =>
      refine (follows_spawnServiceWithTokenGuard cleared owned liable fun missing => ?_).mono
        fun outcome following holds => ⟨holds.2.1.final, holds.2.2⟩
      rw [found] at missing
      cases missing
  refine follows_attempt_bind spawned fun outcome following holds => ?_
  obtain ⟨final, place⟩ := holds
  cases outcome with
  | ok registered =>
    refine follows_hook (.inl nofun) (follows_hook (.inl nofun) ?_)
    refine (passes_spawnAuxiliaryTasks context registered).bind ?_
    have steady : following.place.isSteady := by rw [place]; rfl
    exact follows_operation steady fun _ _ => ⟨.inl rfl, final.2⟩
  | error =>
    exact follows_setServiceStatus rfl place fun _ => final

theorem follows_restartAfterExit (exitCode : Option Int) (exit : phase.role = .exit)
    (idle : phase.Idle) (cleared : phase.place = .cleared) (known : phase.known = some none) :
    Ends strict (restartAfterExit service context exitCode) phase := by
  refine follows_neutral rfl fun _ => follows_neutral rfl fun _ => ?_
  refine follows_setServiceStatus rfl cleared fun _ => ?_
  refine follows_neutral rfl fun _ => follows_check (fun _ _ => ?_) fun _ _ => idle.final
  refine follows_neutral rfl fun _ => ?_
  refine follows_attempt_bind (follows_tokenOf idle.1.2 idle.2)
    fun outcome created holds => ?_
  have place : created.place = .cleared := holds.1.place.trans cleared
  have role : created.role ≠ .startup := by rw [holds.1.role, exit]; nofun
  cases outcome with
  | error =>
    obtain ⟨_, owned, clean⟩ := holds
    exact follows_setServiceStatus rfl place fun _ => ⟨.inr place, fun _ => ⟨owned, clean⟩⟩
  | ok token =>
    obtain ⟨stand, owned, _, nothing, becomes, _⟩ := holds
    have createdKnown : created.known = some token := becomes known
    refine follows_hook (.inl nofun) (follows_hook (.inr role) ?_)
    -- From here to the spawn the token is owed for. A failed resolution ends the handler.
    refine follows_bind_of (follows_reResolveService role nothing createdKnown) ?_ ?_
    · rintro refreshed _ ⟨⟨_, rfl⟩, refreshedToken, resolved⟩
      refine follows_respawn place owned ?_
        fun isStrict => resolved isStrict (stand.role.trans exit)
      rw [refreshedToken]
      exact .inl ⟨nothing, .inr createdKnown⟩
    · rintro failure _ ⟨⟨_, rfl⟩, empty⟩
      refine ⟨.inr place, fun isStrict => ⟨owned, nothing, .inr ?_⟩⟩
      rw [← empty isStrict (stand.role.trans exit)]
      exact createdKnown

theorem follows_settleExit {active : Bool} {signal : Option Int} (idle : phase.Idle)
    (cleared : phase.place = .cleared) :
    Ends strict (settleExit active signal) phase := by
  cases active with
  | false => exact idle.final
  | true =>
    exact follows_setServiceStatus (by cases signal <;> rfl) cleared fun _ => idle.final

theorem follows_handleExit (service : String) (exitCode signal : Option Int) :
    Ends strict (handleExit service exitCode signal) { role := .exit, pending := .any } := by
  refine follows_operation trivial fun found expected => ?_
  obtain ⟨context, rfl, _⟩ := expected
  refine follows_neutral rfl fun _ => follows_neutral rfl fun _ => ?_
  refine follows_operation rfl fun _ _ => ?_
  refine follows_hook (.inl nofun) ?_
  refine follows_then (follows_revokeMatching rfl (.inl ⟨rfl, .inr rfl⟩)) ?_
  rintro revoked ⟨stand, owned, clean, known⟩
  have place : revoked.place = .cleared := stand.place
  have idle : revoked.Idle := ⟨⟨.inr place, owned⟩, clean⟩
  refine follows_neutral rfl fun state => ?_
  split
  · exact follows_restartAfterExit exitCode stand.role idle place (known rfl)
  · exact follows_settleExit idle place

def begun (kind : TaskKind) : Custody where
  role := kind.role
  pending := match kind with
    | .exit _ _ => .any
    | .request _ => .nothing

theorem follows_program (service : String) (request : ServiceRequest) :
    Ends strict (request.program service) (begun (.request request)) := by
  cases request with
  | start => exact follows_startService ..
  | restart =>
    exact follows_restartService ..
  | stop => exact follows_stopService
  | fileChange => exact follows_handleFileChange service
  | unhealthy => exact follows_handleUnhealthyRestart service
  | propagate => exact follows_propagateRestart ..

end

end Custody

end Kepler
