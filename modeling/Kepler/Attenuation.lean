/-
This file is about two promises for services that start other services: that from the caller of a
request to the services started for it, rights do not grow and hardening does not decrease.

Both hold for a config that is read from its file. One that is loaded already, or comes from a
snapshot, keeps the ceiling and the level that it has, whoever asks for its services. The
permissions of a service can also name a floor of their own. The promises are kept in all histories
in which the configs that callers with a token ask for meet them from the start.
-/

import Kepler.Histories

namespace Kepler

open Option

def AuthContext.tokenContext : AuthContext → Option TokenContext
  | .token _ _ context => some context
  | .root _ _ | .group _ _ => none

def Startup.caller (startup : Startup) : Option TokenContext :=
  startup.origin.bind fun origin => origin.caller.tokenContext

def Launch.caller (launch : Launch) : Option TokenContext := launch.startup.caller

/-! ### Two configs

Two config files with the same two services. The tool may start configs, and the other service
may stop them. -/

def nestedTree : FileTree String :=
  .fromEntries [
    ([], .directory { mode := 0o755, uid := 0, gid := 0 }),
    (["srv"], .directory { mode := 0o755, uid := 0, gid := 0 }),
    (["srv", "outer.yaml"], .file { mode := 0o644, uid := 0, gid := 0 } "services:"),
    (["srv", "inner.yaml"], .file { mode := 0o644, uid := 0, gid := 0 } "services:")]

def nestedConfig : KeplerConfig where
  services := AList.insert "tool"
    { command := .static (wrapVec ["tool"])
      permissions := some { allow := ["start", "start:hardening"] } } <|
    AList.insert "admin"
      { command := .static (wrapVec ["admin"]), permissions := some { allow := ["stop"] } } ∅

def nestedWorld : World := quietWorld nestedTree refusingEngine nestedConfig

def quietStates : ServiceStates where
  startOrder config := .ok config.services.keys
  claimable _ := true
  initialized _ := false
  restartable _ := false
  allStopped := true
  evaluator := .ok ()
  failure := none
  anyStarted := true
  knownSignal _ := true

def newSystem : System where
  daemon := .initial
  process := { rootDaemon with hardening := .none }
  startups := []
  launches := []

theorem untouched_newSystem : newSystem.Untouched := ⟨rfl, rfl⟩

def startEvent (token : Option Token) (configPath service : String)
    (hardening : Option String) : Event :=
  .request nestedWorld quietStates { uid := 0, gid := 0, token }
    (.start { configPath, services := [service], hardening })

def launchEvent (startup : Nat) (token : Token) : Event :=
  .launch
    { world := nestedWorld
      system := twoUserSystem
      evaluator := .ok staticEvaluator
      evalIfCondition _ := .error "no condition"
      exitCode _ := some 0
      cgroup := none } startup (.ok token)

/-- Root starts the tool of the outer config, and the tool starts itself in the inner one. -/
def freshHistory (hardening : Option String) : List Event :=
  [startEvent none "/srv/outer.yaml" "tool" hardening, launchEvent 0 1,
    startEvent (some 1) "/srv/inner.yaml" "tool" none, launchEvent 1 2]

def sharedHistory (hardening : Option String) : List Event :=
  [startEvent none "/srv/outer.yaml" "tool" hardening, launchEvent 0 1,
    startEvent none "/srv/inner.yaml" "tool" none, launchEvent 1 2,
    startEvent (some 1) "/srv/inner.yaml" "admin" none, launchEvent 2 3]

def Unseen (system : System) (canonical : String) : Prop :=
  (system.daemon.registry.lookup canonical).isNone ∧
    (system.daemon.diskSnapshot nestedWorld canonical).isNone

instance (system : System) (canonical : String) : Decidable (Unseen system canonical) :=
  inferInstanceAs (Decidable (_ ∧ _))

variable {hardening : Option String}

theorem granted_startEvent {demand : Demand} {system : System} {token : Option Token}
    {configPath service : String} (fixed : nestedTree.canonicalize configPath = .ok configPath)
    (unseen : Unseen system configPath)
    (file : ∀ level origin, (demand level origin).file nestedConfig.permissions) :
    demand.Granted system (startEvent token configPath service hardening) := by
  intro caller rawPath canonical _ spelled resolved
  obtain rfl : configPath = rawPath := some.inj spelled
  cases fixed.symm.trans resolved
  simp only [Daemon.MeetsStandard, isNone_iff_eq_none.mp unseen.1,
    isNone_iff_eq_none.mp unseen.2]
  intro contents config _ parsed
  obtain rfl : nestedConfig = config := Except.ok.inj parsed
  exact file _ _

theorem freshHistory_granted {demand : Demand}
    (unseen : Unseen (Runs.run System.step newSystem ((freshHistory hardening).take 2))
      "/srv/inner.yaml")
    (file : ∀ level origin, (demand level origin).file nestedConfig.permissions) :
    Runs.Meets System.step demand.Granted newSystem (freshHistory hardening) :=
  ⟨granted_startEvent (by decide +kernel) (by decide +kernel) file, trivial,
    granted_startEvent (by decide +kernel) unseen file, trivial, trivial⟩

/-! ### The permission ceiling -/

def Launch.WithinCaller (launch : Launch) : Prop :=
  ∀ caller ∈ launch.caller, ∀ created ∈ launch.token, created.allow ⊆ caller.allow

instance (launch : Launch) : Decidable launch.WithinCaller :=
  inferInstanceAs (Decidable (∀ _ ∈ _, _))

/-- A caller with a token asks for a config whose ceiling is within its rights. -/
def ceilingDemand : Demand := fun _ origin =>
  { footing := fun footing => ∀ caller, origin.caller.tokenContext = some caller →
      ∃ ceiling, footing.permissionCeiling = some ceiling ∧ ceiling ⊆ caller.allow
    file := fun _ => True }

theorem ceilingDemand_metByTerms : ceilingDemand.MetByTerms := by
  intro level origin rewritten asked permissions _ _ _ caller byToken
  refine ⟨caller.allow, ?_, Finset.Subset.refl _⟩
  cases found : origin.caller with
  | token =>
    rw [found] at byToken
    cases byToken
    rfl
  | root | group => simp [found, AuthContext.tokenContext] at byToken

variable {permissions : ServicePermissions}

theorem subset_ceiling_of_permittedRights {handle : ConfigActorHandle}
    {allow ceiling : Finset Right} (limited : handle.permissionCeiling = some ceiling)
    (granted : Daemon.permittedRights handle permissions = .ok allow) : allow ⊆ ceiling := by
  obtain ⟨expanded, _, same⟩ := Result.map_eq_ok.mp granted
  rw [limited] at same
  rw [← same]
  exact Finset.inter_subset_right

/-- On a footing under such a ceiling, tokens are within the rights of the caller. -/
theorem withinCaller_of_honors {system : System} (honors : system.Honors ceilingDemand) :
    ∀ launch ∈ system.launches, launch.WithinCaller := by
  intro launch member caller asked created made
  obtain ⟨tokenMade, footing⟩ := honors.launches launch member
  obtain ⟨origin, found, byToken⟩ := bind_eq_some_iff.mp asked
  obtain ⟨ceiling, limited, within⟩ := footing origin found caller byToken
  obtain ⟨permissions, _, rights, _⟩ := tokenMade created made
  exact (subset_ceiling_of_permittedRights limited rights).trans within

/-- In every history in which each caller with a token asks for configs with a ceiling within its
own rights, or for configs that are read from their files, no token that is created for a request
has more rights than the caller. -/
theorem created_allow_subset {system : System} {events : List Event}
    (untouched : system.Untouched)
    (granted : Runs.Meets System.step ceilingDemand.Granted system events) :
    ∀ launch ∈ (Runs.run System.step system events).launches, launch.WithinCaller := by
  have honors := System.honors_run ceilingDemand_metByTerms untouched granted
  exact withinCaller_of_honors honors

theorem tool_within_caller :
    (Runs.run System.step newSystem (freshHistory none)).launches.map
        (fun launch => (launch.caller.isSome, launch.token.isSome)) =
      [(false, true), (true, true)] ∧
    ∀ launch ∈ (Runs.run System.step newSystem (freshHistory none)).launches,
      launch.WithinCaller :=
  ⟨by decide +kernel,
    created_allow_subset untouched_newSystem
      (freshHistory_granted (by decide +kernel) fun _ _ => trivial)⟩

/-- A config that root has loaded has no ceiling: a service that the tool starts there may do what
the tool may not. -/
theorem admin_exceeds_caller :
    ∃ launch ∈ (Runs.run System.step newSystem (sharedHistory none)).launches,
      ¬ launch.WithinCaller := by
  decide +kernel

/-! ### The hardening floor -/

namespace Request

def loads : Request → Bool
  | start _ | run _ | recreate _ => true
  | _ => false

end Request

def Origin.loader (origin : Origin) : Option TokenContext :=
  if origin.request.loads then origin.caller.tokenContext else none

/-- The token with which the config of a launch was started, run or recreated. -/
def Launch.loader (launch : Launch) : Option TokenContext :=
  launch.startup.origin.bind Origin.loader

/-- The service and everything that it can load run at a level not below the floor. -/
def Launch.KeepsFloor (launch : Launch) (floor : HardeningLevel) : Prop :=
  floor ≤ launch.level ∧ ∀ created ∈ launch.token, floor ≤ created.maxHardening

instance (launch : Launch) (floor : HardeningLevel) : Decidable (launch.KeepsFloor floor) :=
  inferInstanceAs (Decidable (_ ∧ _))

/-- The launches that go back to the holder of a token, directly or through the tokens of those. -/
inductive Descends (launches : List Launch) (ancestor : TokenContext) : Launch → Prop where
  | child {launch : Launch} (member : launch ∈ launches) (loaded : launch.loader = some ancestor) :
    Descends launches ancestor launch
  | descendant {parent launch : Launch} {token : TokenContext}
    (line : Descends launches ancestor parent) (held : parent.token = some token)
    (member : launch ∈ launches) (loaded : launch.loader = some token) :
    Descends launches ancestor launch

/-- No service names a floor of its own that is below the given one. -/
def NoLowerFloor (floor : HardeningLevel) (permissions : String → Option ServicePermissions) :
    Prop :=
  ∀ service granted text level, permissions service = some granted →
    granted.hardening = some text → HardeningLevel.fromStr text = .ok level → floor ≤ level

/-- A caller with a token loads a config at a level not below its floor, in which no service names a
lower one. -/
def floorDemand : Demand := fun level origin =>
  { footing := fun footing => ∀ caller, origin.loader = some caller →
      caller.maxHardening ≤ max level (footing.hardening.getD .none) ∧
        NoLowerFloor caller.maxHardening footing.permissions
    file := fun permissions => ∀ caller, origin.loader = some caller →
      NoLowerFloor caller.maxHardening permissions }

theorem floor_le_of_hardeningGate {uid gid : UInt32} {caller : TokenContext}
    {request rewritten : Request} {asked : Option HardeningLevel} (loads : request.loads)
    (gate : Daemon.hardeningGate (.token uid gid caller) request = .ok rewritten)
    (parsed : parseHardening rewritten.requestedHardening = .ok asked) :
    caller.maxHardening ≤ asked.getD .none := by
  unfold Daemon.hardeningGate at gate
  dsimp only at gate
  cases floor : checkHardeningFloor caller request.requestedHardening with
  | error e => simp [floor] at gate
  | ok settled => ?_
  have bound := floor_le_of_checkHardeningFloor floor
  rw [floor] at gate
  cases settled with
  | none => exact le_trans bound (HardeningLevel.none_le _)
  | some level => ?_
  cases gate
  have written : (request.withHardening level.text).requestedHardening =
      some level.text := by
    cases request <;> first | rfl | simp [Request.loads] at loads
  rw [written, parseHardening, HardeningLevel.fromStr_text] at parsed
  cases parsed
  exact bound

theorem floorDemand_metByTerms : floorDemand.MetByTerms := by
  intro level origin rewritten asked permissions gate parsed file caller loaded
  refine ⟨le_max_of_le_right ?_, file caller loaded⟩
  unfold Origin.loader at loaded
  split_ifs at loaded with loads
  cases found : origin.caller with
  | token =>
    rw [found] at gate loaded
    cases loaded
    exact floor_le_of_hardeningGate loads gate parsed
  | root | group => simp [found, AuthContext.tokenContext] at loaded

theorem floor_le_of_tokenHardening {actor : ConfigActor} {daemonLevel floor made : HardeningLevel}
    {service : String} (level : floor ≤ actor.handle.effectiveHardening daemonLevel)
    (noLower : NoLowerFloor floor actor.footing.permissions)
    (stated : actor.footing.permissions service = some permissions)
    (making : Daemon.tokenHardening actor.handle daemonLevel permissions = .ok made) :
    floor ≤ made := by
  unfold Daemon.tokenHardening at making
  cases named : permissions.hardening with
  | none =>
    rw [named] at making
    cases making
    exact level
  | some text =>
    rw [named] at making
    exact noLower service permissions text made stated named (Result.mapError_eq_ok.mp making)

/-- In every history in which each caller with a token loads only configs that meet its floor, the
floor holds for all launches that go back to it. -/
theorem floor_kept {system : System} {events : List Event} (untouched : system.Untouched)
    (granted : Runs.Meets System.step floorDemand.Granted system events)
    {ancestor : TokenContext} {launch : Launch}
    (line : Descends (Runs.run System.step system events).launches ancestor launch) :
    launch.KeepsFloor ancestor.maxHardening := by
  -- one link: the floor of the token that loaded the config
  have link {launch : Launch} {token : TokenContext}
      (member : launch ∈ (Runs.run System.step system events).launches)
      (loaded : launch.loader = some token) : launch.KeepsFloor token.maxHardening := by
    obtain ⟨tokenMade, footing⟩ :=
      (System.honors_run floorDemand_metByTerms untouched granted).launches launch member
    obtain ⟨origin, found, byToken⟩ := bind_eq_some_iff.mp loaded
    obtain ⟨level, noLower⟩ := footing origin found token byToken
    refine ⟨level, fun created made => ?_⟩
    obtain ⟨permissions, stated, _, making⟩ := tokenMade created made
    exact floor_le_of_tokenHardening level noLower stated making
  induction line with
  | child member loaded => exact link member loaded
  | descendant _ held member loaded inductionHypothesis =>
    have bound := inductionHypothesis.2 _ held
    obtain ⟨level, tokens⟩ := link member loaded
    exact ⟨bound.trans level, fun created made => bound.trans (tokens created made)⟩

theorem noLowerFloor_nestedConfig (floor : HardeningLevel) :
    NoLowerFloor floor nestedConfig.permissions := by
  intro service granted text level stated named
  unfold KeplerConfig.permissions nestedConfig at stated
  have unnamed : granted.hardening = none := by
    by_cases tool : service = "tool"
    · subst tool
      rw [AList.lookup_insert] at stated
      rw [← some.inj stated]
    · rw [AList.lookup_insert_ne tool] at stated
      by_cases admin : service = "admin"
      · subst admin
        rw [AList.lookup_insert] at stated
        rw [← some.inj stated]
      · rw [AList.lookup_insert_ne admin] at stated
        cases stated
  rw [unnamed] at named
  cases named

theorem tool_keeps_floor :
    ∃ launch, ∃ ancestor ∈ launch.loader, ancestor.maxHardening = .strict ∧
      launch.token.isSome ∧
      Descends (Runs.run System.step newSystem (freshHistory (some "strict"))).launches ancestor
        launch ∧
      launch.KeepsFloor ancestor.maxHardening := by
  have evaluated : ∃ launch ∈
      (Runs.run System.step newSystem (freshHistory (some "strict"))).launches,
      ∃ ancestor ∈ launch.loader, ancestor.maxHardening = .strict ∧ launch.token.isSome := by
    decide +kernel
  obtain ⟨launch, member, ancestor, loaded, strict, created⟩ := evaluated
  have line := Descends.child member loaded
  exact ⟨launch, ancestor, loaded, strict, created, line,
    floor_kept untouched_newSystem (freshHistory_granted (by decide +kernel)
      fun _ _ _ _ => noLowerFloor_nestedConfig _) line⟩

/-- A config that root has loaded without a level keeps it: a service that the tool starts there
runs below the floor of the tool, with a token that has none. -/
theorem admin_below_floor :
    ∃ launch ancestor,
      Descends (Runs.run System.step newSystem (sharedHistory (some "strict"))).launches ancestor
        launch ∧
      ancestor.maxHardening = .strict ∧ launch.level = .none ∧
      launch.token.map TokenContext.maxHardening = some .none := by
  have evaluated : ∃ launch ∈
      (Runs.run System.step newSystem (sharedHistory (some "strict"))).launches,
      ∃ ancestor ∈ launch.loader, ancestor.maxHardening = .strict ∧ launch.level = .none ∧
        launch.token.map TokenContext.maxHardening = some .none := by
    decide +kernel
  obtain ⟨launch, member, ancestor, loaded, below⟩ := evaluated
  exact ⟨launch, ancestor, .child member loaded, below⟩

end Kepler
