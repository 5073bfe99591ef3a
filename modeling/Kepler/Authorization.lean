/-
This file proves what the gates of `handle_request` guarantee about the requests of a token.

A request of a token is carried out only with rights that the token has, except on a config that the
daemon has never seen. The authorizer of a token is asked about every request on a known config,
except when the config is not loaded and its copy has no ACL section.
-/

import Kepler.Gate

namespace Kepler

open Daemon Except Result Option ResolvedAcl

/-! ### What a request needs after the gates have rewritten it -/

variable {auth : AuthContext} {request rewritten : Request} {required : RequiredRights}
  {context : TokenContext} {subject : AclSubject} {accounts : Accounts} {uid gid : UInt32}
  {world : World}

theorem rewritten_of_hardeningGate (gate : hardeningGate auth request = .ok rewritten) :
    rewritten = request ∨ ∃ level : HardeningLevel,
      rewritten = request.withHardening level.text := by
  unfold hardeningGate at gate
  cases auth with
  | root | group => exact .inl (ok.inj gate).symm
  | token uid gid context => ?_
  dsimp only at gate
  cases floor : checkHardeningFloor context request.requestedHardening with
  | error e => simp [floor] at gate
  | ok level =>
    rw [floor] at gate
    cases level with
    | none => exact .inl (ok.inj gate).symm
    | some level => exact .inr ⟨level, (ok.inj gate).symm⟩

theorem requiredRights_of_hardeningGate (gate : hardeningGate auth request = .ok rewritten)
    (needed : requiredRights request = some required) :
    ∃ more, requiredRights rewritten = some more ∧ required.all ⊆ more.all := by
  obtain rfl | ⟨level, rfl⟩ := rewritten_of_hardeningGate gate
  · exact ⟨required, needed, List.Subset.refl _⟩
  · exact requiredRights_withHardening level.text request required needed

theorem extractConfigPath_of_hardeningGate (gate : hardeningGate auth request = .ok rewritten) :
    rewritten.extractConfigPath = request.extractConfigPath := by
  obtain rfl | ⟨level, rfl⟩ := rewritten_of_hardeningGate gate
  · rfl
  · exact Request.extractConfigPath_withHardening level.text request

theorem subset_allow_of_checkStaticRights
    (passed : checkStaticRights accounts subject (.token uid gid context) request = .ok ())
    (needed : requiredRights request = some required) :
    ∀ right ∈ required.all, right ∈ context.allow := by
  unfold checkStaticRights at passed
  cases granted : effectiveRights accounts (.token uid gid context) subject.ownerUid
      subject.acl with
  | error e => simp [granted] at passed
  | ok rights => ?_
  cases rights with
  | none => simp [granted] at passed
  | some =>
    simp only [granted, mapError_eq_ok] at passed
    intro right member
    exact effectiveRights_token_subset granted
      ((checkRights_eq_ok_iff ..).mp passed required needed right member)

theorem checkStaticRights_of_checkAcl (passed : (checkAcl world subject auth request).1 = .ok ()) :
    checkStaticRights world.accounts subject auth request = .ok () := by
  unfold checkAcl at passed
  cases static : checkStaticRights world.accounts subject auth request with
  | error e => simp [static] at passed
  | ok done => rfl

theorem passes_of_executed {daemon : Daemon} {peer : Peer}
    (needed : requiredRights request = some required)
    (executed : (daemon.authorize world peer request).outcome = .ok (auth, rewritten)) :
    ∃ canonical, PassesEarlierGates world auth request rewritten canonical ∧
      (daemon.aclGate world auth rewritten).outcome = .ok () := by
  obtain ⟨_, hardening, files, passed⟩ := authorize_eq_ok.mp executed
  obtain ⟨more, moreNeeded, _⟩ := requiredRights_of_hardeningGate hardening needed
  obtain ⟨rawPath, spelled⟩ :=
    isSome_iff_exists.mp (extractConfigPath_isSome rewritten more moreNeeded)
  obtain ⟨canonical, resolved⟩ := resolves_of_aclGate spelled passed
  exact ⟨canonical, ⟨hardening, files, rawPath, spelled, resolved⟩, passed⟩

theorem aclGate_eq_of_passes {canonical : String}
    (passes : PassesEarlierGates world auth request rewritten canonical) (daemon : Daemon) :
    ((daemon.aclGate world auth rewritten).outcome,
        (daemon.aclGate world auth rewritten).calls) =
      match daemon.aclSubject world canonical with
      | .error e => (.error (.permissionDenied e), [])
      | .ok none => (.ok (), [])
      | .ok (some subject) =>
        ((checkAcl world subject auth rewritten).1.mapError .permissionDenied,
          (checkAcl world subject auth rewritten).2) := by
  obtain ⟨rawPath, spelled, resolved⟩ := passes.resolves
  exact aclGate_eq daemon auth spelled resolved

/-! ### The rights of a token -/

/-- For every token caller: a request that needs rights is carried out only if the token has the
rights that the request needs as it was sent, exactly when this holds for the requests that pass the
earlier gates and name a config that is neither loaded nor has a state directory. -/
theorem token_rights_checked_iff (daemon : Daemon) (world : World) (peer : Peer)
    (request : Request) {uid gid : UInt32} {context : TokenContext} {required : RequiredRights}
    (authenticated : resolveAuth world.accounts peer world.keplerGid daemon.tokens =
      .ok (.token uid gid context))
    (needed : requiredRights request = some required) :
    ((daemon.authorize world peer request).Executes →
        ∀ right ∈ required.all, right ∈ context.allow) ↔
      ((∃ rewritten canonical,
          PassesEarlierGates world (.token uid gid context) request rewritten canonical ∧
          ¬ daemon.Known world canonical) →
        ∀ right ∈ required.all, right ∈ context.allow) := by
  constructor
  · rintro checked ⟨rewritten, canonical, passes, unknown⟩
    have gate := aclGate_eq_of_passes passes daemon
    rw [(not_known_iff ..).mp unknown] at gate
    refine checked ⟨(.token uid gid context, rewritten), authorize_eq_ok.mpr ?_⟩
    exact ⟨authenticated, passes.hardening, passes.filesystem, congrArg Prod.fst gate⟩
  · rintro onUnknown ⟨⟨auth, rewritten⟩, executed⟩
    obtain ⟨same, hardening, _⟩ := authorize_eq_ok.mp executed
    cases authenticated.symm.trans same
    obtain ⟨canonical, passes, passed⟩ := passes_of_executed needed executed
    have gate := congrArg Prod.fst (aclGate_eq_of_passes passes daemon)
    cases found : daemon.aclSubject world canonical with
    | error e => simp [found, passed] at gate
    | ok subject => ?_
    cases subject with
    | none =>
      exact onUnknown ⟨rewritten, canonical, passes,
        (not_known_iff ..).mpr found⟩
    | some =>
      rw [found, passed] at gate
      have static := checkStaticRights_of_checkAcl (mapError_eq_ok.mp gate.symm)
      obtain ⟨more, moreNeeded, contained⟩ := requiredRights_of_hardeningGate hardening needed
      intro right member
      exact subset_allow_of_checkStaticRights static moreNeeded right (contained member)

/-! ### A config that was never seen -/

def singleConfigWorld : World := quietWorld singleConfigTree refusingEngine { services := ∅ }

def statusToken : TokenContext where
  allow := {.status}
  maxHardening := .none
  service := "watcher"
  configPath := "/srv/watch.yaml"
  authorizer := none

def statusTokenDaemon : Daemon := { Daemon.initial with tokens := [(1, statusToken)] }

def watcherPeer : Peer where
  uid := 1000
  gid := 1000
  token := some 1

def startApp : Request := .start { configPath := "/srv/app.yaml" }

/-- The token starts a config that the daemon has never seen without the right to start. -/
theorem statusToken_starts_unseen :
    (statusTokenDaemon.authorize singleConfigWorld watcherPeer startApp).Executes ∧
      requiredRights startApp = some { base := .start, subRights := [] } ∧
      .start ∉ statusToken.allow := by
  refine ⟨by decide +kernel, rfl, by decide⟩

theorem statusToken_rights_checked :
    ((statusTokenDaemon.authorize singleConfigWorld watcherPeer startApp).Executes →
        ∀ right ∈ [Right.start], right ∈ statusToken.allow) ↔
      ((∃ rewritten canonical,
          PassesEarlierGates singleConfigWorld (.token 1000 1000 statusToken) startApp rewritten
            canonical ∧
          ¬ statusTokenDaemon.Known singleConfigWorld canonical) →
        ∀ right ∈ [Right.start], right ∈ statusToken.allow) :=
  token_rights_checked_iff statusTokenDaemon singleConfigWorld watcherPeer startApp
    (by decide +kernel)
    (show requiredRights startApp = some { base := .start, subRights := [] } from rfl)

/-! ### The authorizer of a token -/

/-- The authorizer of a token was called for the request and answered `true`. -/
def TokenAuthorizerAllowed (accounts : Accounts) (uid gid : UInt32) (key : RegistryKey)
    (request : Request) (calls : List LuaCall) : Prop :=
  ∃ context source, buildAuthorizerContext request uid gid (resolveUsername accounts uid)
      (callerGids accounts uid gid) true = some context ∧
    LuaVm.Allowed calls context key source

/-- The config is not loaded, its copy has no ACL section, and the request passes all other checks.
-/
structure PassesWithoutSection (daemon : Daemon) (world : World) (auth : AuthContext)
    (request rewritten : Request) (canonical : String) (dir : StateDir)
    (entry : UnloadedAclEntry) : Prop where
  earlier : PassesEarlierGates world auth request rewritten canonical
  notLoaded : daemon.get world canonical = none
  onDisk : daemon.stateDir world canonical = some dir
  read : daemon.unloadedAclEntry world canonical dir = .ok entry
  noSection : entry.acl = none
  static : checkStaticRights world.accounts (daemon.unloadedSubject entry) auth rewritten = .ok ()

theorem luaHandle_currentAcl (daemon : Daemon) (acl : ResolvedAcl.Ready) :
    ∃ vm, (daemon.currentAcl acl).luaHandle = some vm := by
  obtain ⟨vm, handle⟩ := isSome_iff_exists.mp acl.2
  unfold currentAcl withCompiled
  rw [handle]
  exact ⟨_, rfl⟩

theorem tokenAuthorizerAllowed_of_runAuthorizers {engine : LuaEngine} {acl : ResolvedAcl}
    {vm : LuaVm} {key : RegistryKey} (handle : acl.luaHandle = some vm)
    (carried : context.authorizer = some key) (needed : requiredRights request = some required)
    (passed : (runAuthorizers accounts engine acl (.token uid gid context) request).1 = .ok ()) :
    TokenAuthorizerAllowed accounts uid gid key request
      (runAuthorizers accounts engine acl (.token uid gid context) request).2 := by
  have asked : (authorizerParams request).isSome :=
    (authorizerParams_isSome_iff request).mpr (by rw [needed]; rfl)
  obtain ⟨params, found⟩ := isSome_iff_exists.mp asked
  obtain ⟨tables, built⟩ : ∃ tables, buildAuthorizerContext request uid gid
      (resolveUsername accounts uid) (callerGids accounts uid gid) true = some tables :=
    ⟨_, by rw [buildAuthorizerContext, found]; rfl⟩
  have handed : authorizerContext accounts acl (.token uid gid context) request = some tables := by
    unfold authorizerContext
    rw [if_neg (by simp [AuthContext.tokenAuthorizer, carried])]
    exact built
  refine ⟨tables, ?_⟩
  unfold runAuthorizers at passed ⊢
  simp only [handed, mapError_eq_ok, AuthContext.uid, AuthContext.gid,
    AuthContext.tokenAuthorizer, carried] at passed ⊢
  unfold checkAuthorizers at passed ⊢
  rw [handle] at passed ⊢
  cases collected : collectAuthorizerKeys accounts acl uid gid with
  | error e => simp [collected] at passed
  | ok keys =>
    simp only [collected, toList_some] at passed ⊢
    obtain ⟨source, _, allowed⟩ := LuaVm.evaluateAuthorizers_eq_ok engine vm _ tables passed key
      (List.mem_append_left _ (List.mem_singleton_self key))
    exact ⟨source, built, allowed⟩

/-- For every caller whose token has an authorizer, and every request that needs rights on a config
that is loaded or has a state directory: it is carried out only after the authorizer was called for
it and answered `true`, exactly when it does not pass on a config that is not loaded and whose copy
has no ACL section. -/
theorem token_authorizer_asked_iff (daemon : Daemon) (world : World) (peer : Peer)
    (request : Request) {uid gid : UInt32} {context : TokenContext} {key : RegistryKey}
    {required : RequiredRights} {rawPath canonical : String}
    (authenticated : resolveAuth world.accounts peer world.keplerGid daemon.tokens =
      .ok (.token uid gid context))
    (carried : context.authorizer = some key) (needed : requiredRights request = some required)
    (spelled : request.extractConfigPath = some rawPath)
    (resolved : world.tree.canonicalize rawPath = .ok canonical)
    (known : daemon.Known world canonical) :
    (∀ auth rewritten,
        (daemon.authorize world peer request).outcome = .ok (auth, rewritten) →
        TokenAuthorizerAllowed world.accounts uid gid key rewritten
          (daemon.authorize world peer request).calls) ↔
      ¬ ∃ rewritten dir entry, PassesWithoutSection daemon world (.token uid gid context) request
          rewritten canonical dir entry := by
  constructor
  · rintro asked ⟨rewritten, dir, entry, passes⟩
    have subject : daemon.aclSubject world canonical =
        .ok (some (daemon.unloadedSubject entry)) := by
      simp only [aclSubject, passes.notLoaded, passes.onDisk, passes.read, Except.map]
    have accepted : checkAcl world (daemon.unloadedSubject entry) (.token uid gid context)
        rewritten = (.ok (), []) := by
      rw [checkAcl, passes.static]
      simp only [unloadedSubject, passes.noSection, map_none]
    have gate := aclGate_eq_of_passes passes.earlier daemon
    rw [subject] at gate
    simp only [accepted] at gate
    obtain ⟨outcome, calls⟩ := Prod.mk.inj gate
    have executed : (daemon.authorize ..).outcome =
        .ok (.token uid gid context, rewritten) :=
      authorize_eq_ok.mpr ⟨authenticated, passes.earlier.hardening, passes.earlier.filesystem,
        outcome⟩
    obtain ⟨tables, source, _, allowed⟩ := asked _ _ executed
    rw [calls_of_authorize executed, calls] at allowed
    cases allowed
  · intro noBypass auth rewritten executed
    obtain ⟨same, hardening, _⟩ := authorize_eq_ok.mp executed
    cases authenticated.symm.trans same
    obtain ⟨reached, passes, passed⟩ := passes_of_executed needed executed
    obtain rfl : reached = canonical := by
      obtain ⟨rewrittenPath, rewrittenSpelled, rewrittenResolved⟩ := passes.resolves
      rw [extractConfigPath_of_hardeningGate hardening, spelled] at rewrittenSpelled
      cases rewrittenSpelled
      exact ok.inj (rewrittenResolved.symm.trans resolved)
    obtain ⟨more, moreNeeded, _⟩ := requiredRights_of_hardeningGate hardening needed
    have gate := aclGate_eq_of_passes passes daemon
    rw [passed] at gate
    rw [calls_of_authorize executed]
    -- a section that the gate asked has a machine, and the authorizer ran on it
    have allowed (ownerUid : Option UInt32) (acl : ResolvedAcl.Ready)
        (found : daemon.aclSubject world reached =
          .ok (some ⟨ownerUid, some (daemon.currentAcl acl)⟩)) :
        TokenAuthorizerAllowed world.accounts uid gid key rewritten
          (daemon.aclGate world (.token uid gid context) rewritten).calls := by
      obtain ⟨vm, handle⟩ := luaHandle_currentAcl daemon acl
      rw [found] at gate
      obtain ⟨outcome, calls⟩ := Prod.mk.inj gate
      have accepted := mapError_eq_ok.mp outcome.symm
      rw [calls]
      have static := checkStaticRights_of_checkAcl accepted
      simp only [checkAcl, static] at accepted ⊢
      exact tokenAuthorizerAllowed_of_runAuthorizers handle carried moreNeeded accepted
    cases loaded : daemon.get world reached with
    | some actor => exact allowed _ actor.handle.acl (by rw [aclSubject, loaded]; rfl)
    | none => ?_
    cases onDisk : daemon.stateDir world reached with
    | none => exact absurd known (by simp [Known, loaded, onDisk])
    | some dir => ?_
    cases read : daemon.unloadedAclEntry world reached dir with
    | error e => simp [aclSubject, loaded, onDisk, read, Except.map] at gate
    | ok entry => ?_
    have subject : daemon.aclSubject world reached =
        .ok (some (daemon.unloadedSubject entry)) := by
      simp only [aclSubject, loaded, onDisk, read, Except.map]
    cases noSection : entry.acl with
    | some acl =>
      exact allowed entry.ownerUid acl (by rw [subject, unloadedSubject, noSection]; rfl)
    | none =>
      rw [subject] at gate
      have accepted := mapError_eq_ok.mp (Prod.mk.inj gate).1.symm
      exact absurd ⟨rewritten, dir, entry, passes, loaded, onDisk, read, noSection,
        checkStaticRights_of_checkAcl accepted⟩ noBypass

/-! ### A config on disk without an ACL section -/

def guardedToken : TokenContext where
  allow := {.stop}
  maxHardening := .none
  service := "watcher"
  configPath := "/srv/watch.yaml"
  authorizer := some { machine := 0, slot := 0 }

/-- A config of uid 1000 after a restart of the daemon: it is not loaded, and its copy has no ACL
section. -/
def leftoverDaemon : Daemon :=
  { Daemon.initial with
    stateDirs := (∅ : HashMap String StateDir).insert "/srv/app.yaml"
      { state := some { ownerUid := some 1000 }, configYaml := some "services:" }
    tokens := [(1, guardedToken)]
    nextMachine := 1 }

def stopApp : Request := .stop { configPath := "/srv/app.yaml", clean := false }

/-- The request is carried out and no authorizer is called, although that of the token answers
`false`. -/
theorem guardedToken_stops_unasked :
    leftoverDaemon.Known singleConfigWorld "/srv/app.yaml" ∧
      (leftoverDaemon.authorize singleConfigWorld watcherPeer stopApp).Executes ∧
      (leftoverDaemon.authorize singleConfigWorld watcherPeer stopApp).calls.isEmpty := by
  refine ⟨by decide +kernel, by decide +kernel, by decide +kernel⟩

theorem guardedToken_authorizer_asked :
    (∀ auth rewritten,
        (leftoverDaemon.authorize singleConfigWorld watcherPeer stopApp).outcome =
          .ok (auth, rewritten) →
        TokenAuthorizerAllowed singleConfigWorld.accounts 1000 1000 ⟨0, 0⟩ rewritten
          (leftoverDaemon.authorize singleConfigWorld watcherPeer stopApp).calls) ↔
      ¬ ∃ rewritten dir entry, PassesWithoutSection leftoverDaemon singleConfigWorld
          (.token 1000 1000 guardedToken) stopApp rewritten "/srv/app.yaml" dir entry :=
  token_authorizer_asked_iff leftoverDaemon singleConfigWorld watcherPeer stopApp
    (by decide +kernel) rfl
    (show requiredRights stopApp = some { base := .stop, subRights := [] } from rfl) rfl
    (by decide +kernel) (by decide +kernel)

end Kepler
