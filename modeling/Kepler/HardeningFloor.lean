/-
This file compares what the gates of `handle_request` make of one request under two hardening floors
of the same token.

The floor of a token is the default level for a request that asks for none. The hardening gate
writes it into the request before the rights are computed, and a request with a level needs a right
of its own for it.
-/

import Kepler.Authorization

namespace Kepler

open RequiredRights Request

/-! ### Requests without a level -/

/-- The request can carry a hardening level, and was sent without one. -/
def Request.LeavesHardening : Request → Prop
  | start fields => fields.hardening = none
  | run fields => fields.hardening = none
  | recreate fields => fields.hardening = none
  | _ => False

instance (request : Request) : Decidable request.LeavesHardening := by
  cases request <;> unfold Request.LeavesHardening <;> infer_instance

variable {request : Request}

theorem requestedHardening_of_leavesHardening (left : request.LeavesHardening) :
    request.requestedHardening = none := by
  cases request <;> first | exact left | exact absurd left id

def Request.hardeningRight : Request → Option Right
  | start _ => some .startHardening
  | run _ => some .runHardening
  | recreate _ => some .recreateHardening
  | _ => none

theorem mem_onlyIf {used : Bool} {right needed : Right} :
    needed ∈ onlyIf used right ↔ used = true ∧ needed = right := by
  cases used <;> simp [onlyIf]

theorem mem_requiredRights_withHardening (left : request.LeavesHardening) (level : String) :
    ∃ required more right, requiredRights request = some required ∧
      requiredRights (request.withHardening level) = some more ∧
      request.hardeningRight = some right ∧ right ∉ required.all ∧
      ∀ needed, needed ∈ more.all ↔ needed ∈ required.all ∨ needed = right := by
  cases request with
  | start fields | run fields =>
    refine ⟨_, _, _, rfl, rfl, rfl, ?_, fun needed => ?_⟩
    · simp [all, mem_onlyIf, show fields.hardening = none from left]
    · simp only [all, mem_onlyIf, List.mem_cons, List.mem_append,
        Option.isSome_some, true_and]
      simp only [show fields.hardening = none from left, Option.isSome_none]
      tauto
  | recreate fields =>
    refine ⟨_, _, _, rfl, rfl, rfl, ?_, fun needed => ?_⟩
    · simp [all, mem_onlyIf, show fields.hardening = none from left]
    · simp only [all, mem_onlyIf, List.mem_cons, Option.isSome_some, true_and]
      simp only [show fields.hardening = none from left, Option.isSome_none]
      tauto
  | _ => exact absurd left id

theorem requiredRights_withHardening_eq (request : Request) (level other : String) :
    requiredRights (request.withHardening level) =
      requiredRights (request.withHardening other) := by
  cases request <;> rfl

/-! ### The rights gate under a floor -/

def TokenContext.withFloor (context : TokenContext) (floor : HardeningLevel) : TokenContext :=
  { context with maxHardening := floor }

def Request.underFloor (request : Request) (floor : HardeningLevel) : Request :=
  if floor = .none then request else request.withHardening floor.text

theorem hardeningGate_underFloor (uid gid : UInt32) (context : TokenContext)
    (left : request.LeavesHardening) (floor : HardeningLevel) :
    Daemon.hardeningGate (.token uid gid (context.withFloor floor)) request =
      .ok (request.underFloor floor) := by
  unfold Daemon.hardeningGate underFloor
  rw [requestedHardening_of_leavesHardening left]
  cases floor <;> rfl

/-- The rights gate of `handle_request` for a known owner and section: the hardening gate, and the
check of the rights that the rewritten request needs. -/
def rightsGate (accounts : Accounts) (subject : AclSubject) (auth : AuthContext)
    (request : Request) : Except Response Unit :=
  (Daemon.hardeningGate auth request).bind fun rewritten =>
    (checkStaticRights accounts subject auth rewritten).mapError .permissionDenied

def neededRights (auth : AuthContext) (request : Request) :
    Except Response (Option RequiredRights) :=
  (Daemon.hardeningGate auth request).map requiredRights

theorem effectiveRights_withFloor (accounts : Accounts) (uid gid : UInt32)
    (context : TokenContext) (floor : HardeningLevel) (ownerUid : Option UInt32)
    (acl : Option ResolvedAcl) :
    effectiveRights accounts (.token uid gid (context.withFloor floor)) ownerUid acl =
      effectiveRights accounts (.token uid gid context) ownerUid acl := rfl

theorem rightsGate_eq_ok_iff (accounts : Accounts) (subject : AclSubject) (uid gid : UInt32)
    (context : TokenContext) (left : request.LeavesHardening) (floor : HardeningLevel) :
    rightsGate accounts subject (.token uid gid (context.withFloor floor)) request = .ok () ↔
      ∃ rights, effectiveRights accounts (.token uid gid context) subject.ownerUid subject.acl =
          .ok (some rights) ∧
        ∀ required, requiredRights (request.underFloor floor) = some required →
          ∀ right ∈ required.all, right ∈ rights := by
  rw [rightsGate, hardeningGate_underFloor uid gid context left, Except.bind,
    Result.mapError_eq_ok, checkStaticRights, effectiveRights_withFloor]
  cases effectiveRights accounts (.token ..) subject.ownerUid subject.acl with
  | error e => simp
  | ok rights =>
    cases rights with
    | none => simp
    | some rights => simp [Result.mapError_eq_ok, checkRights_eq_ok_iff]

/-- Under a floor a request without a level is granted exactly when it would be granted without the
floor and the token has the right for levels on the config. -/
theorem rightsGate_underFloor_iff (accounts : Accounts) (subject : AclSubject) (uid gid : UInt32)
    (context : TokenContext) (left : request.LeavesHardening) {floor : HardeningLevel}
    (floored : floor ≠ .none) :
    rightsGate accounts subject (.token uid gid (context.withFloor floor)) request = .ok () ↔
      rightsGate accounts subject (.token uid gid (context.withFloor .none)) request = .ok () ∧
        ∃ rights right,
          effectiveRights accounts (.token uid gid context) subject.ownerUid subject.acl =
            .ok (some rights) ∧ request.hardeningRight = some right ∧ right ∈ rights := by
  obtain ⟨required, more, right, needed, moreNeeded, forLevels, _, members⟩ :=
    mem_requiredRights_withHardening left floor.text
  rw [rightsGate_eq_ok_iff _ _ _ _ _ left, rightsGate_eq_ok_iff _ _ _ _ _ left,
    underFloor, if_neg floored, underFloor, if_pos rfl, needed, moreNeeded,
    forLevels]
  constructor
  · rintro ⟨rights, effective, covered⟩
    have held := covered more rfl
    refine ⟨⟨rights, effective, ?_⟩, rights, right, effective, rfl,
      held right ((members right).mpr (.inr rfl))⟩
    rintro _ ⟨rfl⟩ base member
    exact held base ((members base).mpr (.inl member))
  · rintro ⟨⟨rights, effective, covered⟩, other, found, again, ⟨rfl⟩, held⟩
    cases Except.ok.inj (effective.symm.trans again)
    refine ⟨rights, effective, ?_⟩
    rintro _ ⟨rfl⟩ base member
    rcases (members base).mp member with ofRequest | rfl
    · exact covered required rfl base ofRequest
    · exact held

/-- For every request without a level and every two floors of the token: the request needs the same
rights and the rights gate decides the same under both, exactly when both or neither of the floors
is `none`. -/
theorem floor_neutral_iff (accounts : Accounts) (subject : AclSubject) (uid gid : UInt32)
    (context : TokenContext) (request : Request) (left : request.LeavesHardening)
    (floor other : HardeningLevel) :
    (neededRights (.token uid gid (context.withFloor floor)) request =
          neededRights (.token uid gid (context.withFloor other)) request ∧
        (rightsGate accounts subject (.token uid gid (context.withFloor floor)) request = .ok () ↔
          rightsGate accounts subject (.token uid gid (context.withFloor other)) request =
            .ok ())) ↔
      (floor = .none ↔ other = .none) := by
  have sameNeeds : neededRights (.token uid gid (context.withFloor floor)) request =
        neededRights (.token uid gid (context.withFloor other)) request ↔
      requiredRights (request.underFloor floor) = requiredRights (request.underFloor other) := by
    rw [neededRights, neededRights, hardeningGate_underFloor uid gid context left,
      hardeningGate_underFloor uid gid context left]
    exact ⟨fun same => Except.ok.inj same, fun same => congrArg Except.ok same⟩
  rw [sameNeeds, rightsGate_eq_ok_iff _ _ _ _ _ left, rightsGate_eq_ok_iff _ _ _ _ _ left]
  -- between no floor and some floor, the right for levels is needed by one request only
  have differ (level : HardeningLevel) :
      requiredRights request ≠ requiredRights (request.withHardening level.text) := by
    obtain ⟨required, more, right, needed, moreNeeded, _, absent, members⟩ :=
      mem_requiredRights_withHardening left level.text
    rw [needed, moreNeeded]
    intro same
    cases same
    exact absent ((members right).mpr (.inr rfl))
  constructor
  · rintro ⟨same, _⟩
    unfold underFloor at same
    by_cases none : floor = .none <;> by_cases otherNone : other = .none
    · exact ⟨fun _ => otherNone, fun _ => none⟩
    · rw [if_pos none, if_neg otherNone] at same
      exact absurd same (differ other)
    · rw [if_neg none, if_pos otherNone] at same
      exact absurd same.symm (differ floor)
    · exact ⟨fun isNone => absurd isNone none, fun isNone => absurd isNone otherNone⟩
  · intro alike
    have same : requiredRights (request.underFloor floor) =
        requiredRights (request.underFloor other) := by
      unfold underFloor
      by_cases none : floor = .none
      · rw [if_pos none, if_pos (alike.mp none)]
      · rw [if_neg none, if_neg fun isNone => none (alike.mpr isNone)]
        exact requiredRights_withHardening_eq request floor.text other.text
    rw [same]
    exact ⟨rfl, Iff.rfl⟩

/-! ### A token that may start and has a floor -/

/-- The token of a service that may start, stop, restart and ask for the status. -/
def operatorToken : TokenContext where
  allow := {.start, .stop, .restart, .status}
  maxHardening := .noRoot
  service := "orchestrator"
  configPath := "/srv/watch.yaml"
  authorizer := none

def ownConfig : AclSubject where
  ownerUid := some 1000
  acl := none

/-- The service starts a config without a `--hardening` flag. With the floor `no-root` it is
refused, for want of a right it never asked to use. -/
theorem operatorToken_refused_under_floor :
    rightsGate singleConfigWorld.accounts ownConfig
        (.token 1000 1000 (operatorToken.withFloor .none)) startApp = .ok () ∧
      rightsGate singleConfigWorld.accounts ownConfig
          (.token 1000 1000 (operatorToken.withFloor .noRoot)) startApp =
        .error (.permissionDenied
          ("permission denied: permission denied: missing required sub-right " ++
            "'start:hardening'")) := by
  refine ⟨by decide +kernel, by decide +kernel⟩

theorem operatorToken_floor_neutral :
    (neededRights (.token 1000 1000 (operatorToken.withFloor .none)) startApp =
          neededRights (.token 1000 1000 (operatorToken.withFloor .noRoot)) startApp ∧
        (rightsGate singleConfigWorld.accounts ownConfig
              (.token 1000 1000 (operatorToken.withFloor .none)) startApp = .ok () ↔
          rightsGate singleConfigWorld.accounts ownConfig
              (.token 1000 1000 (operatorToken.withFloor .noRoot)) startApp = .ok ())) ↔
      (HardeningLevel.none = .none ↔ HardeningLevel.noRoot = .none) :=
  floor_neutral_iff singleConfigWorld.accounts ownConfig 1000 1000 operatorToken startApp
    (by decide) .none .noRoot

theorem operatorToken_lacks_right : ¬ ∃ rights right,
    effectiveRights singleConfigWorld.accounts (.token 1000 1000 operatorToken)
      ownConfig.ownerUid ownConfig.acl = .ok (some rights) ∧
    startApp.hardeningRight = some right ∧ right ∈ rights :=
  fun held => absurd ((rightsGate_underFloor_iff _ _ _ _ _ (by decide)
    (show HardeningLevel.noRoot ≠ .none by decide)).mpr ⟨by decide +kernel, held⟩)
    (by decide +kernel)

end Kepler
