/-
This file follows the groups of a process from the config to the executed command: through the
escalation check, the stripping of the kepler group, the command builder and `kepler-exec`.

The escalation check looks at the uid alone, not at the gid after a colon or at an explicit list of
groups. The kepler group is taken out of the list, but a list that becomes empty is not passed to
the wrapper, which then loads all groups of the user. Two results say exactly which processes stay
within the groups of the owner, and which stay out of the kepler group.
-/

import Kepler.Spawn

namespace Kepler

open List Text Or

/-! ### The groups that are passed on -/

variable {executed : Credentials} {groups : List String} {gid : UInt32}

section

variable {accounts : Accounts}

theorem resolveGroup_toString (accounts : Accounts) (gid : UInt32) :
    resolveGroup accounts (toString gid) = .ok gid := by
  rw [resolveGroup, parseU32_toString]

theorem namesKeplerGroup_toString (accounts : Accounts) (keplerGid gid : UInt32) :
    namesKeplerGroup accounts keplerGid (toString gid) = decide (gid = keplerGid) := by
  rw [namesKeplerGroup, resolveGroup_toString]
  by_cases same : gid = keplerGid
  · simp [same]
  · have texts : toString gid ≠ toString keplerGid := by
      intro equal
      have numbers := congrArg parseU32 equal
      rw [parseU32_toString, parseU32_toString] at numbers
      exact same (Option.some.inj numbers)
    simp [same, texts]

theorem stripKeplerGroup_map_toString (accounts : Accounts) (gids : List UInt32)
    (keplerGid : UInt32) :
    stripKeplerGroup accounts (gids.map toString) keplerGid =
      (gids.filter (· ≠ keplerGid)).map toString := by
  rw [stripKeplerGroup, filter_map]
  congr 1
  refine filter_congr fun gid _ => ?_
  simp [namesKeplerGroup_toString]

/-- The groups that a process with an empty list inherits from its user: all but the kepler group,
and none when the user is in too many. -/
def inheritedGids (accounts : Accounts) (resolved : ResolvedUser) (keplerGid : UInt32) :
    List UInt32 :=
  match resolved.username with
  | none => [resolved.gid].filter (· ≠ keplerGid)
  | some name =>
    if (accounts.groupList name resolved.gid).length > groupListLimit then []
    else (accounts.groupList name resolved.gid).filter (· ≠ keplerGid)

variable {resolved : ResolvedUser} {gids : List UInt32}

theorem effectiveGroups_nil {spec : String} (keplerGid : UInt32)
    (found : resolveUser accounts spec = .ok resolved) :
    effectiveGroups accounts [] (some spec) (some keplerGid) =
      (inheritedGids accounts resolved keplerGid).map toString := by
  unfold effectiveGroups computeGroupsExcluding inheritedGids getgrouplist
  simp only [isEmpty_nil, found, bind, Except.bind]
  cases resolved.username with
  | none =>
    by_cases same : resolved.gid = keplerGid
    · simp [same, pure, Except.pure, stripKeplerGroup]
    · have numbers := stripKeplerGroup_map_toString accounts [resolved.gid] keplerGid
      simpa [same, pure, Except.pure] using numbers
  | some name =>
    dsimp only
    split_ifs with tooMany
    · rfl
    · simp only [pure, Except.pure]
      rw [stripKeplerGroup_map_toString, filter_filter]
      simp

def survivingGroups (accounts : Accounts) (keplerGid : Option UInt32) (groups : List String) :
    List String :=
  match keplerGid with
  | some gid => stripKeplerGroup accounts groups gid
  | none => groups

theorem effectiveGroups_of_ne_nil (user : Option String) (keplerGid : Option UInt32)
    (nonempty : groups ≠ []) :
    effectiveGroups accounts groups user keplerGid = survivingGroups accounts keplerGid groups := by
  have notEmpty : groups.isEmpty = false := by simpa using nonempty
  cases keplerGid <;> simp [effectiveGroups, survivingGroups, notEmpty]

theorem mem_of_namedParts_map_toString (nonempty : gids ≠ []) {part : String}
    (member : part ∈ namedParts accounts (gids.map toString)) :
    ∃ gid ∈ gids, part = toString gid := by
  unfold namedParts at member
  have inParts := mem_of_mem_take member
  by_cases noGroups : accounts.ngroupsMax = 0
  · rw [noGroups, take_zero] at member
    cases member
  · have taken : (gids.map toString).take accounts.ngroupsMax ≠ [] := by
      simp [take_eq_nil_iff, noGroups, nonempty]
    rw [split_join _ _ taken, mem_flatMap] at inParts
    obtain ⟨text, inTaken, inSplit⟩ := inParts
    obtain ⟨gid, held, rfl⟩ := mem_map.mp (mem_of_mem_take inTaken)
    rw [split_toString ',' (by decide) gid, mem_singleton] at inSplit
    exact ⟨gid, held, inSplit⟩

theorem mem_of_runsAs_numbers (runs : RunsAs accounts resolved (gids.map toString) executed)
    (nonempty : gids ≠ []) (member : gid ∈ executed.groups) : gid ∈ gids := by
  obtain ⟨part, inParts, resolves⟩ := (runs.named (by simpa using nonempty) gid).mp member
  obtain ⟨number, held, rfl⟩ := mem_of_namedParts_map_toString nonempty inParts
  rw [trim_toString, resolveGroup_toString] at resolves
  rw [← Except.ok.inj resolves]
  exact held

theorem mem_of_runsAs_nil (runs : RunsAs accounts resolved [] executed)
    (member : gid ∈ executed.groups) :
    gid = resolved.gid ∨
      ∃ name, resolved.username = some name ∧
        gid ∈ (accounts.groupList name resolved.gid).take accounts.ngroupsMax := by
  cases named : resolved.username with
  | none =>
    rw [runs.ofGid rfl named, mem_singleton] at member
    exact inl member
  | some name =>
    rw [runs.ofUser rfl name named] at member
    exact inr ⟨name, rfl, member⟩

theorem mem_inheritedGids {keplerGid gid : UInt32}
    (member : gid ∈ inheritedGids accounts resolved keplerGid) :
    gid ≠ keplerGid ∧ (gid = resolved.gid ∨
      ∃ name, resolved.username = some name ∧ gid ∈ accounts.memberships name) := by
  unfold inheritedGids at member
  cases named : resolved.username with
  | none =>
    simp only [named, mem_filter, mem_singleton, decide_eq_true_eq] at member
    exact ⟨member.2, inl member.1⟩
  | some name =>
    simp only [named] at member
    split_ifs at member with tooMany
    · cases member
    · rw [mem_filter, accounts.mem_groupList, decide_eq_true_eq] at member
      exact ⟨member.2, member.1.imp_right fun inGroup => ⟨name, rfl, inGroup⟩⟩

end

section

variable {accounts : Accounts} {keplerGid : Option UInt32} {groups : List String} {spec : String}
  {resolved : ResolvedUser} {executed : Credentials}

theorem ne_nil_of_survivors (survive : survivingGroups accounts keplerGid groups ≠ []) :
    groups ≠ [] := by
  rintro rfl
  cases keplerGid <;> exact survive rfl

theorem mem_groups_iff_named (survive : survivingGroups accounts keplerGid groups ≠ [])
    (runs : RunsAs accounts resolved (effectiveGroups accounts groups (some spec) keplerGid)
      executed) (gid : UInt32) :
    gid ∈ executed.groups ↔
      ∃ part ∈ namedParts accounts (survivingGroups accounts keplerGid groups),
        resolveGroup accounts (Text.trim part) = .ok gid := by
  rw [effectiveGroups_of_ne_nil (some spec) keplerGid (ne_nil_of_survivors survive)] at runs
  exact runs.named survive gid

theorem mem_groups_inherited (found : resolveUser accounts spec = .ok resolved)
    (noSurvivors : survivingGroups accounts keplerGid groups = [])
    (runs : RunsAs accounts resolved (effectiveGroups accounts groups (some spec) keplerGid)
      executed) (member : gid ∈ executed.groups) :
    gid = resolved.gid ∨ ∃ name, resolved.username = some name ∧
      gid ∈ accounts.memberships name := by
  have ofUser (runs : RunsAs accounts resolved [] executed) : gid = resolved.gid ∨
      ∃ name, resolved.username = some name ∧ gid ∈ accounts.memberships name := by
    rcases mem_of_runsAs_nil runs member with primary | ⟨name, named, inList⟩
    · exact inl primary
    · have inGroups :=
        (accounts.mem_groupList name resolved.gid gid).mp (mem_of_mem_take inList)
      exact inGroups.imp_right fun inGroup => ⟨name, named, inGroup⟩
  by_cases empty : groups = []
  · subst empty
    cases keplerGid with
    | none => exact ofUser runs
    | some kepler => ?_
    rw [effectiveGroups_nil kepler found] at runs
    by_cases nothing : inheritedGids accounts resolved kepler = []
    · rw [nothing] at runs
      exact ofUser runs
    · exact (mem_inheritedGids (mem_of_runsAs_numbers runs nothing member)).2
  · rw [effectiveGroups_of_ne_nil (some spec) keplerGid empty, noSurvivors] at runs
    exact ofUser runs

end

theorem spawnAs_eq_ok {system : SpawnSystem} {process executed : Credentials}
    {keplerGid : Option UInt32} {user : Option String} {command : CommandSpec}
    (success : spawnAs system process keplerGid user groups command = .ok executed) :
    (user = none → executed = process) ∧
      ∀ spec, user = some spec → ∃ resolved, resolveUser system.accounts spec = .ok resolved ∧
        RunsAs system.accounts resolved
          (effectiveGroups system.accounts groups (some spec) keplerGid) executed := by
  obtain ⟨withoutUser, withUser⟩ := spawn_eq_ok success
  refine ⟨withoutUser, fun spec given => ?_⟩
  subst given
  exact withUser spec rfl

/-! ### The groups of the owner -/

def OwnAccount (accounts : Accounts) (uid : UInt32) (account : Account) : Prop :=
  account.uid = uid ∧ (accounts.userFromUid uid = .ok (some account) ∨
    accounts.userFromName account.name = .ok (some account))

def OwnerHolds (accounts : Accounts) (owner : UInt32) (recorded : Option UInt32) (gid : UInt32) :
    Prop :=
  recorded = some gid ∨ ∃ account, OwnAccount accounts owner account ∧
    (gid = account.gid ∨ gid ∈ accounts.memberships account.name)

variable {accounts : Accounts} {account : Account} {resolved : ResolvedUser}

theorem ownAccount_of_uid {uid : UInt32}
    (found : foundEntry (accounts.userFromUid uid) = some account) :
    OwnAccount accounts uid account := by
  have entry := foundEntry_eq_some.mp found
  exact ⟨accounts.userFromUid_uid uid account entry, inl entry⟩

theorem ownAccount_of_name {name : String} (found : Exec.userFromName accounts name = .ok account) :
    OwnAccount accounts account.uid account := by
  unfold Exec.userFromName at found
  cases entry : accounts.userFromName name with
  | error e => simp [entry] at found
  | ok looked => ?_
  cases looked with
  | none => simp [entry] at found
  | some same => ?_
  simp only [entry, Except.ok.injEq] at found
  subst found
  refine ⟨rfl, inr ?_⟩
  rw [accounts.userFromName_name name same entry]
  exact entry

theorem ownAccount_of_resolveUserPart {accounts : Accounts} {spec name : String} {uid : UInt32}
    (found : Exec.resolveUserPart accounts spec = .ok (uid, some name)) :
    ∃ account, OwnAccount accounts uid account ∧ account.name = name := by
  unfold Exec.resolveUserPart at found
  cases number : parseU32 spec with
  | some parsed =>
    simp only [number, Except.ok.injEq, Prod.mk.injEq] at found
    obtain ⟨rfl, named⟩ := found
    obtain ⟨account, entry, sameName⟩ := Option.map_eq_some_iff.mp named
    exact ⟨account, ownAccount_of_uid entry, sameName⟩
  | none =>
    rw [number] at found
    obtain ⟨account, entry, same⟩ := Result.map_eq_ok.mp found
    simp only [Prod.mk.injEq, Option.some.injEq] at same
    obtain ⟨rfl, sameName⟩ := same
    exact ⟨account, ownAccount_of_name entry, sameName⟩

theorem ownAccount_of_resolveUser {spec name : String}
    (found : resolveUser accounts spec = .ok resolved) (named : resolved.username = some name) :
    ∃ account, OwnAccount accounts resolved.uid account ∧ account.name = name := by
  have again := Exec.resolveUser_eq found
  rw [named] at again
  unfold Exec.resolveUser at again
  cases cut : splitOnce ':' spec with
  | some parts =>
    obtain ⟨left, right⟩ := parts
    rw [cut] at again
    obtain ⟨⟨uid, username⟩, userPart, again⟩ := Result.bind_eq_ok.mp again
    obtain ⟨gid, _, again⟩ := Result.bind_eq_ok.mp again
    have same := Except.ok.inj again
    simp only [Prod.mk.injEq] at same
    obtain ⟨rfl, _, rfl⟩ := same
    exact ownAccount_of_resolveUserPart userPart
  | none =>
    rw [cut] at again
    -- a plain specification resolves like one before a colon, up to the gid
    refine @ownAccount_of_resolveUserPart accounts spec name resolved.uid ?_
    unfold Exec.resolveUserPart
    cases number : parseU32 spec with
    | some uid =>
      simp only [number] at again ⊢
      cases entry : foundEntry (accounts.userFromUid uid) with
      | some =>
        simp only [entry, Except.ok.injEq, Prod.mk.injEq] at again
        obtain ⟨rfl, _, sameName⟩ := again
        rw [Option.map_some, sameName]
      | none => simp [entry] at again
    | none =>
      simp only [number] at again ⊢
      obtain ⟨account, entry, same⟩ := Result.map_eq_ok.mp again
      simp only [Prod.mk.injEq] at same
      obtain ⟨uid, _, sameName⟩ := same
      rw [entry, ← uid, ← sameName]
      rfl

def HoldsGroupsOf (accounts : Accounts) (owner : UInt32) (recorded : Option UInt32)
    (process : Credentials) : Prop :=
  OwnerHolds accounts owner recorded process.gid ∧
    ∀ gid ∈ process.groups, OwnerHolds accounts owner recorded gid

def NamesGroupsOf (accounts : Accounts) (owner : UInt32) (recorded keplerGid : Option UInt32)
    (spec : String) (groups : List String) : Prop :=
  ∀ resolved, resolveUser accounts spec = .ok resolved →
    OwnerHolds accounts owner recorded resolved.gid ∧
      (survivingGroups accounts keplerGid groups ≠ [] →
        ∀ part ∈ namedParts accounts (survivingGroups accounts keplerGid groups),
          ∀ gid, resolveGroup accounts (Text.trim part) = .ok gid →
            OwnerHolds accounts owner recorded gid)

def StaysWithinOwner (accounts : Accounts) (owner : UInt32) (recorded keplerGid : Option UInt32)
    (daemon : Credentials) (user : Option String) (groups : List String) : Prop :=
  match user with
  | none => HoldsGroupsOf accounts owner recorded daemon
  | some spec => NamesGroupsOf accounts owner recorded keplerGid spec groups

theorem holdsGroupsOf_iff_names {owner : UInt32} {recorded keplerGid : Option UInt32}
    {spec : String} (found : resolveUser accounts spec = .ok resolved) (own : resolved.uid = owner)
    (runs : RunsAs accounts resolved (effectiveGroups accounts groups (some spec) keplerGid)
      executed) :
    HoldsGroupsOf accounts owner recorded executed ↔
      NamesGroupsOf accounts owner recorded keplerGid spec groups := by
  constructor
  · rintro ⟨primary, supplementary⟩ other again
    cases found.symm.trans again
    rw [runs.gid] at primary
    refine ⟨primary, fun survive part inParts gid resolves => ?_⟩
    exact supplementary gid ((mem_groups_iff_named survive runs gid).mpr ⟨part, inParts, resolves⟩)
  · intro names
    obtain ⟨primary, named⟩ := names resolved found
    refine ⟨by rw [runs.gid]; exact primary, fun gid member => ?_⟩
    by_cases survive : survivingGroups accounts keplerGid groups = []
    · rcases mem_groups_inherited found survive runs member with rfl | ⟨name, username, inGroup⟩
      · exact primary
      · obtain ⟨account, ownAccount, rfl⟩ := ownAccount_of_resolveUser found username
        rw [own] at ownAccount
        exact inr ⟨account, ownAccount, inr inGroup⟩
    · obtain ⟨part, inParts, resolves⟩ := (mem_groups_iff_named survive runs gid).mp member
      exact named survive part inParts gid resolves

/-- Under strict hardening a process of a non-root owner stays within the groups of the owner
exactly when its user specification and its list of groups name no other groups. The uid is the
owner's in any case. -/
theorem strict_process_holdsGroupsOf_iff {system : SpawnSystem} {process executed : Credentials}
    {keplerGid recorded : Option UInt32} {user : Option String} {groups : List String}
    {command : CommandSpec} {owner : UInt32} {context : String} (nonRoot : owner ≠ 0)
    (allowed : checkPrivilegeEscalation system.accounts .strict user (some owner) context = .ok ())
    (spawned : spawnAs system process keplerGid user groups command = .ok executed) :
    HoldsGroupsOf system.accounts owner recorded executed ↔
      StaysWithinOwner system.accounts owner recorded keplerGid process user groups := by
  obtain ⟨withoutUser, withUser⟩ := spawnAs_eq_ok spawned
  cases user with
  | none =>
    rw [withoutUser rfl]
    rfl
  | some spec =>
    obtain ⟨resolved, found, runs⟩ := withUser spec rfl
    obtain ⟨checked, again, _, own⟩ := checkPrivilegeEscalation_eq_ok (by decide) nonRoot allowed
    cases found.symm.trans again
    exact holdsGroupsOf_iff_names found (own rfl) runs

/-! A machine with two accounts. The user `alice` is in the group `kepler`. -/

def twoUserAccounts : Accounts :=
  .fromFiles
    [⟨"root", 0, 0, "/root", "/bin/sh"⟩, ⟨"alice", 1000, 1000, "/home/alice", "/bin/sh"⟩]
    [⟨"root", 0, []⟩, ⟨"alice", 1000, []⟩, ⟨"kepler", 900, ["alice"]⟩] 65536

def twoUserSystem : SpawnSystem where
  accounts := twoUserAccounts
  setrlimit _ _ := .ok ()
  setNoNewPrivileges := .ok true
  execvp _ := .ok ()
  keplerExec := some "/usr/bin/kepler-exec"
  directoryExists _ := true

def rootCredentials : Credentials := ⟨0, 0, [0]⟩

def idCommand : CommandSpec := { programAndArgs := ["id"], workingDir := "/" }

theorem mem_of_ownAccount_fromFiles {passwd : List Account} {groups : List AccountGroup}
    {limit : Nat} {uid : UInt32} (own : OwnAccount (.fromFiles passwd groups limit) uid account) :
    account ∈ passwd ∧ account.uid = uid := by
  obtain ⟨sameUid, byUid | byName⟩ := own
  · exact ⟨mem_of_find?_eq_some (Except.ok.inj byUid), sameUid⟩
  · exact ⟨mem_of_find?_eq_some (Except.ok.inj byName), sameUid⟩

theorem ownerHolds_alice_iff (gid : UInt32) :
    OwnerHolds twoUserAccounts 1000 (some 1000) gid ↔ gid = 1000 ∨ gid = 900 := by
  constructor
  · rintro (recorded | ⟨account, own, holds⟩)
    · exact inl (Option.some.inj recorded).symm
    · obtain ⟨member, sameUid⟩ := mem_of_ownAccount_fromFiles own
      simp only [mem_cons, not_mem_nil, or_false] at member
      rcases member with rfl | rfl
      · exact absurd sameUid (by decide)
      · simpa [twoUserAccounts, Accounts.fromFiles] using holds
  · rintro (rfl | rfl)
    · exact inl rfl
    · exact inr ⟨⟨"alice", 1000, 1000, "/home/alice", "/bin/sh"⟩, ⟨rfl, inl rfl⟩,
        inr (by decide +kernel)⟩

theorem plain_process_holdsGroupsOf :
    ∃ executed, spawnAs twoUserSystem rootCredentials (some 900) (some "1000:1000") [] idCommand =
        .ok executed ∧
      (HoldsGroupsOf twoUserAccounts 1000 (some 1000) executed ↔
        StaysWithinOwner twoUserAccounts 1000 (some 1000) (some 900) rootCredentials
          (some "1000:1000") []) :=
  ⟨⟨1000, 1000, [1000]⟩, by decide +kernel,
    @strict_process_holdsGroupsOf_iff twoUserSystem rootCredentials _ (some 900) (some 1000)
      (some "1000:1000") [] idCommand 1000 "service 'web'" (by decide) (by decide +kernel)
      (by decide +kernel)⟩

/-- The uid of `alice` with the gid of root passes the strict check, and the process runs in the
group of root. -/
theorem alice_process_in_rootGroup :
    checkPrivilegeEscalation twoUserAccounts .strict (some "1000:0") (some 1000) "service 'web'" =
        .ok () ∧
      ∃ executed, spawnAs twoUserSystem rootCredentials (some 900) (some "1000:0") ["0"] idCommand =
          .ok executed ∧ executed = ⟨1000, 0, [0]⟩ ∧
        ¬ HoldsGroupsOf twoUserAccounts 1000 (some 1000) executed := by
  refine ⟨by decide +kernel, ⟨1000, 0, [0]⟩, by decide +kernel, rfl, ?_⟩
  rintro ⟨primary, _⟩
  have groups := (ownerHolds_alice_iff 0).mp primary
  exact absurd groups (by decide)

/-! ### The kepler group -/

/-- The list of groups gets lost on the way to the wrapper: one that only names the kepler group is
stripped to an empty one, and the groups of a user in too many cannot be computed. The wrapper then
loads all groups of the user. -/
def ListLost (accounts : Accounts) (keplerGid : UInt32) (groups : List String) (name : String)
    (gid : UInt32) : Prop :=
  if groups = [] then groupListLimit < (accounts.groupList name gid).length
  else stripKeplerGroup accounts groups keplerGid = []

/-- What keeps a process out of the kepler group: it is not the group of the user, the entries that
are passed on do not name it, and the user is not in it when the list gets lost. -/
def StaysOutOfKepler (accounts : Accounts) (keplerGid : UInt32) (daemon : Credentials)
    (user : Option String) (groups : List String) : Prop :=
  match user with
  | none => daemon.gid ≠ keplerGid ∧ keplerGid ∉ daemon.groups
  | some spec => ∀ resolved, resolveUser accounts spec = .ok resolved →
      resolved.gid ≠ keplerGid ∧
      (stripKeplerGroup accounts groups keplerGid ≠ [] →
        ∀ part ∈ namedParts accounts (stripKeplerGroup accounts groups keplerGid),
          resolveGroup accounts (Text.trim part) ≠ .ok keplerGid) ∧
      ∀ name, resolved.username = some name → ListLost accounts keplerGid groups name resolved.gid →
        keplerGid ∉ (accounts.groupList name resolved.gid).take accounts.ngroupsMax

section

variable {accounts : Accounts} {keplerGid : UInt32} {groups : List String} {spec : String}
  {resolved : ResolvedUser} {executed : Credentials}

theorem kepler_mem_of_runsAs_nil (otherGid : resolved.gid ≠ keplerGid)
    (runs : RunsAs accounts resolved [] executed) :
    keplerGid ∈ executed.groups ↔ ∃ name, resolved.username = some name ∧
      keplerGid ∈ (accounts.groupList name resolved.gid).take accounts.ngroupsMax := by
  constructor
  · intro member
    exact (mem_of_runsAs_nil runs member).resolve_left (Ne.symm otherGid)
  · rintro ⟨name, named, inList⟩
    rw [runs.ofUser rfl name named]
    exact inList

theorem inheritedGids_eq_nil_iff (otherGid : resolved.gid ≠ keplerGid) :
    inheritedGids accounts resolved keplerGid = [] ↔
      ∃ name, resolved.username = some name ∧ ListLost accounts keplerGid [] name resolved.gid := by
  unfold inheritedGids ListLost
  cases resolved.username with
  | none => simp [otherGid]
  | some name => ?_
  by_cases tooMany : (accounts.groupList name resolved.gid).length > groupListLimit
  · simp [tooMany]
  · have first : resolved.gid ∈ accounts.groupList name resolved.gid :=
      (accounts.mem_groupList name resolved.gid resolved.gid).mpr (inl rfl)
    simp only [gt_iff_lt, tooMany, if_false, filter_eq_nil_iff, decide_eq_true_eq]
    constructor
    · intro onlyKepler
      exact absurd otherGid (onlyKepler _ first)
    · rintro ⟨other, same, lost⟩
      rw [← Option.some.inj same] at lost
      exact absurd lost tooMany

/-- Without an entry that is passed on, a process is in the kepler group when its list got lost and
its user is in it. -/
theorem kepler_mem_iff_lost (otherGid : resolved.gid ≠ keplerGid)
    (found : resolveUser accounts spec = .ok resolved)
    (noSurvivors : stripKeplerGroup accounts groups keplerGid = [])
    (runs : RunsAs accounts resolved
      (effectiveGroups accounts groups (some spec) (some keplerGid)) executed) :
    keplerGid ∈ executed.groups ↔ ∃ name, resolved.username = some name ∧
      ListLost accounts keplerGid groups name resolved.gid ∧
      keplerGid ∈ (accounts.groupList name resolved.gid).take accounts.ngroupsMax := by
  by_cases empty : groups = []
  · subst empty
    rw [effectiveGroups_nil keplerGid found] at runs
    by_cases nothing : inheritedGids accounts resolved keplerGid = []
    · rw [nothing] at runs
      obtain ⟨name, named, lost⟩ := (inheritedGids_eq_nil_iff otherGid).mp nothing
      rw [kepler_mem_of_runsAs_nil otherGid runs]
      refine exists_congr fun other => and_congr_right fun sameName => ?_
      rw [← Option.some.inj (named.symm.trans sameName)]
      simp [lost]
    · constructor
      · intro member
        exact absurd rfl (mem_inheritedGids (mem_of_runsAs_numbers runs nothing member)).1
      · rintro ⟨name, named, lost, _⟩
        exact absurd ((inheritedGids_eq_nil_iff otherGid).mpr ⟨name, named, lost⟩) nothing
  · rw [effectiveGroups_of_ne_nil (some spec) (some keplerGid) empty, survivingGroups,
      noSurvivors] at runs
    rw [kepler_mem_of_runsAs_nil otherGid runs]
    simp [ListLost, empty, noSurvivors]

end

/-- A process stays out of the kepler group exactly when the group is not that of its user, no entry
of its list names it behind a comma or a blank, and its user is not in it when the list gets lost.
-/
theorem process_out_of_kepler_iff {system : SpawnSystem} {process executed : Credentials}
    {keplerGid : UInt32} {user : Option String} {groups : List String} {command : CommandSpec}
    (spawned : spawnAs system process (some keplerGid) user groups command = .ok executed) :
    (executed.gid ≠ keplerGid ∧ keplerGid ∉ executed.groups) ↔
      StaysOutOfKepler system.accounts keplerGid process user groups := by
  obtain ⟨withoutUser, withUser⟩ := spawnAs_eq_ok spawned
  cases user with
  | none =>
    rw [withoutUser rfl]
    rfl
  | some spec =>
    obtain ⟨resolved, found, runs⟩ := withUser spec rfl
    have sameUser : StaysOutOfKepler system.accounts keplerGid process (some spec) groups ↔ _ :=
      ⟨fun stays => stays resolved found, fun stays other again =>
        Except.ok.inj (found.symm.trans again) ▸ stays⟩
    rw [sameUser, runs.gid]
    refine and_congr_right fun otherGid => ?_
    by_cases survive : stripKeplerGroup system.accounts groups keplerGid = []
    · rw [kepler_mem_iff_lost otherGid found survive runs]
      simp [survive]
    · have named := @mem_groups_iff_named _ (some keplerGid) _ _ _ _ survive runs keplerGid
      have kept (name : String) :
          ¬ ListLost system.accounts keplerGid groups name resolved.gid := by
        have nonempty : groups ≠ [] := @ne_nil_of_survivors _ (some keplerGid) _ survive
        simp [ListLost, nonempty, survive]
      rw [named]
      simp [survive, survivingGroups, kept]

theorem unlisted_process_out_of_kepler :
    ∃ executed, spawnAs twoUserSystem rootCredentials (some 900) (some "alice") [] idCommand =
        .ok executed ∧
      ((executed.gid ≠ 900 ∧ 900 ∉ executed.groups) ↔
        StaysOutOfKepler twoUserAccounts 900 rootCredentials (some "alice") []) :=
  ⟨⟨1000, 1000, [1000]⟩, by decide +kernel,
    @process_out_of_kepler_iff twoUserSystem rootCredentials _ 900 (some "alice") [] idCommand
      (by decide +kernel)⟩

/-- A process of `alice` that lists the kepler group alone ends up in it: the list is stripped, and
the wrapper loads the groups of `alice`. -/
theorem listed_process_in_kepler :
    ∃ executed, spawnAs twoUserSystem rootCredentials (some 900) (some "alice") ["kepler"]
        idCommand = .ok executed ∧ executed = ⟨1000, 1000, [1000, 900]⟩ ∧ 900 ∈ executed.groups :=
  ⟨⟨1000, 1000, [1000, 900]⟩, by decide +kernel, rfl, by decide +kernel⟩

end Kepler
