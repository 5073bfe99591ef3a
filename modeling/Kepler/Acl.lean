/-
This file models `acl.rs`: the resolution of the `kepler.acl` section of a config, the rights that
it grants to a caller, and the compilation and the evaluation of its authorizers.

A section is keyed by the names or numbers of users and groups, a resolved one by numbers. Rights of
keys that stand for one number are merged. Of their authorizers the one that is walked last is kept.
-/

import Kepler.Auth
import Mathlib.Data.List.Sort

namespace Kepler

open List Except

/-! ### The section and its resolution -/

structure AclRule where
  allow : List String
  authorize : Option String
  deriving DecidableEq, Repr

structure AclConfig where
  lua : Option String
  aliases : Aliases
  users : HashMap String AclRule
  groups : HashMap String AclRule

structure ResolvedAcl where
  userRules : HashMap UInt32 (Finset Right)
  groupRules : HashMap UInt32 (Finset Right)
  userAuthorizers : HashMap UInt32 String
  groupAuthorizers : HashMap UInt32 String
  aclLua : Option String
  luaHandle : Option LuaVm
  userAuthorizerKeys : HashMap UInt32 RegistryKey
  groupAuthorizerKeys : HashMap UInt32 RegistryKey

def resolveUid (accounts : Accounts) (key : String) : Except String UInt32 :=
  match Text.parseU32 key with
  | some uid => .ok uid
  | none =>
    match accounts.userFromName key with
    | .ok (some user) => .ok user.uid
    | .ok none => .error s!"ACL user '{key}' not found in system database"
    | .error e => .error s!"Failed to resolve ACL user '{key}': {e}"

def resolveGid (accounts : Accounts) (key : String) : Except String UInt32 :=
  match Text.parseU32 key with
  | some gid => .ok gid
  | none =>
    match accounts.groupFromName key with
    | .ok (some group) => .ok group.gid
    | .ok none => .error s!"ACL group '{key}' not found in system database"
    | .error e => .error s!"Failed to resolve ACL group '{key}': {e}"

/-- `get_all_gids`: the primary group, then the groups that the databases list. -/
def getAllGids (accounts : Accounts) (uid primaryGid : UInt32) : Except String (List UInt32) :=
  match accounts.userFromUid uid with
  | .ok (some user) =>
    match getgrouplist accounts user.name primaryGid with
    | .ok supplementary =>
      .ok (supplementary.foldl (fun gids gid => if gid ∈ gids then gids else gids ++ [gid])
        [primaryGid])
    | .error e => .error s!"Failed to get supplementary groups for UID {uid}: {e}"
  | .ok none => .ok [primaryGid]
  | .error e => .error s!"Failed to resolve UID {uid} for supplementary group lookup: {e}"

abbrev AclEntry : Type := (_ : String) × AclRule

/-- What the loops of `from_config` collect: rights and authorizers by number. -/
structure RuleMaps where
  rules : HashMap UInt32 (Finset Right)
  authorizers : HashMap UInt32 String

def extendRights (expanded : Finset Right) (held : Option (Finset Right)) : Finset Right :=
  held.getD ∅ ∪ expanded

/-- One round of the loops of `from_config` over `users` and over `groups`. -/
def addRule (resolve : String → Except String UInt32) (aliases : Aliases) (maps : RuleMaps)
    (entry : AclEntry) : Except String RuleMaps := do
  let id ← resolve entry.1
  let expanded ← expandAllow entry.2.allow aliases
  return {
    rules := maps.rules.update id (extendRights expanded)
    authorizers := match entry.2.authorize with
      | some source => maps.authorizers.insert id source
      | none => maps.authorizers }

/-- The loop of `from_config` over the rules of one kind. -/
def resolveRules (resolve : String → Except String UInt32) (aliases : Aliases)
    (entries : List AclEntry) : Except String RuleMaps :=
  entries.foldlM (addRule resolve aliases) ⟨∅, ∅⟩

namespace ResolvedAcl

def empty : ResolvedAcl where
  userRules := ∅
  groupRules := ∅
  userAuthorizers := ∅
  groupAuthorizers := ∅
  aclLua := none
  luaHandle := none
  userAuthorizerKeys := ∅
  groupAuthorizerKeys := ∅

def fromConfig (accounts : Accounts) (acl : AclConfig) : Except String ResolvedAcl := do
  let users ← resolveRules (resolveUid accounts) acl.aliases acl.users.entries
  let groups ← resolveRules (resolveGid accounts) acl.aliases acl.groups.entries
  return {
    userRules := users.rules
    groupRules := groups.rules
    userAuthorizers := users.authorizers
    groupAuthorizers := groups.authorizers
    aclLua := acl.lua
    luaHandle := none
    userAuthorizerKeys := ∅
    groupAuthorizerKeys := ∅ }

/-- `collect_rights`: the rights of the rules for the user and its groups, if a rule matches. -/
def collectRights (accounts : Accounts) (acl : ResolvedAcl) (uid gid : UInt32) :
    Except String (Option (Finset Right)) := do
  let allGids ← getAllGids accounts uid gid
  let matching := (acl.userRules.lookup uid).toList ++
    allGids.filterMap fun group => acl.groupRules.lookup group
  return if matching.isEmpty then none else some (matching.foldl (· ∪ ·) ∅)

def hasAuthorizers (acl : ResolvedAcl) : Bool :=
  !acl.userAuthorizers.entries.isEmpty || !acl.groupAuthorizers.entries.isEmpty

/-! ### Compiling and running authorizers -/

def numbered (authorizers : HashMap UInt32 String) (first : Nat) : List (UInt32 × Nat) :=
  (authorizers.entries.zipIdx first).map fun (entry, number) => (entry.1, number)

def keysOf (compiled : HashMap Nat RegistryKey) (idMap : List (UInt32 × Nat)) :
    HashMap UInt32 RegistryKey :=
  HashMap.collect (fun (id, number) => (compiled.lookup number).map fun key => (id, key)) idMap

def sources (acl : ResolvedAcl) : List String :=
  acl.userAuthorizers.entries.map Sigma.snd ++ acl.groupAuthorizers.entries.map Sigma.snd

/-- `init_authorizers`, on a machine with the given identity. -/
def initAuthorizers (engine : LuaEngine) (machine : Nat) (acl : ResolvedAcl) :
    Except String ResolvedAcl := do
  let userIdMap := numbered acl.userAuthorizers 0
  let groupIdMap := numbered acl.groupAuthorizers acl.userAuthorizers.entries.length
  let (vm, compiled) ← LuaVm.new engine machine acl.aclLua (acl.sources.zipIdx.map Prod.swap)
  return { acl with
    luaHandle := some vm
    userAuthorizerKeys := keysOf compiled userIdMap
    groupAuthorizerKeys := keysOf compiled groupIdMap }

/-- The section after its machine, which its copies share, has compiled more sources. -/
def withCompiled (acl : ResolvedAcl) (compiled : List String) : ResolvedAcl :=
  { acl with luaHandle := acl.luaHandle.map fun vm => vm.extend compiled }

/-- `collect_authorizer_keys`: the key of the user, then those of its groups. -/
def collectAuthorizerKeys (accounts : Accounts) (acl : ResolvedAcl) (uid gid : UInt32) :
    Except String (List RegistryKey) := do
  let allGids ← getAllGids accounts uid gid
  let matching := allGids.filterMap fun group =>
    (acl.groupAuthorizerKeys.lookup group).map fun key => (group, key)
  let sorted := matching.insertionSort fun left right => left.1 ≤ right.1
  return (acl.userAuthorizerKeys.lookup uid).toList ++ sorted.map Prod.snd

/-- `check_authorizers`, with the calls it made. -/
def checkAuthorizers (accounts : Accounts) (engine : LuaEngine) (acl : ResolvedAcl)
    (uid gid : UInt32) (tokenAuthorizer : Option RegistryKey) (context : AuthorizerContext) :
    Except String Unit × List LuaCall :=
  match acl.luaHandle with
  | none => (.ok (), [])
  | some vm =>
    match collectAuthorizerKeys accounts acl uid gid with
    | .error e => (.error e, [])
    | .ok keys => vm.evaluateAuthorizers engine (tokenAuthorizer.toList ++ keys) context

def compileTokenAuthorizer (engine : LuaEngine) (acl : ResolvedAcl) (source : String) :
    Except String (RegistryKey × ResolvedAcl) :=
  match acl.luaHandle with
  | none => .error "No ACL Lua VM available for token authorizer compilation"
  | some vm =>
    match vm.compileAuthorizer engine source with
    | .error e => .error s!"Failed to compile token authorizer: {e}"
    | .ok (key, extended) => .ok (key, { acl with luaHandle := some extended })

end ResolvedAcl

/-! ### What compilation establishes -/

namespace ResolvedAcl

variable {authorizers : HashMap UInt32 String}

theorem mem_numbered {first number : Nat} {id : UInt32} :
    (id, number) ∈ numbered authorizers first ↔
      ∃ index, number = first + index ∧ authorizers.entries.keys[index]? = some id := by
  simp only [numbered, mem_map, List.keys, getElem?_map, Prod.exists, Prod.mk.injEq,
    mk_mem_zipIdx_iff_le_and_getElem?_sub, Option.map_eq_some_iff]
  constructor
  · rintro ⟨entry, position, ⟨bound, found⟩, rfl, rfl⟩
    exact ⟨position - first, by omega, entry, found, rfl⟩
  · rintro ⟨index, rfl, entry, found, rfl⟩
    exact ⟨entry, first + index, ⟨by omega, by simpa using found⟩, rfl, rfl⟩

theorem lookup_keysOf (authorizers : HashMap UInt32 String) (first machine : Nat)
    (compiled : HashMap Nat RegistryKey)
    (slots : ∀ number < first + authorizers.entries.length,
      compiled.lookup number = some ⟨machine, number⟩)
    (index : Nat) (id : UInt32) (found : authorizers.entries.keys[index]? = some id) :
    (keysOf compiled (numbered authorizers first)).lookup id =
      some ⟨machine, first + index⟩ := by
  have compiledAt : ∀ position other, authorizers.entries.keys[position]? = some other →
      compiled.lookup (first + position) = some ⟨machine, first + position⟩ := by
    intro position other there
    obtain ⟨bound, _⟩ := List.getElem?_eq_some_iff.mp there
    rw [List.keys, length_map] at bound
    exact slots _ (by omega)
  obtain ⟨kept, keptFound, inserted⟩ := HashMap.exists_lookup_updateAll ∅
    (fun (id, number) => (compiled.lookup number).map fun key => (id, key))
    (numbered ..) id ⟨machine, first + index⟩
    (mem_filterMap.mpr ⟨(id, first + index), mem_numbered.mpr ⟨index, rfl, found⟩, by
      simp only [compiledAt index id found, Option.map_some]⟩)
  obtain ⟨⟨other, number⟩, member, made⟩ := mem_filterMap.mp inserted
  obtain ⟨position, rfl, there⟩ := mem_numbered.mp member
  simp only [compiledAt position other there, Option.map_some, Option.some.injEq,
    Prod.mk.injEq] at made
  obtain ⟨rfl, rfl⟩ := made
  -- the ids of a map are distinct, so both positions are the same
  have positions : position = index := by
    obtain ⟨leftBound, left⟩ := List.getElem?_eq_some_iff.mp there
    obtain ⟨rightBound, right⟩ := List.getElem?_eq_some_iff.mp found
    exact (List.Nodup.getElem_inj_iff authorizers.nodupKeys).mp (left.trans right.symm)
  rw [← positions]
  exact keptFound

theorem exists_index_of_lookup {id : UInt32} {source : String}
    (found : authorizers.lookup id = some source) :
    ∃ index : Nat, authorizers.entries.keys[index]? = some id ∧
      (authorizers.entries.map Sigma.snd)[index]? = some source := by
  have member : (⟨id, source⟩ : (_ : UInt32) × String) ∈ authorizers.entries :=
    AList.mem_lookup_iff.mp found
  obtain ⟨index, bound, equal⟩ := getElem_of_mem member
  refine ⟨index, ?_, ?_⟩
  · rw [List.keys, getElem?_map, getElem?_eq_getElem bound, equal]
    rfl
  · rw [getElem?_map, getElem?_eq_getElem bound, equal]
    rfl

/-- An authorizer of the map has a key under which the machine holds its source. -/
def Compiled (vm : LuaVm) (authorizers : HashMap UInt32 String)
    (keys : HashMap UInt32 RegistryKey) : Prop :=
  ∀ id source, authorizers.lookup id = some source →
    ∃ key, keys.lookup id = some key ∧ vm.registryValue key = .ok source

theorem registryValue_of_getElem (vm : LuaVm) (slot : Nat) (source : String)
    (found : vm.registry[slot]? = some source) :
    vm.registryValue ⟨vm.machine, slot⟩ = .ok source := by
  rw [LuaVm.registryValue, if_neg (by simp), found]

theorem initAuthorizers_eq_ok {engine : LuaEngine} {machine : Nat} {acl ready : ResolvedAcl}
    (success : initAuthorizers engine machine acl = .ok ready) :
    ∃ vm, ready.luaHandle = some vm ∧
      Compiled vm acl.userAuthorizers ready.userAuthorizerKeys ∧
      Compiled vm acl.groupAuthorizers ready.groupAuthorizerKeys := by
  obtain ⟨⟨vm, compiled⟩, made, success⟩ := Result.bind_eq_ok.mp success
  cases success
  obtain ⟨registry, slots⟩ := LuaVm.new_eq_ok engine machine acl.aclLua acl.sources vm compiled
    made
  have length : acl.sources.length =
      acl.userAuthorizers.entries.length + acl.groupAuthorizers.entries.length := by
    simp [sources]
  refine ⟨vm, rfl, fun id source found => ?_, fun id source found => ?_⟩
  · obtain ⟨index, idAt, sourceAt⟩ := exists_index_of_lookup found
    refine ⟨⟨vm.machine, 0 + index⟩, lookup_keysOf acl.userAuthorizers 0 vm.machine compiled
      (fun number bound => slots number (by omega)) index id idAt, ?_⟩
    refine registryValue_of_getElem vm _ source ?_
    obtain ⟨bound, _⟩ := List.getElem?_eq_some_iff.mp sourceAt
    rw [registry, sources, Nat.zero_add, getElem?_append_left bound]
    exact sourceAt
  · obtain ⟨index, idAt, sourceAt⟩ := exists_index_of_lookup found
    refine ⟨⟨vm.machine, acl.userAuthorizers.entries.length + index⟩,
      lookup_keysOf acl.groupAuthorizers _ vm.machine compiled
        (fun number bound => slots number (by omega)) index id idAt, ?_⟩
    refine registryValue_of_getElem vm _ source ?_
    rw [registry, sources, getElem?_append_right (by simp)]
    simpa using sourceAt

def Ready : Type := { acl : ResolvedAcl // acl.luaHandle.isSome }

/-- `init_authorizers`, for a section that then has a machine. -/
def prepare (engine : LuaEngine) (machine : Nat) (acl : ResolvedAcl) : Except String Ready :=
  match success : initAuthorizers engine machine acl with
  | .error e => .error e
  | .ok ready => .ok ⟨ready, by
      obtain ⟨vm, handle, _⟩ := initAuthorizers_eq_ok success
      rw [handle]
      rfl⟩

theorem mem_collectAuthorizerKeys {accounts : Accounts} {acl : ResolvedAcl} {uid gid : UInt32}
    {keys : List RegistryKey}
    (collected : collectAuthorizerKeys accounts acl uid gid = .ok keys) :
    (∀ key, acl.userAuthorizerKeys.lookup uid = some key → key ∈ keys) ∧
      ∃ gids, getAllGids accounts uid gid = .ok gids ∧
        ∀ group ∈ gids, ∀ key, acl.groupAuthorizerKeys.lookup group = some key → key ∈ keys := by
  obtain ⟨gids, found, collected⟩ := Result.bind_eq_ok.mp collected
  cases collected
  refine ⟨fun key held => ?_, gids, found, fun group member key held => ?_⟩
  · exact mem_append_left _ (by simp [held])
  · refine mem_append_right _ (mem_map.mpr ⟨(group, key), ?_, rfl⟩)
    rw [mem_insertionSort, mem_filterMap]
    exact ⟨group, member, by simp [held]⟩

end ResolvedAcl

/-! ### The rights of a caller -/

/-- `effective_rights`: none when the caller has no access at all. -/
def effectiveRights (accounts : Accounts) (auth : AuthContext) (ownerUid : Option UInt32)
    (acl : Option ResolvedAcl) : Except String (Option (Finset Right)) :=
  match auth with
  | .root _ _ => .ok (some allRights)
  | .group uid gid =>
    if some uid = ownerUid then .ok (some allRights)
    else match acl with
      | some acl => (acl.collectRights accounts uid gid).map fun rights => some (rights.getD ∅)
      | none => .ok (some ∅)
  | .token uid gid context =>
    if uid = 0 ∨ some uid = ownerUid then .ok (some context.allow)
    else match acl with
      | some acl => (acl.collectRights accounts uid gid).map fun rights =>
          rights.map fun granted => context.allow ∩ granted
      | none => .ok none

theorem effectiveRights_token_subset {accounts : Accounts} {uid gid : UInt32}
    {context : TokenContext} {ownerUid : Option UInt32} {acl : Option ResolvedAcl}
    {rights : Finset Right}
    (granted : effectiveRights accounts (.token uid gid context) ownerUid acl =
      .ok (some rights)) : rights ⊆ context.allow := by
  unfold effectiveRights at granted
  dsimp only at granted
  split_ifs at granted with privileged
  · cases ok.inj granted
    exact Finset.Subset.refl _
  · cases acl with
    | none => simp at granted
    | some acl => ?_
    cases collected : acl.collectRights accounts uid gid with
    | error e => simp [collected, Except.map] at granted
    | ok found => ?_
    cases found with
    | none => simp [collected, Except.map] at granted
    | some =>
      simp only [collected, Except.map, Option.map_some, Except.ok.injEq,
        Option.some.injEq] at granted
      rw [← granted]
      exact Finset.inter_subset_left

/-! ### Three decisions about one caller -/

namespace ResolvedAcl

variable (accounts : Accounts) (acl : ResolvedAcl) (uid gid : UInt32)

def checkAccess (request : Request) : Except String Unit := do
  match ← acl.collectRights accounts uid gid with
  | some granted =>
    match checkRights granted request with
    | .ok () => return
    | .error e => .error s!"ACL denied: {e}"
  | none =>
    if (requiredRights request).isNone then return
    else .error "ACL denied: no matching rules for this user"

/-- `has_read_access`: the rule of the user comes before the groups are looked up. -/
def hasReadAccess : Bool :=
  (acl.userRules.lookup uid).any (Right.status ∈ ·) ||
    match getAllGids accounts uid gid with
    | .ok allGids => allGids.any fun group => (acl.groupRules.lookup group).any (Right.status ∈ ·)
    | .error _ => false

variable {accounts acl uid gid} {ownerUid : Option UInt32} {request : Request}
  {required : RequiredRights}

theorem effectiveRights_group (notOwner : some uid ≠ ownerUid) :
    effectiveRights accounts (.group uid gid) ownerUid (some acl) =
      (acl.collectRights accounts uid gid).map fun rights => some (rights.getD ∅) :=
  if_neg notOwner

theorem checkAccess_iff (notOwner : some uid ≠ ownerUid)
    (needed : requiredRights request = some required) :
    acl.checkAccess accounts uid gid request = .ok () ↔
      ∃ rights, effectiveRights accounts (.group uid gid) ownerUid (some acl) = .ok (some rights) ∧
        ∀ right ∈ required.all, right ∈ rights := by
  rw [effectiveRights_group notOwner, checkAccess]
  cases acl.collectRights accounts uid gid with
  | error e => exact iff_of_false nofun fun ⟨_, same, _⟩ => by cases same
  | ok found => ?_
  have decided (rights : Finset Right) : (ok found : Except String _).map
      (fun rights => some (rights.getD ∅)) = .ok (some rights) ↔ found.getD ∅ = rights := by
    simp [Except.map]
  simp only [decided, exists_eq_left']
  cases found with
  | none =>
    refine iff_of_false (by simp [bind, Except.bind, needed]) fun all => ?_
    exact Finset.notMem_empty _ (all required.base mem_cons_self)
  | some granted =>
    have checked := checkRights_eq_ok_iff granted request
    simp only [needed, Option.some.injEq, forall_eq'] at checked
    rw [Option.getD_some, ← checked]
    change (match checkRights granted request with | .ok () => _ | .error e => _) = _ ↔ _
    cases checkRights granted request <;> simp [pure, Except.pure]

theorem mem_foldl_union {sets : List (Finset Right)} {held : Finset Right} {right : Right} :
    right ∈ sets.foldl (· ∪ ·) held ↔ right ∈ held ∨ ∃ set ∈ sets, right ∈ set := by
  induction sets generalizing held with
  | nil => simp
  | cons first rest inductionHypothesis => simp [inductionHypothesis, or_assoc]

theorem hasReadAccess_iff (notOwner : some uid ≠ ownerUid) {allGids : List UInt32}
    (found : getAllGids accounts uid gid = .ok allGids) :
    acl.hasReadAccess accounts uid gid ↔
      ∃ rights, effectiveRights accounts (.group uid gid) ownerUid (some acl) = .ok (some rights) ∧
        .status ∈ rights := by
  let matching := (acl.userRules.lookup uid).toList ++
    allGids.filterMap fun group => acl.groupRules.lookup group
  have granted : (acl.collectRights accounts uid gid).map (fun rights => some (rights.getD ∅)) =
      .ok (some (matching.foldl (· ∪ ·) ∅)) := by
    rw [collectRights, found]
    change ok (some (Option.getD (if matching.isEmpty then none
      else some (matching.foldl (· ∪ ·) ∅)) ∅)) = _
    cases matching <;> rfl
  simp only [effectiveRights_group notOwner, granted, ok.injEq, Option.some.injEq,
    exists_eq_left', mem_foldl_union, hasReadAccess, found]
  simp only [matching, Bool.or_eq_true, Option.any_eq_true, any_eq_true, decide_eq_true_eq,
    Finset.notMem_empty, false_or, mem_append, mem_filterMap, Option.mem_toList,
    or_and_right, exists_or]
  refine or_congr_right ⟨?_, ?_⟩
  · rintro ⟨group, member, rights, rule, status⟩
    exact ⟨rights, ⟨group, member, rule⟩, status⟩
  · rintro ⟨rights, ⟨group, member, rule⟩, status⟩
    exact ⟨group, member, rights, rule, status⟩

/-- The three decisions about a member of the group agree, unless the groups of a user whose own
rule has `status` cannot be looked up. -/
theorem decisions_agree_iff (notOwner : some uid ≠ ownerUid)
    (needed : requiredRights request = some required) :
    let decided := effectiveRights accounts (.group uid gid) ownerUid (some acl)
    ((acl.checkAccess accounts uid gid request = .ok () ↔
        ∃ rights, decided = .ok (some rights) ∧ ∀ right ∈ required.all, right ∈ rights) ∧
      (acl.hasReadAccess accounts uid gid ↔
        ∃ rights, decided = .ok (some rights) ∧ .status ∈ rights)) ↔
      ((getAllGids accounts uid gid).isOk ∨
        ¬ (acl.userRules.lookup uid).any (Right.status ∈ ·)) := by
  refine (and_iff_right (checkAccess_iff notOwner needed)).trans ?_
  cases looked : getAllGids accounts uid gid with
  | ok => exact iff_of_true (hasReadAccess_iff notOwner looked) (.inl rfl)
  | error e =>
    rw [effectiveRights_group notOwner]
    simp [hasReadAccess, collectRights, looked, Except.map, Except.isOk, Except.toBool]

def statusOfOne : ResolvedAcl :=
  { empty with userRules := (∅ : HashMap UInt32 (Finset Right)).insert 1000 {.status} }

theorem statusOfOne_decisions_agree :
    let decided := effectiveRights (.fromFiles [] [] 0) (.group 1000 1000) none (some statusOfOne)
    statusOfOne.hasReadAccess (.fromFiles [] [] 0) 1000 1000 ↔
      ∃ rights, decided = .ok (some rights) ∧ .status ∈ rights :=
  ((decisions_agree_iff (by simp) (rfl : requiredRights (.status (some "/app.yaml")) = _)).mpr
    (.inl rfl)).2

/-- Without the password database the user sees the config, but has no rights. -/
theorem unreadable_groups_disagree :
    ∃ accounts : Accounts, statusOfOne.hasReadAccess accounts 1000 1000 ∧
      ¬ ∃ rights, effectiveRights accounts (.group 1000 1000) none (some statusOfOne) =
        .ok (some rights) ∧ .status ∈ rights := by
  refine ⟨{ Accounts.fromFiles [] [] 0 with
    userFromUid := fun _ => .error "EIO"
    userFromUid_uid := nofun }, by decide +kernel, ?_⟩
  rintro ⟨rights, decided, _⟩
  cases decided

end ResolvedAcl

end Kepler
