/-
This file settles when the resolution of an ACL section depends on the order in which its maps are
walked.

The rights granted to a number are the union over all keys that stand for it, whatever the order.
The authorizer kept for a number is the one of the key visited last. So every declared authorizer is
run exactly when keys that stand for one number declare one and the same authorizer.
-/

import Kepler.Acl

namespace Kepler

open HashMap ResolvedAcl List

/-! ### What the loops collect -/

section

variable (resolve : String → Except String UInt32) (aliases : Aliases)

/-- The update that a rule makes to the rights, if its key and list resolve. -/
def grantedRights (entry : AclEntry) : Option (Update UInt32 (Finset Right)) :=
  match resolve entry.1, expandAllow entry.2.allow aliases with
  | .ok id, .ok expanded => some (id, extendRights expanded)
  | _, _ => none

/-- The authorizer that a rule declares, with the number its key stands for. -/
def declaredAuthorizer (entry : AclEntry) : Option (UInt32 × String) :=
  match resolve entry.1, entry.2.authorize with
  | .ok id, some source => some (id, source)
  | _, _ => none

def RulesResolve (entries : List AclEntry) : Prop :=
  ∀ entry ∈ entries, (grantedRights resolve aliases entry).isSome

theorem addRule_of_resolves (maps : RuleMaps) (entry : AclEntry)
    (resolves : (grantedRights resolve aliases entry).isSome) :
    addRule resolve aliases maps entry = .ok {
      rules := maps.rules.updateAll ([entry].filterMap (grantedRights resolve aliases))
      authorizers := maps.authorizers.updateAll
        (insertions (declaredAuthorizer resolve) [entry]) } := by
  unfold addRule
  cases found : resolve entry.1 with
  | error e => simp [grantedRights, found] at resolves
  | ok id => ?_
  cases expansion : expandAllow entry.2.allow aliases with
  | error e => simp [grantedRights, found, expansion] at resolves
  | ok =>
    cases source : entry.2.authorize <;>
      simp [grantedRights, declaredAuthorizer, insertions, inserting, updateAll, update, found,
        expansion, source, bind, Except.bind, pure, Except.pure]

theorem addRule_of_not_resolves (maps : RuleMaps) (entry : AclEntry)
    (unresolved : (grantedRights resolve aliases entry).isSome = false) :
    ∃ e, addRule resolve aliases maps entry = .error e := by
  unfold addRule
  cases found : resolve entry.1 with
  | error e => exact ⟨e, rfl⟩
  | ok id =>
    cases expansion : expandAllow entry.2.allow aliases with
    | error e => exact ⟨e, rfl⟩
    | ok => simp [grantedRights, found, expansion] at unresolved

section

variable (maps : RuleMaps) (entries : List AclEntry)

theorem foldlM_addRule_of_resolve (allResolve : RulesResolve resolve aliases entries) :
    entries.foldlM (addRule resolve aliases) maps = .ok {
      rules := maps.rules.updateAll (entries.filterMap (grantedRights resolve aliases))
      authorizers := maps.authorizers.updateAll
        (insertions (declaredAuthorizer resolve) entries) } := by
  induction entries generalizing maps with
  | nil => rfl
  | cons entry rest inductionHypothesis =>
    have here := allResolve entry mem_cons_self
    have later : RulesResolve resolve aliases rest := fun other member =>
      allResolve other (mem_cons_of_mem _ member)
    rw [foldlM_cons, addRule_of_resolves resolve aliases maps entry here]
    refine (inductionHypothesis _ later).trans ?_
    have rights : (entry :: rest).filterMap (grantedRights resolve aliases) =
        [entry].filterMap (grantedRights resolve aliases) ++
          rest.filterMap (grantedRights resolve aliases) :=
      filterMap_append (l := [entry])
    have authorizers : insertions (declaredAuthorizer resolve) (entry :: rest) =
        insertions (declaredAuthorizer resolve) [entry] ++
          insertions (declaredAuthorizer resolve) rest := by
      simp only [insertions, ← map_append, ← filterMap_append, singleton_append]
    rw [rights, authorizers]
    simp only [updateAll, foldl_append]

theorem foldlM_addRule_of_not_resolve (unresolved : ¬ RulesResolve resolve aliases entries) :
    ∃ e, entries.foldlM (addRule resolve aliases) maps = .error e := by
  induction entries generalizing maps with
  | nil => exact absurd (fun _ member => absurd member (by simp)) unresolved
  | cons entry rest inductionHypothesis =>
    rw [foldlM_cons]
    cases here : (grantedRights ..).isSome with
    | false =>
      obtain ⟨e, failed⟩ := addRule_of_not_resolves resolve aliases maps entry here
      exact ⟨e, by rw [failed]; rfl⟩
    | true =>
      have later : ¬ RulesResolve resolve aliases rest := fun rest =>
        unresolved (forall_mem_cons.mpr ⟨here, rest⟩)
      rw [addRule_of_resolves resolve aliases maps entry here]
      exact inductionHypothesis _ later

theorem resolveRules_of_resolve (allResolve : RulesResolve resolve aliases entries) :
    resolveRules resolve aliases entries = .ok {
      rules := updateAll ∅ (entries.filterMap (grantedRights resolve aliases))
      authorizers := collect (declaredAuthorizer resolve) entries } :=
  foldlM_addRule_of_resolve resolve aliases ⟨∅, ∅⟩ entries allResolve

theorem resolveRules_of_not_resolve (unresolved : ¬ RulesResolve resolve aliases entries) :
    ∃ e, resolveRules resolve aliases entries = .error e :=
  foldlM_addRule_of_not_resolve resolve aliases ⟨∅, ∅⟩ entries unresolved

theorem rulesResolve_perm {entries reordered : List AclEntry} (permuted : reordered.Perm entries) :
    RulesResolve resolve aliases reordered ↔ RulesResolve resolve aliases entries := by
  constructor
  · intro all entry member
    exact all entry (permuted.mem_iff.mpr member)
  · intro all entry member
    exact all entry (permuted.mem_iff.mp member)

theorem commute_grantedRights (first : Update UInt32 (Finset Right))
    (left : first ∈ entries.filterMap (grantedRights resolve aliases))
    (second : Update UInt32 (Finset Right))
    (right : second ∈ entries.filterMap (grantedRights resolve aliases)) :
    Commute first second := by
  have shape : ∀ step ∈ entries.filterMap (grantedRights resolve aliases),
      ∃ expanded, step.2 = extendRights expanded := by
    intro step member
    obtain ⟨entry, _, made⟩ := mem_filterMap.mp member
    unfold grantedRights at made
    split at made
    · rename_i id expanded _ _
      exact ⟨expanded, by rw [← Option.some.inj made]⟩
    · cases made
  obtain ⟨leftSet, leftEqual⟩ := shape first left
  obtain ⟨rightSet, rightEqual⟩ := shape second right
  intro _ found
  rw [leftEqual, rightEqual]
  show (found.getD ∅ ∪ leftSet) ∪ rightSet = (found.getD ∅ ∪ rightSet) ∪ leftSet
  exact Finset.union_right_comm _ _ _

end

theorem rules_perm {entries reordered : List AclEntry} (permuted : reordered.Perm entries) :
    Same (updateAll ∅ (reordered.filterMap (grantedRights resolve aliases)))
      (updateAll ∅ (entries.filterMap (grantedRights resolve aliases))) :=
  updateAll_perm ∅ (permuted.filterMap _) (commute_grantedRights resolve aliases reordered)

end

/-! ### Sections in another order -/

/-- The two sections have the same entries, walked in a possibly different order. -/
structure AclConfig.Reordering (reordered acl : AclConfig) : Prop where
  lua : reordered.lua = acl.lua
  aliases : reordered.aliases = acl.aliases
  users : HashMap.Reordering reordered.users acl.users
  groups : HashMap.Reordering reordered.groups acl.groups

structure ResolvedAcl.Same (left right : ResolvedAcl) : Prop where
  userRules : HashMap.Same left.userRules right.userRules
  groupRules : HashMap.Same left.groupRules right.groupRules
  userAuthorizers : HashMap.Same left.userAuthorizers right.userAuthorizers
  groupAuthorizers : HashMap.Same left.groupAuthorizers right.groupAuthorizers
  aclLua : left.aclLua = right.aclLua

/-- Two resolutions both fail, or both succeed with the same contents. -/
def SameOutcome : Except String ResolvedAcl → Except String ResolvedAcl → Prop
  | .ok left, .ok right => left.Same right
  | .error _, .error _ => True
  | _, _ => False

def AclConfig.Resolvable (accounts : Accounts) (acl : AclConfig) : Prop :=
  RulesResolve (resolveUid accounts) acl.aliases acl.users.entries ∧
    RulesResolve (resolveGid accounts) acl.aliases acl.groups.entries

/-- Two rules of one kind for the same number declare the same authorizer, if both declare one. -/
def AuthorizersAgree (resolve : String → Except String UInt32) (rules : HashMap String AclRule) :
    Prop :=
  Functional (rules.entries.filterMap (declaredAuthorizer resolve))

variable (accounts : Accounts)

theorem fromConfig_of_resolvable (acl : AclConfig) (resolvable : acl.Resolvable accounts) :
    fromConfig accounts acl = .ok {
      userRules := updateAll ∅
        (acl.users.entries.filterMap (grantedRights (resolveUid accounts) acl.aliases))
      groupRules := updateAll ∅
        (acl.groups.entries.filterMap (grantedRights (resolveGid accounts) acl.aliases))
      userAuthorizers := collect (declaredAuthorizer (resolveUid accounts)) acl.users.entries
      groupAuthorizers := collect (declaredAuthorizer (resolveGid accounts)) acl.groups.entries
      aclLua := acl.lua
      luaHandle := none
      userAuthorizerKeys := ∅
      groupAuthorizerKeys := ∅ } := by
  unfold fromConfig
  rw [resolveRules_of_resolve _ _ _ resolvable.1, resolveRules_of_resolve _ _ _ resolvable.2]
  rfl

theorem fromConfig_of_not_resolvable (acl : AclConfig) (unresolvable : ¬ acl.Resolvable accounts) :
    ∃ e, fromConfig accounts acl = .error e := by
  unfold fromConfig
  by_cases users : RulesResolve (resolveUid accounts) acl.aliases acl.users.entries
  · have groups : ¬ RulesResolve (resolveGid accounts) acl.aliases acl.groups.entries :=
      fun resolve => unresolvable ⟨users, resolve⟩
    obtain ⟨e, failed⟩ := resolveRules_of_not_resolve _ _ _ groups
    exact ⟨e, by rw [resolveRules_of_resolve _ _ _ users, failed]; rfl⟩
  · obtain ⟨e, failed⟩ := resolveRules_of_not_resolve _ _ _ users
    exact ⟨e, by rw [failed]; rfl⟩

theorem AclConfig.Reordering.resolvable_iff {accounts : Accounts} {reordered acl : AclConfig}
    (order : reordered.Reordering acl) :
    reordered.Resolvable accounts ↔ acl.Resolvable accounts := by
  unfold AclConfig.Resolvable
  rw [order.aliases]
  exact and_congr (rulesResolve_perm _ _ order.users) (rulesResolve_perm _ _ order.groups)

/-- The section resolves alike in every order iff it does not resolve or its authorizers agree. -/
theorem fromConfig_orderIndependent_iff (acl : AclConfig) :
    (∀ reordered : AclConfig, reordered.Reordering acl →
        SameOutcome (fromConfig accounts reordered)
          (fromConfig accounts acl)) ↔
      (acl.Resolvable accounts → AuthorizersAgree (resolveUid accounts) acl.users ∧
        AuthorizersAgree (resolveGid accounts) acl.groups) := by
  constructor
  · intro independent resolvable
    have same : ∀ reordered : AclConfig, reordered.Reordering acl →
        Same (collect (declaredAuthorizer (resolveUid accounts)) reordered.users.entries)
            (collect (declaredAuthorizer (resolveUid accounts)) acl.users.entries) ∧
          Same (collect (declaredAuthorizer (resolveGid accounts)) reordered.groups.entries)
            (collect (declaredAuthorizer (resolveGid accounts)) acl.groups.entries) := by
      intro reordered order
      have outcome := independent reordered order
      rw [fromConfig_of_resolvable accounts acl resolvable, fromConfig_of_resolvable accounts
        reordered (order.resolvable_iff.mpr resolvable)] at outcome
      exact ⟨outcome.userAuthorizers, outcome.groupAuthorizers⟩
    refine ⟨(collect_orderIndependent_iff _ _).mp fun entries permuted => ?_,
      (collect_orderIndependent_iff _ _).mp fun entries permuted => ?_⟩
    · exact (same { acl with users := acl.users.reorder entries permuted }
        ⟨rfl, rfl, permuted, List.Perm.refl _⟩).1
    · exact (same { acl with groups := acl.groups.reorder entries permuted }
        ⟨rfl, rfl, List.Perm.refl _, permuted⟩).2
  · intro agree reordered order
    by_cases resolvable : acl.Resolvable accounts
    · obtain ⟨users, groups⟩ := agree resolvable
      rw [fromConfig_of_resolvable accounts acl resolvable, fromConfig_of_resolvable accounts
        reordered (order.resolvable_iff.mpr resolvable)]
      refine ⟨?_, ?_, (collect_orderIndependent_iff _ _).mpr users _ order.users,
        (collect_orderIndependent_iff _ _).mpr groups _ order.groups, order.lua⟩
      · rw [order.aliases]
        exact rules_perm _ _ order.users
      · rw [order.aliases]
        exact rules_perm _ _ order.groups
    · obtain ⟨left, leftFailed⟩ := fromConfig_of_not_resolvable accounts acl resolvable
      obtain ⟨right, rightFailed⟩ := fromConfig_of_not_resolvable accounts reordered
        fun other => resolvable (order.resolvable_iff.mp other)
      rw [leftFailed, rightFailed]
      trivial

/-! ### Every declared authorizer is run -/

def DeclaresFor (resolve : String → Except String UInt32) (rules : HashMap String AclRule)
    (id : UInt32) (source : String) : Prop :=
  ∃ key rule, (⟨key, rule⟩ : AclEntry) ∈ rules.entries ∧ resolve key = .ok id ∧
    rule.authorize = some source

def AclConfig.Declares (accounts : Accounts) (acl : AclConfig) (uid gid : UInt32)
    (source : String) : Prop :=
  DeclaresFor (resolveUid accounts) acl.users uid source ∨
    ∃ gids, getAllGids accounts uid gid = .ok gids ∧
      ∃ group ∈ gids, DeclaresFor (resolveGid accounts) acl.groups group source

/-- Whenever the section, resolved in some order and initialised, lets a request pass, each
authorizer it declares for the caller was called for it and answered `true`. Its machine may have
compiled authorizers of tokens in between. -/
def AclConfig.RunsDeclared (accounts : Accounts) (acl : AclConfig) : Prop :=
  ∀ (resolved ready : ResolvedAcl) (initialEngine engine : LuaEngine) (machine : Nat)
    (compiled : List String),
    (∃ base, fromConfig accounts acl = .ok base ∧ base.Same resolved) →
    resolved.initAuthorizers initialEngine machine = .ok ready →
    ∀ (uid gid : UInt32) (tokenAuthorizer : Option RegistryKey) (context : AuthorizerContext),
      ((ready.withCompiled compiled).checkAuthorizers accounts engine uid gid tokenAuthorizer
        context).1 = .ok () →
      ∀ source, acl.Declares accounts uid gid source →
        ∃ key, LuaVm.Allowed ((ready.withCompiled compiled).checkAuthorizers accounts engine uid
          gid tokenAuthorizer context).2 context key source

variable {resolve : String → Except String UInt32} {rules : HashMap String AclRule}
  {source : String}

theorem declaresFor_iff {id : UInt32} :
    DeclaresFor resolve rules id source ↔
      (id, source) ∈ rules.entries.filterMap (declaredAuthorizer resolve) := by
  rw [mem_filterMap]
  constructor
  · rintro ⟨key, rule, member, found, declared⟩
    exact ⟨⟨key, rule⟩, member, by simp [declaredAuthorizer, found, declared]⟩
  · rintro ⟨⟨key, rule⟩, member, made⟩
    unfold declaredAuthorizer at made
    split at made
    · rename_i found declared
      simp only [Option.some.injEq, Prod.mk.injEq] at made
      obtain ⟨rfl, rfl⟩ := made
      exact ⟨key, rule, member, found, declared⟩
    · cases made

theorem authorizersAgree_perm {reordered : HashMap String AclRule}
    (order : HashMap.Reordering reordered rules) (agree : AuthorizersAgree resolve rules) :
    AuthorizersAgree resolve reordered :=
  fun first left second right =>
    agree first ((order.filterMap _).mem_iff.mp left) second ((order.filterMap _).mem_iff.mp right)

theorem lookup_of_declaresFor (agree : AuthorizersAgree resolve rules) {id : UInt32}
    (declared : DeclaresFor resolve rules id source) :
    (collect (declaredAuthorizer resolve) rules.entries).lookup id = some source :=
  (lookup_collect_eq_some_iff _ _ agree id source).mpr (declaresFor_iff.mp declared)

theorem runsDeclared_of_agree (acl : AclConfig)
    (agree : acl.Resolvable accounts → AuthorizersAgree (resolveUid accounts) acl.users ∧
      AuthorizersAgree (resolveGid accounts) acl.groups) : acl.RunsDeclared accounts := by
  rintro resolved ready initialEngine engine machine compiled ⟨base, success, same⟩ initialised
    uid gid tokenAuthorizer context passed source declared
  have resolvable : acl.Resolvable accounts := by
    by_contra unresolvable
    obtain ⟨e, failed⟩ := fromConfig_of_not_resolvable accounts acl unresolvable
    rw [failed] at success
    cases success
  obtain ⟨users, groups⟩ := agree resolvable
  rw [fromConfig_of_resolvable accounts acl resolvable] at success
  cases success
  obtain ⟨vm, handle, compiledUsers, compiledGroups⟩ :=
    initAuthorizers_eq_ok initialised
  unfold checkAuthorizers withCompiled at passed ⊢
  rw [handle] at passed ⊢
  simp only [Option.map_some] at passed ⊢
  cases collected : collectAuthorizerKeys accounts
      { ready with luaHandle := some (vm.extend compiled) } uid gid with
  | error e => simp [collected] at passed
  | ok keys => ?_
  simp only [collected] at passed ⊢
  obtain ⟨userKeys, gids, found, groupKeys⟩ := mem_collectAuthorizerKeys collected
  -- a compiled key of the caller is evaluated, and its source is the declared one
  have allowed : ∀ key ∈ keys, vm.registryValue key = .ok source →
      ∃ key, LuaVm.Allowed ((vm.extend compiled).evaluateAuthorizers engine
        (tokenAuthorizer.toList ++ keys) context).2 context key source := by
    intro key member held
    obtain ⟨stored, storedHeld, called⟩ := LuaVm.evaluateAuthorizers_eq_ok engine _ _ context
      passed key (mem_append_right _ member)
    rw [LuaVm.registryValue_extend compiled held] at storedHeld
    cases storedHeld
    exact ⟨key, called⟩
  rcases declared with byUser | ⟨declaredGids, declaredFound, group, member, byGroup⟩
  · have kept := lookup_of_declaresFor users byUser
    rw [same.userAuthorizers uid] at kept
    obtain ⟨key, keyFound, held⟩ := compiledUsers uid source kept
    exact allowed key (userKeys key keyFound) held
  · cases declaredFound.symm.trans found
    have kept := lookup_of_declaresFor groups byGroup
    rw [same.groupAuthorizers group] at kept
    obtain ⟨key, keyFound, held⟩ := compiledGroups group source kept
    exact allowed key (groupKeys group member key keyFound) held

/-- The section resolves alike in every iteration order, and in every order each authorizer declared
for a caller is run and must answer `true`, exactly when the section does not resolve at all or keys
that stand for one number never declare different authorizers. -/
theorem aclSection_enforced_iff (accounts : Accounts) (acl : AclConfig) :
    (∀ reordered : AclConfig, reordered.Reordering acl →
        SameOutcome (fromConfig accounts reordered)
            (fromConfig accounts acl) ∧ reordered.RunsDeclared accounts) ↔
      (acl.Resolvable accounts → AuthorizersAgree (resolveUid accounts) acl.users ∧
        AuthorizersAgree (resolveGid accounts) acl.groups) := by
  constructor
  · intro enforced
    exact (fromConfig_orderIndependent_iff ..).mp fun reordered order =>
      (enforced reordered order).1
  · intro agree reordered order
    refine ⟨(fromConfig_orderIndependent_iff ..).mpr agree reordered order, ?_⟩
    refine runsDeclared_of_agree accounts reordered fun resolvable => ?_
    obtain ⟨users, groups⟩ := agree (order.resolvable_iff.mp resolvable)
    exact ⟨authorizersAgree_perm order.users users, authorizersAgree_perm order.groups groups⟩

/-! ### A section that names one user twice -/

def aliceAccounts : Accounts :=
  .fromFiles [{ name := "alice", uid := 1000, gid := 1000, dir := "/home/alice", shell := "/bin/sh" }]
    [{ name := "alice", gid := 1000, members := [] }] 65536

def refusingRule : AclRule := { allow := ["stop"], authorize := some "return false" }

def allowingRule : AclRule := { allow := ["stop"], authorize := some "return true" }

/-- The user is named once by name and once by number, with different authorizers. -/
def twiceNamedSection : AclConfig where
  lua := none
  aliases := ∅
  users := ⟨[⟨"alice", refusingRule⟩, ⟨"1000", allowingRule⟩], by
    simp [List.NodupKeys, List.keys]⟩
  groups := ∅

def twiceNamedReordered : AclConfig :=
  { twiceNamedSection with
    users := ⟨[⟨"1000", allowingRule⟩, ⟨"alice", refusingRule⟩], by
      simp [List.NodupKeys, List.keys]⟩ }

def constantEngine : LuaEngine where
  create := .ok ()
  exec _ := .ok ()
  compile _ _ := .ok ()
  call _ source _ _ _ := .ok (.boolean (source == "return true"))

def aliceStopContext : AuthorizerContext where
  action := "stop"
  uid := 1000
  gid := 1000
  username := some "alice"
  groups := [1000]
  isToken := false
  params := ∅
  configPath := some "/srv/app.yaml"

def stopVerdict (acl : AclConfig) : Option (Except String Unit) :=
  (((fromConfig aliceAccounts acl).bind
    (initAuthorizers constantEngine 0)).toOption).map fun ready =>
      (ready.checkAuthorizers aliceAccounts constantEngine 1000 1000 none aliceStopContext).1

/-- In one order the request of the user is refused. In the other it passes although an authorizer
declared for the user answers `false`. -/
theorem twiceNamedSection_order_decides :
    twiceNamedReordered.Reordering twiceNamedSection ∧
      stopVerdict twiceNamedSection = some (.ok ()) ∧
      stopVerdict twiceNamedReordered = some (.error "Authorizer #0 denied the request") ∧
      twiceNamedSection.Declares aliceAccounts 1000 1000 "return false" := by
  refine ⟨⟨rfl, rfl, List.Perm.swap _ _ _, List.Perm.refl _⟩, rfl, rfl, Or.inl ?_⟩
  exact ⟨"alice", refusingRule, mem_cons_self, rfl, rfl⟩

end Kepler
