/-
This file models `token_store.rs` and `auth.rs`: the bearer tokens of spawned services, the
authentication of a caller, the hardening floor of a token, and the check that a process
of a config does not run as somebody its owner may not be.
-/

import Kepler.Hardening
import Kepler.AclRuntime
import Kepler.User

namespace Kepler

/-! ### Tokens -/

abbrev Token : Type := BitVec 256

structure TokenContext where
  allow : Finset Right
  maxHardening : HardeningLevel
  service : String
  configPath : String
  authorizer : Option RegistryKey
  deriving DecidableEq

/-- The registered tokens, in the order of their registration. -/
abbrev TokenStore : Type := List (Token × TokenContext)

variable {context : TokenContext}

namespace TokenStore

def register (store : TokenStore) (token : Token) (context : TokenContext) : TokenStore :=
  store ++ [(token, context)]

/-- `TokenStore::get`: the first registration of a token. -/
def get (store : TokenStore) (token : Token) : Option TokenContext :=
  (store.find? fun entry => entry.1 = token).map Prod.snd

def revokeForService (store : TokenStore) (configPath service : String) : TokenStore :=
  store.filter fun entry => !(entry.2.configPath == configPath && entry.2.service == service)

def revokeForConfig (store : TokenStore) (configPath : String) : TokenStore :=
  store.filter fun entry => entry.2.configPath != configPath

end TokenStore

/-! ### Authentication -/

inductive AuthContext where
  | root (uid gid : UInt32)
  | group (uid gid : UInt32)
  | token (uid gid : UInt32) (context : TokenContext)
  deriving DecidableEq

/-- The credentials of the connected process, and the token it presents. -/
structure Peer where
  uid : UInt32
  gid : UInt32
  token : Option Token
  deriving DecidableEq

namespace AuthContext

def uid : AuthContext → UInt32
  | root uid _ => uid
  | group uid _ => uid
  | token uid _ _ => uid

def gid : AuthContext → UInt32
  | root _ gid => gid
  | group _ gid => gid
  | token _ gid _ => gid

end AuthContext

/-- `resolve_auth`: a registered token, then root, then the kepler group. -/
def resolveAuth (accounts : Accounts) (peer : Peer) (keplerGid : UInt32) (store : TokenStore) :
    Except String AuthContext :=
  match peer.token.bind store.get with
  | some context => .ok (.token peer.uid peer.gid context)
  | none =>
    if peer.uid = 0 then .ok (.root peer.uid peer.gid)
    else if peer.gid = keplerGid ∨ uidHasGid accounts peer.uid keplerGid then
      .ok (.group peer.uid peer.gid)
    else .error "permission denied: not authorized to connect to the daemon"

/-! ### The hardening floor of a token -/

def checkHardeningFloor (context : TokenContext) (requestedHardening : Option String) :
    Except String (Option HardeningLevel) :=
  if context.maxHardening = .none then
    match requestedHardening with
    | none => .ok none
    | some text => (HardeningLevel.fromStr text).map some
  else match requestedHardening with
    | none => .ok (some context.maxHardening)
    | some text =>
      match HardeningLevel.fromStr text with
      | .error e => .error e
      | .ok level =>
        if level < context.maxHardening then
          .error ("permission denied: requested hardening level '" ++ level.text ++
            "' is below the process's floor '" ++ context.maxHardening.text ++ "'")
        else .ok (some level)

theorem floor_le_of_checkHardeningFloor {requested : Option String} {level : Option HardeningLevel}
    (passed : checkHardeningFloor context requested = .ok level) :
    context.maxHardening ≤ level.getD .none := by
  unfold checkHardeningFloor at passed
  by_cases noFloor : context.maxHardening = .none
  · rw [noFloor]
    exact HardeningLevel.none_le _
  · rw [if_neg noFloor] at passed
    cases requested with
    | none =>
      cases passed
      exact le_refl _
    | some text =>
      cases parsed : HardeningLevel.fromStr text with
      | error e => simp [parsed] at passed
      | ok asked =>
        simp only [parsed] at passed
        split_ifs at passed with below
        cases passed
        exact not_lt.mp below

/-! ### Privilege escalation -/

def checkPrivilegeEscalation (accounts : Accounts) (hardening : HardeningLevel)
    (userSpec : Option String) (ownerUid : Option UInt32) (context : String) :
    Except String Unit :=
  if hardening = .none then .ok ()
  else match ownerUid with
    | none => .ok ()
    | some owner =>
      if owner = 0 then .ok ()
      else match userSpec with
        | none => .ok ()
        | some spec =>
          match resolveUser accounts spec with
          | .error e =>
            .error ("Privilege escalation check failed for " ++ context ++
              ": cannot resolve user '" ++ spec ++ "': " ++ e.text)
          | .ok resolved =>
            match hardening with
            | .none => .ok ()
            | .noRoot =>
              if resolved.uid = 0 then
                .error ("Privilege escalation denied for " ++ context ++ ": user '" ++ spec ++
                  "' resolves to uid 0 (root), but config owner is uid " ++ toString owner ++
                  " (hardening level: no-root)")
              else .ok ()
            | .strict =>
              if resolved.uid ≠ owner then
                .error ("Privilege escalation denied for " ++ context ++ ": user '" ++ spec ++
                  "' (uid " ++ toString resolved.uid ++ ") is not the config owner uid " ++
                  toString owner ++ " (hardening level: strict)")
              else .ok ()

theorem checkPrivilegeEscalation_eq_ok {accounts : Accounts} {hardening : HardeningLevel}
    {spec : String} {owner : UInt32} {context : String} (restricted : hardening ≠ .none)
    (nonRoot : owner ≠ 0)
    (passed : checkPrivilegeEscalation accounts hardening (some spec) (some owner) context =
      .ok ()) :
    ∃ resolved, resolveUser accounts spec = .ok resolved ∧ resolved.uid ≠ 0 ∧
      (hardening = .strict → resolved.uid = owner) := by
  unfold checkPrivilegeEscalation at passed
  rw [if_neg restricted] at passed
  simp only [if_neg nonRoot] at passed
  cases found : resolveUser accounts spec with
  | error e => simp [found] at passed
  | ok resolved => ?_
  simp only [found] at passed
  refine ⟨resolved, rfl, ?_⟩
  cases hardening with
  | none => exact absurd rfl restricted
  | noRoot =>
    dsimp only at passed
    split_ifs at passed with isRoot
    exact ⟨isRoot, fun impossible => absurd impossible (by decide)⟩
  | strict =>
    dsimp only at passed
    split_ifs at passed with other
    have equal : resolved.uid = owner := not_not.mp other
    exact ⟨by rw [equal]; exact nonRoot, fun _ => equal⟩

end Kepler
