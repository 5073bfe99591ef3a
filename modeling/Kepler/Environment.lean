/-
This file models how the environment of a service process is put together (`prepare_service_launch`
and `spawn_service_with_token_guard` in `orchestrator/mod.rs`, the last lines of `build_command` in
`process/spawn.rs`).

The flag that keeps the kepler environment out is also the flag that clears the process's
environment. So a service that inherits the kepler environment inherits that of the daemon process
as well. The main result says that the daemon's environment is kept out exactly for services that do
not inherit and whose env file does not refer to it.
-/

import Kepler.Resolve
import Mathlib.Data.String.Basic
import Mathlib.Data.Fintype.EquivFin

namespace Kepler

open HashMap Option AList Result List

/-! ### Sources of variables -/

/-- `insert_env_entries`: an entry without an equals sign is passed over. -/
def insertEnvEntries (env : Bindings) (entries : List String) : Bindings :=
  entries.foldl (fun env entry =>
    match Text.splitOnce '=' entry with
    | some (key, value) => env.insert key value
    | none => env) env

def entryValue (entries : List String) (name : String) : Option String :=
  entries.reverse.findSome? fun entry =>
    (Text.splitOnce '=' entry).bind fun (key, value) => if key = name then some value else none

theorem lookup_insertEnvEntries (env : Bindings) (entries : List String) (name : String) :
    (insertEnvEntries env entries).lookup name =
      (entryValue entries name).or (env.lookup name) := by
  induction entries using reverseRecOn with
  | nil => rfl
  | append_singleton rest entry inductionHypothesis =>
    simp only [insertEnvEntries, entryValue, foldl_append, foldl_cons, foldl_nil,
      reverse_append, reverse_singleton, singleton_append, findSome?_cons]
      at inductionHypothesis ⊢
    cases Text.splitOnce '=' entry with
    | none => exact inductionHypothesis
    | some pair => ?_
    dsimp only [bind_some]
    rw [lookup_insert_eq, inductionHypothesis]
    by_cases same : pair.1 = name
    · rw [if_pos same, if_pos same]
      rfl
    · rw [if_neg same, if_neg same]

def optionalBinding (name : String) (value : Option String) : Bindings :=
  match value with
  | some value => (∅ : Bindings).insert name value
  | none => ∅

def resolveUserEnv (accounts : Accounts) (userSpec : String) : Except DaemonError Bindings := do
  let resolved ← resolveUser accounts userSpec
  return optionalBinding "SHELL" resolved.shell ∪ optionalBinding "HOME" resolved.home ∪
    optionalBinding "LOGNAME" resolved.username ∪ optionalBinding "USER" resolved.username

def userVariables (accounts : Accounts) (user : Option String) : Bindings :=
  match user.map (resolveUserEnv accounts) with
  | some (.ok vars) => vars
  | some (.error _) | none => ∅

/-- `dotenvy::from_path_iter` on the contents of a file. A value may refer to variables of the
process that reads the file. Whether the file parses does not depend on them: one that is not set
counts as empty. -/
structure EnvFileReader where
  read : Bindings → String → Except String Bindings
  parses : ∀ left right contents vars, read left contents = .ok vars →
    ∃ others, read right contents = .ok others

/-! ### The launch of a service -/

/-- What the launch of a service reads to compute its environment. -/
structure LaunchSettings where
  service : String
  keplerEnv : Bindings
  /-- The `user` field of the config, and what it resolves to. -/
  user : ConfigValue (Option String)
  resolvedUser : Option String
  userIdentity : Option Bool
  inheritEnv : Option Bool
  defaultInheritEnv : Option Bool
  /-- What `load_service_env_file` reads: the copy in the state directory, or the original. -/
  savedEnvFile : Option String
  /-- The path and the contents of the file that `resolve_env_file` reads. -/
  envFile : Option (String × String)
  /-- The `environment` entries with their expressions evaluated. -/
  environment : List String

/-- The two maps of the evaluation context of a service. -/
structure ServiceVariables where
  envFile : Bindings
  env : Bindings

def keplerToken : String := "KEPLER_TOKEN"

def keplerSocketPath : String := "KEPLER_SOCKET_PATH"

def keplerDaemonPath : String := "KEPLER_DAEMON_PATH"

def getSocketPath (daemonEnv : Bindings) : String :=
  match daemonEnv.lookup keplerSocketPath with
  | some path => path
  | none => joinPath ((daemonEnv.lookup keplerDaemonPath).getD "/var/lib/kepler") "kepler.sock"

/-- The two variables that a service never takes from its config. -/
def withoutReserved (env : Bindings) : Bindings := (env.erase keplerToken).erase keplerSocketPath

/-- What a service with a token is given to reach the daemon. -/
def injectToken (daemonEnv : Bindings) (token : Option Token) (env : Bindings) : Bindings :=
  match token with
  | none => env
  | some token => (env.insert keplerToken token.toHex).insert keplerSocketPath
      (getSocketPath daemonEnv)

namespace LaunchSettings

/-- `resolve_inherit_env`. -/
def inherits (settings : LaunchSettings) : Bool :=
  (settings.inheritEnv.or settings.defaultInheritEnv).getD true

section

variable (accounts : Accounts) (reader : EnvFileReader) (settings : LaunchSettings)
  (daemonEnv : Bindings)

/-- The variables of a static user, injected early for expressions. -/
def earlyIdentity : Bindings :=
  if settings.userIdentity = some false then ∅
  else userVariables accounts (settings.user.asStatic.bind id)

/-- `load_service_env_file`: a file that does not parse counts as an empty one. -/
def savedVariables : Bindings :=
  match settings.savedEnvFile.map (reader.read daemonEnv) with
  | some (.ok vars) => vars
  | some (.error _) | none => ∅

/-- `resolve_env_file`: here a file that does not parse is an error. -/
def currentVariables : Except DaemonError Bindings :=
  match settings.envFile with
  | none => .ok ∅
  | some (path, contents) => (reader.read daemonEnv contents).mapError fun e =>
      .config ("Failed to load env_file '" ++ path ++ "' for service '" ++ settings.service ++
        "': Failed to parse environment file " ++ path ++ ": " ++ e)

/-- The evaluation context of a service with its env file and environment. -/
def serviceVariables : Except DaemonError ServiceVariables := do
  let saved := settings.savedVariables reader daemonEnv
  let full := saved ∪ (settings.earlyIdentity accounts ∪ settings.keplerEnv)
  let current ← settings.currentVariables reader daemonEnv
  return {
    envFile := current ∪ saved
    env := insertEnvEntries (current ∪ full) settings.environment }

def identity : Bindings :=
  if settings.userIdentity.getD true then userVariables accounts settings.resolvedUser else ∅

/-- The environment that `prepare_service_launch` stores for the service. -/
def computedEnv : Except DaemonError Bindings := do
  let found ← settings.serviceVariables accounts reader daemonEnv
  let base := if settings.inherits then found.env
    else insertEnvEntries found.envFile settings.environment
  return settings.identity accounts ∪ withoutReserved base

/-- The environment in which the process is executed: `build_command` clears that of the daemon only
for a service that does not inherit. -/
def executedEnv (token : Option Token) : Except DaemonError Bindings := do
  let computed ← settings.computedEnv accounts reader daemonEnv
  let environment := injectToken daemonEnv token (withoutReserved computed)
  let clearEnv := !settings.inherits
  return if clearEnv then environment else environment ∪ daemonEnv

end

/-! ### What isolation asks -/

variable (accounts : Accounts) (reader : EnvFileReader) (settings : LaunchSettings) {name : String}

/-- The env file of the service parses, so that the service can be launched. -/
def Readable : Prop :=
  ∃ daemonEnv current, settings.currentVariables reader daemonEnv = .ok current

/-- The variable is set in the env file, by the copy or by the current file. -/
def InEnvFile (daemonEnv : Bindings) (name : String) : Prop :=
  name ∈ settings.savedVariables reader daemonEnv ∨
    ∃ current, settings.currentVariables reader daemonEnv = .ok current ∧ name ∈ current

/-- The sources of the variables of a service: the kepler environment, with the early identity over
it, for a service that inherits, then env file, entries, identity, and the two variables of a token.
-/
def Provided (daemonEnv : Bindings) (token : Option Token) (name : String) : Prop :=
  if name = keplerToken ∨ name = keplerSocketPath then token.isSome = true
  else (settings.inherits ∧ (name ∈ settings.keplerEnv ∨ name ∈ settings.earlyIdentity accounts)) ∨
    settings.InEnvFile reader daemonEnv name ∨ name ∈ insertEnvEntries ∅ settings.environment ∨
    name ∈ settings.identity accounts

/-- The environment of the process is the same under every environment of the daemon but for the
socket path that comes with a token, and it holds exactly the variables of the sources. -/
def Isolated (token : Option Token) : Prop :=
  (∀ left right first second,
      settings.executedEnv accounts reader left token = .ok first →
      settings.executedEnv accounts reader right token = .ok second →
      ∀ name, name ≠ keplerSocketPath → first.lookup name = second.lookup name) ∧
    ∀ daemonEnv env, settings.executedEnv accounts reader daemonEnv token = .ok env →
      env.lookup keplerSocketPath = token.map (fun _ => getSocketPath daemonEnv) ∧
        ∀ name, name ∈ env ↔ settings.Provided accounts reader daemonEnv token name

/-- `environment`, the user's identity or the token sets the variable over the env file. -/
def Overridden (name : String) : Prop :=
  name = keplerToken ∨ name = keplerSocketPath ∨ name ∈ insertEnvEntries ∅ settings.environment ∨
    name ∈ settings.identity accounts

/-- No variable that the env file hands to the process depends on the daemon's environment. -/
def FileIndependent : Prop :=
  ∀ left right name, ¬ settings.Overridden accounts name →
    ∀ first second, settings.currentVariables reader left = .ok first →
      settings.currentVariables reader right = .ok second →
      (first ∪ settings.savedVariables reader left).lookup name =
        (second ∪ settings.savedVariables reader right).lookup name

/-! ### The value of each variable -/

theorem lookup_withoutReserved (env : Bindings) (name : String) :
    (withoutReserved env).lookup name =
      if name = keplerToken ∨ name = keplerSocketPath then none else env.lookup name := by
  rw [withoutReserved, lookup_erase_eq, lookup_erase_eq]
  by_cases socket : keplerSocketPath = name
  · rw [if_pos socket, if_pos (.inr socket.symm)]
  by_cases token : keplerToken = name
  · rw [if_neg socket, if_pos token, if_pos (.inl token.symm)]
  · rw [if_neg socket, if_neg token, if_neg]
    rintro (same | same)
    · exact token same.symm
    · exact socket same.symm

theorem lookup_injectToken (daemonEnv : Bindings) (token : Option Token) (env : Bindings)
    (ordinary : ¬ (name = keplerToken ∨ name = keplerSocketPath)) :
    (injectToken daemonEnv token env).lookup name = env.lookup name := by
  have notToken : keplerToken ≠ name := fun same => ordinary (.inl same.symm)
  have notSocket : keplerSocketPath ≠ name := fun same => ordinary (.inr same.symm)
  cases token with
  | none => rfl
  | some token =>
    rw [injectToken, lookup_insert_eq, if_neg notSocket, lookup_insert_eq,
      if_neg notToken]

theorem lookup_injectToken_keplerToken (daemonEnv : Bindings) (token : Option Token)
    (env : Bindings) : (injectToken daemonEnv token (withoutReserved env)).lookup keplerToken =
      token.map BitVec.toHex := by
  cases token with
  | none => rw [injectToken, lookup_withoutReserved, if_pos (.inl rfl), map_none]
  | some token =>
    rw [injectToken, lookup_insert_eq, if_neg (by decide), lookup_insert_eq,
      if_pos rfl, map_some]

theorem lookup_injectToken_keplerSocketPath (daemonEnv : Bindings) (token : Option Token)
    (env : Bindings) :
    (injectToken daemonEnv token (withoutReserved env)).lookup keplerSocketPath =
      token.map fun _ => getSocketPath daemonEnv := by
  cases token with
  | none => rw [injectToken, lookup_withoutReserved, if_pos (.inr rfl), map_none]
  | some token => rw [injectToken, lookup_insert_eq, if_pos rfl, map_some]

variable {accounts reader settings}

section

variable {daemonEnv current : Bindings}
  (found : settings.currentVariables reader daemonEnv = .ok current)

include found

/-- A launch succeeds when its env file can be read, and each variable has its value from the last
source that sets it. -/
theorem computedEnv_of_current (accounts : Accounts) (environment : List String) : ∃ env,
    { settings with environment }.computedEnv accounts reader daemonEnv = .ok env ∧ ∀ name,
      env.lookup name = ((settings.identity accounts).lookup name).or
        (if name = keplerToken ∨ name = keplerSocketPath then none
        else (entryValue environment name).or
          (((current ∪ settings.savedVariables reader daemonEnv).lookup name).or
            (if settings.inherits then
              (settings.earlyIdentity accounts ∪ settings.keplerEnv).lookup name else none))) := by
  refine ⟨settings.identity accounts ∪ withoutReserved (if settings.inherits
      then insertEnvEntries (current ∪ (settings.savedVariables reader daemonEnv ∪
        (settings.earlyIdentity accounts ∪ settings.keplerEnv))) environment
      else insertEnvEntries (current ∪ settings.savedVariables reader daemonEnv) environment),
    ?_, fun name => ?_⟩
  · change (settings.currentVariables reader daemonEnv >>= _) >>= _ = _
    rw [found]
    rfl
  · rw [lookup_union, lookup_withoutReserved]
    cases settings.inherits <;>
      simp [lookup_insertEnvEntries, lookup_union, Option.or_assoc]

theorem executedEnv_of_current (accounts : Accounts) (token : Option Token) : ∃ env,
    settings.executedEnv accounts reader daemonEnv token = .ok env := by
  obtain ⟨_, computed, _⟩ := computedEnv_of_current found accounts settings.environment
  exact ⟨_, bind_eq_ok.mpr ⟨_, computed, rfl⟩⟩

end

theorem Readable.current (readable : settings.Readable reader) (daemonEnv : Bindings) :
    ∃ current, settings.currentVariables reader daemonEnv = .ok current := by
  obtain ⟨other, vars, found⟩ := readable
  unfold currentVariables at found ⊢
  cases file : settings.envFile with
  | none => exact ⟨∅, rfl⟩
  | some pair =>
    rw [file] at found
    obtain ⟨current, parsed⟩ :=
      reader.parses other daemonEnv pair.2 vars (mapError_eq_ok.mp found)
    exact ⟨current, mapError_eq_ok.mpr parsed⟩

section

variable {daemonEnv env : Bindings} {token : Option Token}
  (launched : settings.executedEnv accounts reader daemonEnv token = .ok env)

include launched

theorem current_of_executedEnv :
    ∃ current, settings.currentVariables reader daemonEnv = .ok current := by
  obtain ⟨_, computed, _⟩ := bind_eq_ok.mp launched
  obtain ⟨_, found, _⟩ := bind_eq_ok.mp computed
  obtain ⟨current, reading, _⟩ := bind_eq_ok.mp found
  exact ⟨current, reading⟩

theorem executedEnv_of_not_inherits (alone : settings.inherits = false) : ∃ computed,
    settings.computedEnv accounts reader daemonEnv = .ok computed ∧
      env = injectToken daemonEnv token (withoutReserved computed) := by
  obtain ⟨computed, stored, executed⟩ := bind_eq_ok.mp launched
  cases executed
  exact ⟨computed, stored, by rw [alone]; rfl⟩

theorem lookup_of_not_inherits {current : Bindings} (alone : settings.inherits = false)
    (found : settings.currentVariables reader daemonEnv = .ok current)
    (ordinary : ¬ (name = keplerToken ∨ name = keplerSocketPath)) :
    env.lookup name = ((settings.identity accounts).lookup name).or
      ((entryValue settings.environment name).or
        ((current ∪ settings.savedVariables reader daemonEnv).lookup name)) := by
  obtain ⟨computed, stored, rfl⟩ := executedEnv_of_not_inherits launched alone
  obtain ⟨_, again, values⟩ := computedEnv_of_current found accounts settings.environment
  cases stored.symm.trans again
  rw [lookup_injectToken daemonEnv token _ ordinary, lookup_withoutReserved, if_neg ordinary,
    values, if_neg ordinary, alone, if_neg Bool.false_ne_true, or_none]

theorem lookup_reserved_of_not_inherits (alone : settings.inherits = false) :
    env.lookup keplerToken = token.map BitVec.toHex ∧
      env.lookup keplerSocketPath = token.map fun _ => getSocketPath daemonEnv := by
  obtain ⟨computed, _, rfl⟩ := executedEnv_of_not_inherits launched alone
  exact ⟨lookup_injectToken_keplerToken daemonEnv token _,
    lookup_injectToken_keplerSocketPath daemonEnv token _⟩

/-! ### Isolation -/

theorem mem_of_inherits (inheriting : settings.inherits = true) (held : name ∈ daemonEnv) :
    name ∈ env := by
  obtain ⟨computed, _, executed⟩ := bind_eq_ok.mp launched
  cases executed
  rw [inheriting, Bool.not_true, if_neg Bool.false_ne_true]
  exact mem_union.mpr (.inr held)

theorem mem_iff_provided (alone : settings.inherits = false) (name : String) :
    name ∈ env ↔ settings.Provided accounts reader daemonEnv token name := by
  obtain ⟨current, found⟩ := current_of_executedEnv launched
  obtain ⟨ofToken, ofSocket⟩ := lookup_reserved_of_not_inherits launched alone
  unfold Provided
  by_cases reserved : name = keplerToken ∨ name = keplerSocketPath
  · rw [if_pos reserved, ← lookup_isSome]
    rcases reserved with rfl | rfl
    · rw [ofToken, isSome_map]
    · rw [ofSocket, isSome_map]
  · rw [if_neg reserved, ← lookup_isSome,
      lookup_of_not_inherits launched alone found reserved]
    simp only [isSome_or, Bool.or_eq_true, lookup_union, alone, InEnvFile, found,
      Except.ok.injEq, exists_eq_left', ← lookup_isSome, lookup_insertEnvEntries]
    tauto

end

theorem not_isolated_of_inherits {token : Option Token} (readable : settings.Readable reader)
    (inheriting : settings.inherits = true) : ¬ settings.Isolated accounts reader token := by
  rintro ⟨same, _⟩
  have launches (daemonEnv : Bindings) :
      ∃ env, settings.executedEnv accounts reader daemonEnv token = .ok env := by
    obtain ⟨current, found⟩ := readable.current daemonEnv
    exact executedEnv_of_current found ..
  obtain ⟨bare, bareLaunch⟩ := launches ∅
  -- a variable that the launch under an empty environment does not set
  obtain ⟨name, fresh⟩ := Infinite.exists_notMem_finset
    (insert keplerSocketPath bare.keys.toFinset)
  simp only [Finset.mem_insert, List.mem_toFinset, not_or] at fresh
  obtain ⟨notSocketPath, absent⟩ := fresh
  obtain ⟨other, otherLaunch⟩ := launches ((∅ : Bindings).insert name "set")
  have carried : name ∈ other :=
    mem_of_inherits otherLaunch inheriting (mem_insert _ |>.mpr (.inl rfl))
  have agree := same _ _ _ _ otherLaunch bareLaunch name notSocketPath
  rw [lookup_eq_none.mpr (show name ∉ bare from absent)] at agree
  exact lookup_eq_none.mp agree carried

/-- The environment of the process is the same under every environment of the daemon and holds
exactly the variables of the sources, exactly when the service does not inherit and no variable that
the env file hands to the process depends on the daemon's environment, or when the env file does not
parse, so that nothing is executed. -/
theorem isolated_iff (accounts : Accounts) (reader : EnvFileReader) (settings : LaunchSettings)
    (token : Option Token) :
    settings.Isolated accounts reader token ↔
      (settings.Readable reader →
        settings.inherits = false ∧ settings.FileIndependent accounts reader) := by
  constructor
  · intro isolated readable
    have alone : settings.inherits = false := by
      cases inheriting : settings.inherits with
      | false => rfl
      | true => exact absurd isolated (not_isolated_of_inherits readable inheriting)
    refine ⟨alone, fun left right name untouched first second foundLeft foundRight => ?_⟩
    simp only [Overridden, not_or] at untouched
    obtain ⟨notToken, notSocket, notEntry, notIdentity⟩ := untouched
    have ordinary : ¬ (name = keplerToken ∨ name = keplerSocketPath) :=
      not_or.mpr ⟨notToken, notSocket⟩
    obtain ⟨_, leftLaunch⟩ := executedEnv_of_current foundLeft accounts token
    obtain ⟨_, rightLaunch⟩ := executedEnv_of_current foundRight accounts token
    have agree := isolated.1 left right _ _ leftLaunch rightLaunch name notSocket
    rw [← lookup_eq_none, lookup_insertEnvEntries] at notEntry
    rw [lookup_of_not_inherits leftLaunch alone foundLeft ordinary,
      lookup_of_not_inherits rightLaunch alone foundRight ordinary,
      lookup_eq_none.mpr notIdentity, (or_eq_none_iff.mp notEntry).1] at agree
    exact agree
  · intro condition
    have launchable {daemonEnv env : Bindings}
        (launched : settings.executedEnv accounts reader daemonEnv token = .ok env) :
        settings.Readable reader := ⟨daemonEnv, current_of_executedEnv launched⟩
    constructor
    · intro left right first second leftLaunch rightLaunch name notSocket
      obtain ⟨alone, independent⟩ := condition (launchable leftLaunch)
      obtain ⟨current, found⟩ := current_of_executedEnv leftLaunch
      obtain ⟨other, otherFound⟩ := current_of_executedEnv rightLaunch
      by_cases isToken : name = keplerToken
      · rw [isToken, (lookup_reserved_of_not_inherits leftLaunch alone).1,
          (lookup_reserved_of_not_inherits rightLaunch alone).1]
      · have ordinary : ¬ (name = keplerToken ∨ name = keplerSocketPath) :=
          not_or.mpr ⟨isToken, notSocket⟩
        rw [lookup_of_not_inherits leftLaunch alone found ordinary,
          lookup_of_not_inherits rightLaunch alone otherFound ordinary]
        cases identity : (settings.identity accounts).lookup name with
        | some value => rfl
        | none => ?_
        cases entry : entryValue settings.environment name with
        | some value => rfl
        | none => ?_
        refine independent left right name ?_ current other found otherFound
        rintro (same | isSocket | isEntry | isIdentity)
        · exact isToken same
        · exact notSocket isSocket
        · refine lookup_eq_none.mp ?_ isEntry
          rw [lookup_insertEnvEntries, entry]
          rfl
        · exact lookup_eq_none.mp identity isIdentity
    · intro daemonEnv env launched
      have alone := (condition (launchable launched)).1
      exact ⟨(lookup_reserved_of_not_inherits launched alone).2, mem_iff_provided launched alone⟩

def emptyFileReader : EnvFileReader where
  read _ _ := .ok ∅
  parses _ _ _ _ _ := ⟨∅, rfl⟩

/-- A service without settings, started by a user whose shell sets `PATH`. -/
def defaultService : LaunchSettings where
  service := "app"
  keplerEnv := (∅ : Bindings).insert "PATH" "/usr/bin"
  user := .static none
  resolvedUser := none
  userIdentity := none
  inheritEnv := none
  defaultInheritEnv := none
  savedEnvFile := none
  envFile := none
  environment := ["PORT=3000"]

/-- A variable that only the daemon has reaches a service with default settings. -/
theorem defaultService_not_isolated :
    ¬ defaultService.Isolated (.fromFiles [] [] 16) emptyFileReader none := by
  intro isolated
  have agree := isolated.1 ((∅ : Bindings).insert "DAEMON_SECRET" "s3cret") ∅ _ _ rfl rfl
    "DAEMON_SECRET" (by decide)
  exact absurd agree (by decide +kernel)

end LaunchSettings

end Kepler
