/-
This file is about the environment of a service when it is started and when it is restarted
(`prepare_service_launch`, `re_resolve_service`), and about what an edit of the env file changes.

An entry of `environment` that is an expression sees the variables that are set before it. The env
file is read twice, from its copy, if there is one, and then from its original path, and what the
original says now wins.

Copies are made for a config with autostart, when it is loaded and again when its snapshot is taken.
A copy is called after the service and the file, joined by an underscore, which both names may have
in them.
-/

import Kepler.Environment

namespace Kepler

open HashMap Option Result List

/-! ### Copies of env files -/

/-- `Path::file_name`, empty when there is none. -/
def fileName (path : String) : String :=
  match ((components path).filter (· ≠ .here)).getLast? with
  | some (.name text) => text
  | _ => ""

def copyName (service envFile : String) : String := service ++ "_" ++ fileName envFile

abbrev EnvFileFields : Type := HashMap String (ConfigValue (Option String))

/-- The directories of the config and of the copies, and the answers of the system. -/
structure CopyWorld where
  configDir : String
  envFilesDir : String
  createDir : Except String Unit
  /-- What is read from a path, if it exists. -/
  read : String → Option (Except String String)
  openFile : String → Except String Unit
  /-- A write that fails has written a part of the contents. -/
  writeAll : String → String → Except (String × String) Unit

namespace CopyWorld

variable (world : CopyWorld)

def source (envFile : String) : String := joinPath world.configDir envFile

/-- What `copy_env_files` writes for one env file, if it gets to write, and whether it fails. -/
def copyOne (service envFile : String) : Option String × Except DaemonError Unit :=
  let source := world.source envFile
  let dest := joinPath world.envFilesDir (copyName service envFile)
  match world.read source with
  | none => (none, .ok ())
  | some (.error e) => (none, .error (.internal s!"Failed to read '{source}': {e}"))
  | some (.ok contents) =>
    match world.openFile dest with
    | .error e => (none, .error (.internal s!"Failed to open '{dest}': {e}"))
    | .ok () =>
      match world.writeAll dest contents with
      | .error (part, e) => (some part, .error (.internal s!"Failed to write '{dest}': {e}"))
      | .ok () => (some contents, .ok ())

/-- The rounds of `copy_env_files`, up to the first that fails. -/
def copyRounds : List ((_ : String) × ConfigValue (Option String)) → HashMap String String →
    HashMap String String × Except DaemonError Unit
  | [], copies => (copies, .ok ())
  | ⟨service, .static (some envFile)⟩ :: rest, copies =>
    let (text, outcome) := world.copyOne service envFile
    let copies := text.elim copies (copies.insert (copyName service envFile) ·)
    match outcome with
    | .ok () => copyRounds rest copies
    | .error e => (copies, .error e)
  | ⟨_, .static none⟩ :: rest, copies | ⟨_, .dynamic _⟩ :: rest, copies => copyRounds rest copies

/-- `copy_env_files`, from what the directory held before. -/
def copyEnvFiles (services : EnvFileFields) (copies : HashMap String String) :
    HashMap String String × Except DaemonError Unit :=
  match world.createDir with
  | .error e =>
    (copies, .error (.internal s!"Failed to create directory '{world.envFilesDir}': {e}"))
  | .ok () => world.copyRounds services.entries copies

/-- What `load_service_env_file` reads: the copy, or else the original. -/
def loadServiceEnvFile (copies : HashMap String String) (later : String → Option String)
    (service : String) : ConfigValue (Option String) → Option String
  | .static (some envFile) =>
    (copies.lookup (copyName service envFile)).or (later (world.source envFile))
  | .static none | .dynamic _ => none

/-- The file of the service, if it has one, does not end the pass. -/
def passes : (_ : String) × ConfigValue (Option String) → Bool
  | ⟨service, .static (some envFile)⟩ => (world.copyOne service envFile).2.isOk
  | ⟨_, .static none⟩ | ⟨_, .dynamic _⟩ => true

/-- What a pass over the services writes to the copy of one of them, unless the directory or a file
before it fails. -/
def written (services : EnvFileFields) (service envFile : String) : Option String :=
  if world.createDir.isOk ∧ (services.entries.takeWhile (·.1 ≠ service)).all world.passes then
    (world.copyOne service envFile).1
  else none

end CopyWorld

/-- A config that is loaded from its source: whether it has autostart, and the answers of the system
when it is loaded and when its snapshot is taken, if that has happened. -/
structure CopyTimes where
  autostart : Bool
  load : CopyWorld
  snapshot : Option CopyWorld

namespace CopyTimes

/-- The copies of a config, from what the directory held before. A load ignores errors, and what an
attempt to take the snapshot has copied stays. -/
def copies (times : CopyTimes) (services : EnvFileFields) (earlier : HashMap String String) :
    HashMap String String :=
  if times.autostart then
    let loaded := (times.load.copyEnvFiles services earlier).1
    match times.snapshot with
    | none => loaded
    | some world => (world.copyEnvFiles services loaded).1
  else earlier

variable (times : CopyTimes) (services : EnvFileFields)

/-- Every service reads what its env file held at the load, and no two services share a copy. -/
def CopiesKept (copies : HashMap String String) : Prop :=
  (∀ service envFile contents, services.lookup service = some (.static (some envFile)) →
    times.load.read (times.load.source envFile) = some (.ok contents) →
    ∀ later, times.load.loadServiceEnvFile copies later service (.static (some envFile)) =
      some contents) ∧
  ∀ left right leftFile rightFile, services.lookup left = some (.static (some leftFile)) →
    services.lookup right = some (.static (some rightFile)) → left ≠ right →
    copyName left leftFile ≠ copyName right rightFile

/-- The copy of each service was last made with what the file held at the load: the snapshot writes
that, or the load did and the snapshot does not write. -/
def CopiesMade : Prop :=
  ∀ service envFile contents, services.lookup service = some (.static (some envFile)) →
    times.load.read (times.load.source envFile) = some (.ok contents) →
    times.autostart = true ∧
      ((times.snapshot.bind fun world => world.written services service envFile).or
        (times.load.written services service envFile)) = some contents

end CopyTimes

/-- No name of a service goes on, after an underscore, in the name of another service and in the
name of its own file alike. -/
def NamesApart (services : EnvFileFields) : Prop :=
  ∀ left right leftFile rightFile middle, services.lookup left = some (.static (some leftFile)) →
    services.lookup right = some (.static (some rightFile)) → right = left ++ "_" ++ middle →
    fileName leftFile ≠ middle ++ "_" ++ fileName rightFile

namespace CopyWorld

variable {world : CopyWorld} {copies : HashMap String String} {service envFile : String}

variable {entries : List ((_ : String) × ConfigValue (Option String))}

theorem lookup_elim_insert (copies : HashMap String String) (text : Option String)
    (copy name : String) :
    (text.elim copies (copies.insert copy ·)).lookup name =
      if copy = name then text.or (copies.lookup name) else copies.lookup name := by
  cases text with
  | none => exact (ite_self _).symm
  | some text => exact lookup_insert_eq copies copy text name

theorem lookup_copyRounds_ne {name : String} (others : ∀ entry ∈ entries, ∀ envFile,
    entry.2 = .static (some envFile) → copyName entry.1 envFile ≠ name) :
    (world.copyRounds entries copies).1.lookup name = copies.lookup name := by
  induction entries generalizing copies with
  | nil => rfl
  | cons entry rest inductionHypothesis =>
    rw [forall_mem_cons] at others
    obtain ⟨other, (_ | file) | expression⟩ := entry
    · exact inductionHypothesis others.2
    · have first := lookup_elim_insert copies (world.copyOne other file).1 (copyName other file)
        name
      rw [if_neg (others.1 file rfl)] at first
      rw [copyRounds]
      rcases round : world.copyOne other file with ⟨text, _ | _⟩ <;> rw [round] at first
      · exact first
      · exact (inductionHypothesis others.2).trans first
    · exact inductionHypothesis others.2

/-- Where only one service writes to a name, the copy has what its round writes, if the rounds get
there. -/
theorem lookup_copyRounds (nodup : entries.NodupKeys)
    (member : ⟨service, .static (some envFile)⟩ ∈ entries)
    (others : ∀ entry ∈ entries, entry.1 ≠ service → ∀ file, entry.2 = .static (some file) →
      copyName entry.1 file ≠ copyName service envFile) :
    (world.copyRounds entries copies).1.lookup (copyName service envFile) =
      (if (entries.takeWhile (·.1 ≠ service)).all world.passes then
        (world.copyOne service envFile).1 else none).or
        (copies.lookup (copyName service envFile)) := by
  induction entries generalizing copies with
  | nil => cases member
  | cons entry rest inductionHypothesis =>
    rw [nodupKeys_cons] at nodup
    rw [forall_mem_cons] at others
    by_cases here : entry.1 = service
    · have same : entry = ⟨service, .static (some envFile)⟩ := by
        rcases mem_cons.mp member with same | later
        · exact same.symm
        · exact absurd (here ▸ mem_keys_of_mem later) nodup.1
      subst same
      -- no later round writes to the copy
      have kept (copies : HashMap String String) :
          (world.copyRounds rest copies).1.lookup (copyName service envFile) =
            copies.lookup (copyName service envFile) := by
        refine lookup_copyRounds_ne fun other later file field => ?_
        have key : other.1 ∈ rest.keys := mem_keys_of_mem later
        exact others.2 other later (fun equal => nodup.1 (equal ▸ key)) file field
      have own := lookup_elim_insert copies (world.copyOne service envFile).1
        (copyName service envFile) (copyName service envFile)
      rw [if_pos rfl] at own
      rw [takeWhile_cons_of_neg (by simp), all_nil, if_pos rfl, ← own, copyRounds]
      rcases world.copyOne service envFile with ⟨text, _ | _⟩
      · rfl
      · exact kept _
    · have later : ⟨service, .static (some envFile)⟩ ∈ rest := by
        rcases mem_cons.mp member with same | later
        · exact absurd (congrArg Sigma.fst same.symm) here
        · exact later
      have further (copies : HashMap String String) :=
        @inductionHypothesis copies nodup.2 later others.2
      rw [takeWhile_cons_of_pos (by simpa using here), all_cons]
      obtain ⟨other, (_ | file) | expression⟩ := entry
      · exact further copies
      · have first := lookup_elim_insert copies (world.copyOne other file).1 (copyName other file)
          (copyName service envFile)
        rw [if_neg (others.1 here file rfl)] at first
        rw [copyRounds, passes]
        rcases round : world.copyOne other file with ⟨text, _ | _⟩ <;> rw [round] at first
        · exact first
        · exact (further _).trans (congrArg _ first)
      · exact further copies

end CopyWorld

theorem exists_middle {left right first second : String} {more : List Char}
    (different : left ≠ right) (longer : right.toList = left.toList ++ more)
    (same : '_' :: first.toList = more ++ '_' :: second.toList) :
    ∃ middle, right = left ++ "_" ++ middle ∧ first = middle ++ "_" ++ second := by
  cases more with
  | nil => exact absurd (String.toList_inj.mp (by simpa using longer.symm)) different
  | cons character more =>
    obtain ⟨rfl, rest⟩ := cons.inj same
    exact ⟨String.ofList more, String.toList_inj.mp (by simpa using longer),
      String.toList_inj.mp (by simpa using rest)⟩

section

variable {services : EnvFileFields}

theorem NamesApart.copyName_ne (apart : NamesApart services)
    {left right leftFile rightFile : String}
    (hasLeft : services.lookup left = some (.static (some leftFile)))
    (hasRight : services.lookup right = some (.static (some rightFile)))
    (different : left ≠ right) : copyName left leftFile ≠ copyName right rightFile := by
  intro same
  have characters := congrArg String.toList same
  simp only [copyName, String.toList_append, append_assoc] at characters
  -- one of the two names of services is the beginning of the other one
  obtain ⟨more, longer, rest⟩ | ⟨more, longer, rest⟩ := append_eq_append_iff.mp characters
  · obtain ⟨middle, goesOn, inFile⟩ := exists_middle different longer rest
    exact apart _ _ _ _ middle hasLeft hasRight goesOn inFile
  · obtain ⟨middle, goesOn, inFile⟩ := exists_middle (Ne.symm different) longer rest
    exact apart _ _ _ _ middle hasRight hasLeft goesOn inFile

theorem CopyWorld.lookup_copyEnvFiles (world : CopyWorld) (apart : NamesApart services)
    {copies : HashMap String String} {service envFile : String}
    (has : services.lookup service = some (.static (some envFile))) :
    (world.copyEnvFiles services copies).1.lookup (copyName service envFile) =
      (world.written services service envFile).or
        (copies.lookup (copyName service envFile)) := by
  unfold copyEnvFiles written
  cases world.createDir with
  | error => rfl
  | ok =>
    rw [lookup_copyRounds services.nodupKeys (AList.mem_lookup_iff.mp has) ?_]
    · simp [Except.isOk, Except.toBool]
    · intro entry member different file field
      refine apart.copyName_ne (AList.mem_lookup_iff.mpr ?_) has different
      rw [← field]
      exact member

/-- The copies are kept, whatever the directory held before, exactly if the names are apart and the
copies were made. -/
theorem copiesKept_iff (times : CopyTimes) (services : EnvFileFields) :
    (∀ earlier, times.CopiesKept services (times.copies services earlier)) ↔
      NamesApart services ∧ times.CopiesMade services := by
  have last (apart : NamesApart services) (earlier : HashMap String String)
      {service envFile : String} (has : services.lookup service = some (.static (some envFile))) :
      (times.copies services earlier).lookup (copyName service envFile) =
        if times.autostart then
          ((times.snapshot.bind fun world => world.written services service envFile).or
            (times.load.written services service envFile)).or
              (earlier.lookup (copyName service envFile))
        else earlier.lookup (copyName service envFile) := by
    unfold CopyTimes.copies
    cases times.autostart with
    | false => rfl
    | true =>
      cases times.snapshot with
      | none => exact times.load.lookup_copyEnvFiles apart has
      | some world =>
        simp only [if_true, world.lookup_copyEnvFiles apart has,
          times.load.lookup_copyEnvFiles apart has, bind_some, Option.or_assoc]
  constructor
  · intro kept
    have apart : NamesApart services := by
      rintro left right leftFile rightFile middle hasLeft hasRight rfl same
      refine (kept ∅).2 _ _ _ _ hasLeft hasRight (fun equal => ?_) ?_
      · have lengths := congrArg String.length equal
        have one : "_".length = 1 := rfl
        simp only [String.length_append, one] at lengths
        omega
      · simp only [copyName, same, String.append_assoc]
    refine ⟨apart, fun service envFile contents has there => ?_⟩
    -- nothing in the directory before, and no original any more
    have read := (kept ∅).1 service envFile contents has there fun _ => none
    rw [CopyWorld.loadServiceEnvFile, last apart ∅ has, or_none] at read
    cases started : times.autostart with
    | false => simp [started] at read
    | true => simpa [started] using read
  · rintro ⟨apart, made⟩ earlier
    refine ⟨fun service envFile contents has there later => ?_,
      fun left right leftFile rightFile hasLeft hasRight => apart.copyName_ne hasLeft hasRight⟩
    obtain ⟨started, written⟩ := made service envFile contents has there
    rw [CopyWorld.loadServiceEnvFile, last apart earlier has, if_pos started, written]
    rfl

end

def filesOf (files : List (String × String)) : CopyWorld where
  configDir := "/app"
  envFilesDir := "/state/env_files"
  createDir := .ok ()
  read path := (files.lookup path).map .ok
  openFile _ := .ok ()
  writeAll _ _ := .ok ()

def webAndDb : EnvFileFields :=
  (AList.singleton "web" (.static (some "web.env"))).insert "db" (.static (some "db.env"))

/-- One of the files is gone when the snapshot is taken. -/
def webAndDbTimes : CopyTimes where
  autostart := true
  load := filesOf [("/app/web.env", "MODE=web"), ("/app/db.env", "MODE=db")]
  snapshot := some (filesOf [("/app/db.env", "MODE=db")])

theorem webAndDb_copiesKept :
    ∀ earlier, webAndDbTimes.CopiesKept webAndDb (webAndDbTimes.copies webAndDb earlier) := by
  have each {service envFile : String}
      (has : webAndDb.lookup service = some (.static (some envFile))) :
      service = "db" ∧ envFile = "db.env" ∨ service = "web" ∧ envFile = "web.env" := by
    have member := AList.mem_lookup_iff.mp has
    have entries : webAndDb.entries = [⟨"db", .static (some "db.env")⟩,
      ⟨"web", .static (some "web.env")⟩] := by decide +kernel
    simpa [entries] using member
  refine (copiesKept_iff _ _).mpr ⟨?_, ?_⟩
  · intro left right leftFile rightFile middle hasLeft hasRight goesOn
    have characters := congrArg String.toList goesOn
    rcases each hasLeft with ⟨rfl, _⟩ | ⟨rfl, _⟩ <;>
      rcases each hasRight with ⟨rfl, _⟩ | ⟨rfl, _⟩ <;> simp at characters
  · intro service envFile contents has there
    rcases each has with ⟨rfl, rfl⟩ | ⟨rfl, rfl⟩
    · have held : webAndDbTimes.load.read (webAndDbTimes.load.source "db.env") =
          some (.ok "MODE=db") := by decide +kernel
      cases held.symm.trans there
      exact ⟨rfl, by decide +kernel⟩
    · have held : webAndDbTimes.load.read (webAndDbTimes.load.source "web.env") =
          some (.ok "MODE=web") := by decide +kernel
      cases held.symm.trans there
      exact ⟨rfl, by decide +kernel⟩

/-- Two services with valid names get one copy, and the first reads what the file of the second
holds. -/
theorem copies_collide :
    validateServiceName "a" = .ok () ∧ validateServiceName "a_b" = .ok () ∧
      copyName "a" "b_c.env" = copyName "a_b" "c.env" ∧
      (filesOf [("/app/b_c.env", "MODE=first"), ("/app/c.env", "MODE=second")]).loadServiceEnvFile
        (CopyTimes.copies
          ⟨true, filesOf [("/app/b_c.env", "MODE=first"), ("/app/c.env", "MODE=second")], none⟩
          ((AList.singleton "a_b" (.static (some "c.env"))).insert "a" (.static (some "b_c.env")))
          ∅)
        (fun _ => none) "a" (.static (some "b_c.env")) = some "MODE=second" := by
  decide +kernel

namespace LaunchSettings

/-! ### Both launch paths -/

/-- An expression in the given variables and those of the env file. -/
abbrev Expressions : Type :=
  (String → Option String) → (String → Option String) → String → Except DaemonError String

/-- A Lua evaluator. An expression also sees the exit code of the service. -/
abbrev Evaluator : Type := Option Int → Expressions

/-- `resolve_environment_with_env`. -/
def resolveEnvironment (evaluate : Expressions) (file env : Bindings) :
    List (ConfigValue String) → Except DaemonError (List String)
  | [] => .ok []
  | entry :: rest => do
    let resolved ← match entry with
      | .static text => .ok text
      | .dynamic expression => evaluate env.lookup file.lookup expression
    let others ← resolveEnvironment evaluate file (insertEnvEntries env [resolved]) rest
    return resolved :: others

section

variable (accounts : Accounts) (reader : EnvFileReader) (settings : LaunchSettings)
  (daemonEnv : Bindings)

/-- What `prepare_service_launch` and `re_resolve_service` do with an evaluator. -/
def launchEnv (evaluate : Expressions) (entries : List (ConfigValue String)) :
    Except DaemonError Bindings := do
  let found ← { settings with environment := [] }.serviceVariables accounts reader daemonEnv
  let environment ← resolveEnvironment evaluate found.envFile found.env entries
  { settings with environment }.computedEnv accounts reader daemonEnv

/-- `prepare_service_launch`: with the shared evaluator or a created one, and the exit code of the
state. -/
def prepareServiceLaunch (shared : Option Evaluator) (create : Except DaemonError Evaluator)
    (exitCode : Option Int) (entries : List (ConfigValue String)) :
    Except DaemonError Bindings := do
  let evaluator ← match shared with
    | some evaluator => .ok evaluator
    | none => create
  settings.launchEnv accounts reader daemonEnv (evaluator exitCode) entries

/-- `re_resolve_service`: with a created evaluator, and the exit code of the process that has ended.
-/
def reResolveService (create : Except DaemonError Evaluator) (exitCode : Option Int)
    (entries : List (ConfigValue String)) : Except DaemonError Bindings := do
  let evaluator ← create
  settings.launchEnv accounts reader daemonEnv (evaluator exitCode) entries

end

variable {accounts : Accounts} {reader : EnvFileReader} {settings : LaunchSettings}
  {daemonEnv env : Bindings}

abbrev priorEnv (accounts : Accounts) (reader : EnvFileReader) (settings : LaunchSettings)
    (daemonEnv current : Bindings) : Bindings :=
  current ∪ (settings.savedVariables reader daemonEnv ∪
    (settings.earlyIdentity accounts ∪ settings.keplerEnv))

section

variable {current : Bindings} (reading : settings.currentVariables reader daemonEnv = .ok current)

include reading

theorem launchEnv_of_current (evaluate : Expressions) (entries : List (ConfigValue String)) :
    settings.launchEnv accounts reader daemonEnv evaluate entries =
      (resolveEnvironment evaluate (current ∪ settings.savedVariables reader daemonEnv)
        (settings.priorEnv accounts reader daemonEnv current) entries).bind fun environment =>
          { settings with environment }.computedEnv accounts reader daemonEnv := by
  have found : { settings with environment := [] }.serviceVariables accounts reader daemonEnv =
      .ok ⟨current ∪ settings.savedVariables reader daemonEnv,
        settings.priorEnv accounts reader daemonEnv current⟩ := by
    change settings.currentVariables reader daemonEnv >>= _ = _
    rw [reading]
    rfl
  rw [launchEnv, found]
  rfl

end

theorem launchEnv_of_error {failure : DaemonError}
    (reading : settings.currentVariables reader daemonEnv = .error failure)
    (evaluate : Expressions) (entries : List (ConfigValue String)) :
    settings.launchEnv accounts reader daemonEnv evaluate entries = .error failure := by
  change (settings.currentVariables reader daemonEnv >>= _) >>= _ = _
  rw [reading]
  rfl

/-! ### Precedence -/

theorem resolveEnvironment_static (evaluate : Expressions) (file env : Bindings)
    (entries : List String) :
    resolveEnvironment evaluate file env (entries.map .static) = .ok entries := by
  induction entries generalizing env with
  | nil => rfl
  | cons entry rest inductionHypothesis =>
    exact congrArg (· >>= fun others => pure (entry :: others)) (inductionHypothesis _)

/-- The variables of the user are set early only if they are set in the end. -/
theorem earlyIdentity_eq {default : Option String}
    (resolves : ∀ user, settings.user = .static user → settings.resolvedUser = user.or default) :
    settings.earlyIdentity accounts = ∅ ∨
      settings.earlyIdentity accounts = settings.identity accounts := by
  unfold earlyIdentity identity
  split
  · exact .inl rfl
  · next injected =>
    have sets : settings.userIdentity.getD true = true := by
      rcases wanted : settings.userIdentity with _ | _ | _
      · rfl
      · exact absurd wanted injected
      · rfl
    rw [if_pos sets]
    rcases written : settings.user with ⟨_ | user⟩ | expression
    · exact .inl rfl
    · rw [resolves _ written]
      exact .inr rfl
    · exact .inl rfl

theorem lookup_union_savedVariables {vars : Bindings}
    (copied : settings.savedEnvFile = none ∨ settings.savedEnvFile = settings.envFile.map Prod.snd)
    (reading : settings.currentVariables reader daemonEnv = .ok vars) (name : String) :
    (vars ∪ settings.savedVariables reader daemonEnv).lookup name = vars.lookup name := by
  rw [lookup_union]
  unfold savedVariables
  rcases copied with unread | copied
  · rw [unread]
    exact or_none
  · rw [copied]
    unfold currentVariables at reading
    cases file : settings.envFile with
    | none => exact or_none
    | some file =>
      rw [file] at reading
      simp only [map_some, mapError_eq_ok.mp reading, Option.or_self]

/-- The first start and a restart compute the same environment. Each variable but the two for the
token has its value from the last source that sets it: the kepler environment for a service that
inherits it, the env file, the last entry for it, the identity of the user. -/
theorem launchEnv_precedence (accounts : Accounts) (reader : EnvFileReader)
    (settings : LaunchSettings) (daemonEnv : Bindings) (shared : Option Evaluator)
    (created fresh : Evaluator) (exitCode ended : Option Int) (entries : List String)
    (default : Option String)
    (copied : settings.savedEnvFile = none ∨ settings.savedEnvFile = settings.envFile.map Prod.snd)
    (resolves : ∀ user, settings.user = .static user → settings.resolvedUser = user.or default) :
    settings.prepareServiceLaunch accounts reader daemonEnv shared (.ok created) exitCode
        (entries.map .static) =
      settings.reResolveService accounts reader daemonEnv (.ok fresh) ended
        (entries.map .static) ∧
      ∀ env, settings.reResolveService accounts reader daemonEnv (.ok fresh) ended
          (entries.map .static) = .ok env →
        ∃ vars, settings.currentVariables reader daemonEnv = .ok vars ∧
          ∀ name, name ≠ keplerToken → name ≠ keplerSocketPath → env.lookup name =
            ((settings.identity accounts).lookup name).or ((entryValue entries name).or
              ((vars.lookup name).or
                (if settings.inherits then settings.keplerEnv.lookup name else none))) := by
  have first : ∃ evaluate, settings.prepareServiceLaunch accounts reader daemonEnv shared
      (.ok created) exitCode (entries.map .static) =
        settings.launchEnv accounts reader daemonEnv evaluate (entries.map .static) := by
    cases shared with
    | none => exact ⟨_, rfl⟩
    | some evaluator => exact ⟨_, rfl⟩
  obtain ⟨evaluate, first⟩ := first
  have again : settings.reResolveService accounts reader daemonEnv (.ok fresh) ended
      (entries.map .static) =
        settings.launchEnv accounts reader daemonEnv (fresh ended) (entries.map .static) := rfl
  rw [first, again]
  cases reading : settings.currentVariables reader daemonEnv with
  | error =>
    simp only [launchEnv_of_error reading, true_and]
    exact nofun
  | ok vars =>
    obtain ⟨env, computed, values⟩ := computedEnv_of_current reading accounts entries
    simp only [launchEnv_of_current reading, resolveEnvironment_static, true_and]
    refine fun other success => ⟨vars, rfl, fun name notToken notSocket => ?_⟩
    cases computed.symm.trans success
    rw [values, if_neg (not_or.mpr ⟨notToken, notSocket⟩),
      lookup_union_savedVariables copied reading, lookup_union]
    rcases earlyIdentity_eq resolves with early | early
    · rw [early]
      rfl
    · rw [early]
      cases (settings.identity accounts).lookup name <;> rfl

def noExpressions : Expressions := fun _ _ _ => .error (.config "no expression")

def lineReader : EnvFileReader where
  read _ contents := .ok (insertEnvEntries ∅ [contents])
  parses _ _ _ _ _ := ⟨_, rfl⟩

/-- A service of a user, with an env file, in a kepler environment. -/
def aliceService : LaunchSettings where
  service := "web"
  keplerEnv := (((∅ : Bindings).insert "LANG" "C").insert "MODE" "dev").insert "PORT" "1"
  user := .static (some "alice")
  resolvedUser := some "alice"
  userIdentity := none
  inheritEnv := none
  defaultInheritEnv := none
  savedEnvFile := some "MODE=prod"
  envFile := some ("/app/web.env", "MODE=prod")
  environment := []

def aliceAccounts : Accounts :=
  .fromFiles [⟨"alice", 1000, 1000, "/home/alice", "/bin/sh"⟩] [] 16

/-- Every source sets a variable, and all but the first set one that is set before. -/
theorem aliceService_precedence : ∃ env,
    aliceService.prepareServiceLaunch aliceAccounts lineReader ∅ none (.ok fun _ => noExpressions)
        none (["PORT=3000", "PORT=80", "HOME=/tmp"].map .static) = .ok env ∧
      aliceService.reResolveService aliceAccounts lineReader ∅ (.ok fun _ _ _ => .ok) (some 1)
        (["PORT=3000", "PORT=80", "HOME=/tmp"].map .static) = .ok env ∧
      env.lookup "LANG" = some "C" ∧ env.lookup "MODE" = some "prod" ∧
      env.lookup "PORT" = some "80" ∧ env.lookup "HOME" = some "/home/alice" := by
  obtain ⟨same, values⟩ := launchEnv_precedence aliceAccounts lineReader aliceService ∅ none
    (fun _ => noExpressions) (fun _ _ _ => .ok) none (some 1) ["PORT=3000", "PORT=80", "HOME=/tmp"]
    none (.inr rfl) fun user written => by cases written; rfl
  obtain ⟨env, launched⟩ : ∃ env, aliceService.reResolveService aliceAccounts lineReader ∅
      (.ok fun _ _ _ => .ok) (some 1) (["PORT=3000", "PORT=80", "HOME=/tmp"].map .static) =
        .ok env := ⟨_, rfl⟩
  obtain ⟨vars, reading, values⟩ := values env launched
  cases reading
  exact ⟨env, same.trans launched, launched,
    (values "LANG" (by decide) (by decide)).trans (by decide +kernel),
    (values "MODE" (by decide) (by decide)).trans (by decide +kernel),
    (values "PORT" (by decide) (by decide)).trans (by decide +kernel),
    (values "HOME" (by decide) (by decide)).trans (by decide +kernel)⟩

/-! ### Edits of the original -/

/-- The service when its env file, if it is there, and the copy, if one was made, hold what is
given. -/
def withFile (settings : LaunchSettings) (path : String) (copy now : Option String) :
    LaunchSettings :=
  { settings with savedEnvFile := copy.or now, envFile := now.map (path, ·) }

def SameEnv : Except DaemonError Bindings → Except DaemonError Bindings → Prop
  | .ok left, .ok right => HashMap.Same left right
  | .error _, .error _ => True
  | _, _ => False

def fileVariables (reader : EnvFileReader) (daemonEnv : Bindings) (contents : Option String) :
    Except String Bindings :=
  (contents.map (reader.read daemonEnv)).getD (.ok ∅)

/-- The file can be read exactly if it could be read before, and its variables, over those of the
copy if there is one, are those of before. -/
def Unnoticed (reader : EnvFileReader) (daemonEnv : Bindings) (contents : String)
    (copy now : Option String) : Prop :=
  match reader.read daemonEnv contents, fileVariables reader daemonEnv now with
  | .ok vars, .ok current => ∀ name, (current.lookup name).or
      (((fileVariables reader daemonEnv copy).toOption.getD ∅).lookup name) = vars.lookup name
  | .error _, .error _ => True
  | _, _ => False

theorem resolveEnvironment_congr {evaluate : Expressions} {file otherFile env other : Bindings}
    (sameFile : HashMap.Same file otherFile) (same : HashMap.Same env other)
    (entries : List (ConfigValue String)) :
    resolveEnvironment evaluate file env entries =
      resolveEnvironment evaluate otherFile other entries := by
  induction entries generalizing env other with
  | nil => rfl
  | cons entry rest inductionHypothesis =>
    have after (text : String) :
        HashMap.Same (insertEnvEntries env [text]) (insertEnvEntries other [text]) := by
      intro name
      rw [lookup_insertEnvEntries, same, ← lookup_insertEnvEntries]
    simp only [resolveEnvironment, funext sameFile, funext same, inductionHypothesis (after _)]

section

variable (settings) (path : String) (copy now : Option String)

theorem currentVariables_withFile : ∃ change,
    (settings.withFile path copy now).currentVariables reader daemonEnv =
      (fileVariables reader daemonEnv now).mapError change := by
  cases now with
  | none => exact ⟨fun _ => .config "", rfl⟩
  | some now => exact ⟨_, rfl⟩

theorem lookup_withFile {current : Bindings}
    (reading : fileVariables reader daemonEnv now = .ok current) (name : String) :
    (current ∪ (settings.withFile path copy now).savedVariables reader daemonEnv).lookup name =
      (current.lookup name).or
        (((fileVariables reader daemonEnv copy).toOption.getD ∅).lookup name) := by
  rw [lookup_union]
  unfold fileVariables at reading ⊢
  unfold savedVariables withFile
  cases copy with
  | none =>
    cases now with
    | none => rfl
    | some contents =>
      simp only [map_some, getD_some] at reading
      simp only [none_or, map_some, reading, Option.or_self]
      exact or_none.symm
  | some contents =>
    simp only [some_or, map_some, getD_some]
    cases reader.read daemonEnv contents <;> rfl

end

theorem launchEnv_nil {current : Bindings}
    (reading : settings.currentVariables reader daemonEnv = .ok current) (accounts : Accounts)
    (evaluate : Expressions) :
    ∃ env, settings.launchEnv accounts reader daemonEnv evaluate [] = .ok env := by
  obtain ⟨env, computed, _⟩ := computedEnv_of_current reading accounts []
  exact ⟨env, (launchEnv_of_current reading evaluate []).trans computed⟩

theorem sameEnv_of_same {path : String} {copy now otherCopy other : Option String}
    {current vars : Bindings}
    (edited : (settings.withFile path copy now).currentVariables reader daemonEnv = .ok current)
    (original : (settings.withFile path otherCopy other).currentVariables reader daemonEnv =
      .ok vars)
    (file : HashMap.Same
      (current ∪ (settings.withFile path copy now).savedVariables reader daemonEnv)
      (vars ∪ (settings.withFile path otherCopy other).savedVariables reader daemonEnv))
    (evaluate : Expressions) (entries : List (ConfigValue String)) : SameEnv
      ((settings.withFile path copy now).launchEnv accounts reader daemonEnv evaluate entries)
      ((settings.withFile path otherCopy other).launchEnv accounts reader daemonEnv evaluate
        entries) := by
  have prior : HashMap.Same
      ((settings.withFile path copy now).priorEnv accounts reader daemonEnv current)
      ((settings.withFile path otherCopy other).priorEnv accounts reader daemonEnv vars) := by
    intro name
    have same := file name
    simp only [lookup_union] at same
    simp only [lookup_union, ← Option.or_assoc, same]
    rfl
  rw [launchEnv_of_current edited, launchEnv_of_current original,
    resolveEnvironment_congr file prior]
  cases resolveEnvironment evaluate (vars ∪ _) _ entries with
  | error => trivial
  | ok environment => ?_
  obtain ⟨_, computed, values⟩ := computedEnv_of_current edited accounts environment
  obtain ⟨_, computed', values'⟩ := computedEnv_of_current original accounts environment
  simp only [Except.bind, computed, computed', SameEnv]
  intro name
  rw [values, values', file]
  rfl

/-- The environment is as without an edit of the original, whatever the entries are, exactly if the
edit goes unnoticed. -/
theorem launchEnv_unchanged_iff (accounts : Accounts) (reader : EnvFileReader)
    (settings : LaunchSettings) (daemonEnv : Bindings) (path contents : String)
    (copy now : Option String) :
    (∀ evaluate entries, SameEnv
      ((settings.withFile path copy now).launchEnv accounts reader daemonEnv evaluate entries)
      ((settings.withFile path (some contents) (some contents)).launchEnv accounts reader daemonEnv
        evaluate entries)) ↔ Unnoticed reader daemonEnv contents copy now := by
  obtain ⟨_, edited⟩ := @currentVariables_withFile reader settings daemonEnv path copy now
  obtain ⟨_, original⟩ :=
    @currentVariables_withFile reader settings daemonEnv path (some contents) (some contents)
  have whole : fileVariables reader daemonEnv (some contents) = reader.read daemonEnv contents :=
    rfl
  rw [whole] at original
  unfold Unnoticed
  rcases before : reader.read daemonEnv contents with failure | vars <;>
    rcases after : fileVariables reader daemonEnv now with other | current <;>
    rw [before] at original <;> rw [after] at edited
  · simp only [launchEnv_of_error edited, launchEnv_of_error original, SameEnv, implies_true]
  · refine iff_of_false (fun same => ?_) id
    obtain ⟨env, launched⟩ := launchEnv_nil edited accounts noExpressions
    have both := same noExpressions []
    rw [launched, launchEnv_of_error original] at both
    exact both
  · refine iff_of_false (fun same => ?_) id
    obtain ⟨env, launched⟩ := launchEnv_nil original accounts noExpressions
    have both := same noExpressions []
    rw [launched, launchEnv_of_error edited] at both
    exact both
  · have editedFile := settings.lookup_withFile path copy now after
    have originalFile (name : String) : (vars ∪ (settings.withFile path (some contents)
        (some contents)).savedVariables reader daemonEnv).lookup name = vars.lookup name := by
      rw [settings.lookup_withFile path _ _ (whole.trans before), whole, before]
      exact Option.or_self
    constructor
    · intro same name
      -- an expression that fails unless the variable has the value it had
      have both := same
        (fun _ file _ => if file name = vars.lookup name then .ok "" else .error (.config ""))
        [.dynamic ""]
      obtain ⟨env, computed, _⟩ := computedEnv_of_current original accounts [""]
      rw [launchEnv_of_current edited, launchEnv_of_current original] at both
      simp only [resolveEnvironment, editedFile, originalFile, if_true] at both
      by_contra differs
      rw [if_neg differs] at both
      change SameEnv (.error _) (LaunchSettings.computedEnv _ _ _ _) at both
      rw [computed] at both
      exact both
    · intro same
      refine sameEnv_of_same edited original fun name => ?_
      exact (editedFile name).trans ((same name).trans (originalFile name).symm)

/-- A variable of the edited file reaches a service that was loaded before the edit and has a copy.
-/
theorem edit_reaches_service : ¬ SameEnv
    ((defaultService.withFile "/app/web.env" (some "MODE=old") (some "MODE=new")).launchEnv
      (.fromFiles [] [] 16) lineReader ∅ noExpressions [])
    ((defaultService.withFile "/app/web.env" (some "MODE=old") (some "MODE=old")).launchEnv
      (.fromFiles [] [] 16) lineReader ∅ noExpressions []) :=
  fun same => absurd (same "MODE") (by decide +kernel)

end LaunchSettings

end Kepler
