/-
This file follows the captured output of a hook to the disk and back (`outputs.rs`, and the end of
`run_service_hook` in `orchestrator/mod.rs`).

Each step of a hook names its output itself. The name with a suffix becomes a file name in the
directory of the hook, and the names are recovered from a listing of that directory. Nothing checks
the name. The files stay in the directory and the variables are read back exactly when the names
have no separator and the system accepts them as file names.
-/

import Kepler.Library.Disk
import Kepler.Processes

namespace Kepler

open List Disk AList Option HashMap FileTree

/-! ### Writing and reading -/

/-- What the outputs are written with: `serde_json`, and the debug format of paths. A map of texts
can always be written, and read again. -/
structure OutputFormat where
  toJson : Bindings → Except String String
  fromJson : String → Option Bindings
  debugPath : String → String
  roundTrip : ∀ outputs, ∃ text found,
    toJson outputs = .ok text ∧ fromJson text = some found ∧ HashMap.Same found outputs

def serviceOutputsDir (baseDir service : String) : String :=
  joinPath (joinPath baseDir "outputs") service

def hookOutputsDir (baseDir service hookName : String) : String :=
  joinPath (joinPath (serviceOutputsDir baseDir service) "hooks") hookName

def stepOutputsPath (baseDir service hookName stepName : String) : String :=
  joinPath (hookOutputsDir baseDir service hookName) (stepName ++ ".json")

section

variable (format : OutputFormat) (directory : Location) (baseDir service : String)

def writeHookStepOutputs (disk : Disk String) (hookName stepName : String) (outputs : Bindings) :
    Disk String × Except DaemonError Unit :=
  let dir := hookOutputsDir baseDir service hookName
  match disk.createDirAll directory dir with
  | (created, .error e) => (created, .error (.internal
      ("Failed to create hook output dir " ++ format.debugPath dir ++ ": " ++ e.text)))
  | (created, .ok ()) =>
    let path := stepOutputsPath baseDir service hookName stepName
    match format.toJson outputs with
    | .error e => (created, .error (.internal ("Failed to serialize hook outputs: " ++ e)))
    | .ok json =>
      match created.write directory path json with
      | (written, .ok ()) => (written, .ok ())
      | (written, .error e) => (written, .error (.internal
          ("Failed to write hook outputs to " ++ format.debugPath path ++ ": " ++ e.text)))

def stripSuffix (text suffix : String) : Option String :=
  (text.toList.reverse.dropPrefix? suffix.toList.reverse).map fun rest =>
    String.ofList rest.reverse

def readStepOutputs (entry : String × DiskEntry String) : Option (String × Bindings) :=
  match stripSuffix entry.1 ".json", entry.2 with
  | some stepName, .file contents => (format.fromJson contents).map fun found => (stepName, found)
  | some _, .directory | none, _ => none

def readHookOutputs (disk : Disk String) (hooksDir : Location)
    (entry : String × DiskEntry String) : Option (String × StepOutputs) :=
  match entry.2 with
  | .file _ => none
  | .directory =>
    let steps := HashMap.collect (readStepOutputs format) (disk.readDir (hooksDir ++ [entry.1]))
    if steps.entries.isEmpty then none else some (entry.1, steps)

def readAllHookOutputs (disk : Disk String) : HashMap String StepOutputs :=
  match disk.locate directory (joinPath (serviceOutputsDir baseDir service) "hooks") with
  | .error _ => ∅
  | .ok hooksDir =>
    if disk.isDirectory hooksDir then
      HashMap.collect (readHookOutputs format disk hooksDir) (disk.readDir hooksDir)
    else ∅

/-- The body of the loop at the end of `run_service_hook`, with the files that it has written. A
failed write is logged. -/
def storeStep (hookName : String) (progress : Disk String × List String)
    (step : (_ : String) × Bindings) : Disk String × List String :=
  match writeHookStepOutputs format directory baseDir service progress.1 hookName step.1 step.2 with
  | (next, .ok ()) => (next, progress.2 ++ [stepOutputsPath baseDir service hookName step.1])
  | (next, .error _) => (next, progress.2)

/-- The loop at the end of `run_service_hook`. -/
def storeStepOutputs (hookName : String) (disk : Disk String) (captured : StepOutputs) :
    Disk String × List String :=
  Runs.run (storeStep format directory baseDir service hookName) (disk, []) captured.entries

end

/-! ### Names of services and files -/

variable {text : String}

theorem ofText_of_ne (nonempty : text ≠ "") (notHere : text ≠ ".") (notUp : text ≠ "..") :
    Component.ofText text = .name text := by
  rw [Component.ofText, if_neg (not_or.mpr ⟨nonempty, notHere⟩), if_neg notUp]

theorem component_of_validateServiceName {service : String}
    (valid : validateServiceName service = .ok ()) :
    Component.ofText service = .name service ∧ '/' ∉ service.toList := by
  unfold validateServiceName at valid
  split_ifs at valid with empty allowed
  have refused (character : Char) (bad : (character.isLower || character.isDigit ||
      character = '_' || character = '-') = false) : character ∉ service.toList := by
    intro member
    have fine := all_eq_true.mp allowed character member
    rw [bad] at fine
    exact absurd fine (by decide)
  have noDot : '.' ∉ service.toList := refused '.' (by decide)
  refine ⟨ofText_of_ne empty ?_ ?_, refused '/' (by decide)⟩ <;>
  · rintro rfl
    exact noDot (by decide)

/-- A path that goes down from another one by plain names. -/
structure Below (directory : Location) (baseDir path : String) (names : List String) : Prop where
  spelled : path ≠ ""
  parts : components path = components baseDir ++ names.map .name
  start : FileTree.startOf directory path = FileTree.startOf directory baseDir

section

variable {directory : Location} {baseDir path : String} {names : List String}

theorem below_self (spelled : baseDir ≠ "") : Below directory baseDir baseDir [] :=
  ⟨spelled, (append_nil _).symm, rfl⟩

theorem Below.join (below : Below directory baseDir path names)
    (component : Component.ofText text = .name text ∧ '/' ∉ text.toList) :
    Below directory baseDir (joinPath path text) (names ++ [text]) := by
  obtain ⟨named, whole⟩ := component
  have relative : isAbsolute text = false := by
    rw [isAbsolute, beq_eq_false_iff_ne]
    exact fun first => whole (mem_of_head? first)
  have joined : joinPath path text = path ++ "/" ++ text := by
    rw [joinPath, relative, if_neg Bool.false_ne_true]
  rw [joined]
  refine ⟨fun empty => ?_, ?_, ?_⟩
  · have characters := congrArg String.toList empty
    simp at characters
  · rw [components_append, components_of_not_mem whole, named, below.parts, map_append,
      append_assoc]
    rfl
  · rw [← below.start, startOf, startOf, String.append_assoc,
      isAbsolute_append below.spelled]

theorem Below.lexical_eq (below : Below directory baseDir path names) :
    lexical directory path = lexical directory baseDir ++ names := by
  rw [lexical, below.parts, below.start, foldl_append, foldl_follow_names]
  rfl

end

def hookNames (service hookName : String) : List String := ["outputs", service, "hooks", hookName]

theorem ofText_json (stepName : String) :
    Component.ofText (stepName ++ ".json") = .name (stepName ++ ".json") := by
  have ends : (stepName ++ ".json").toList = stepName.toList ++ ".json".toList :=
    String.toList_append
  have long : 5 ≤ (stepName ++ ".json").toList.length := by
    rw [ends, length_append]
    exact Nat.le_add_left 5 _
  refine ofText_of_ne ?_ ?_ ?_ <;>
  · intro same
    rw [same] at long
    exact absurd long (by decide)

theorem not_mem_json {stepName : String} :
    '/' ∉ (stepName ++ ".json").toList ↔ '/' ∉ stepName.toList := by
  rw [String.toList_append, mem_append, not_or]
  exact and_iff_left (by decide)

theorem stripSuffix_eq_some {suffix name : String} :
    stripSuffix text suffix = some name ↔ text = name ++ suffix := by
  unfold stripSuffix
  rw [map_eq_some_iff]
  constructor
  · rintro ⟨rest, dropped, rfl⟩
    obtain ⟨front, whole, same⟩ := dropPrefix?_eq_some_iff.mp dropped
    obtain rfl := eq_of_beq same
    apply String.toList_inj.mp
    rw [String.toList_append, String.toList_ofList, ← reverse_reverse text.toList, whole,
      reverse_append, reverse_reverse]
  · rintro rfl
    refine ⟨name.toList.reverse, ?_, by simp⟩
    exact dropPrefix?_eq_some_iff.mpr ⟨suffix.toList.reverse, by simp, beq_self_eq_true _⟩

/-! ### What a write leaves behind -/

/-- The names are accepted by the system, as directory and file names. -/
def Storable (service stepName : String) : Prop :=
  nameError service = none ∧ '/' ∉ stepName.toList ∧ nameError (stepName ++ ".json") = none

/-- The state directory is there, no file is in the place of a directory on the way to the outputs,
and no directory in the place of an output file. -/
structure Ready (directory : Location) (baseDir service hookName : String) (base : Location)
    (disk : Disk String) : Prop where
  wellFormed : disk.WellFormed
  inside : disk.isDirectory directory = true
  found : disk.locate directory baseDir = .ok base
  baseDirectory : disk.isDirectory base = true
  clear : ∀ ancestors, ancestors <+: hookNames service hookName → ancestors ≠ [] →
    ∀ content, disk.lookup (base ++ ancestors) ≠ some (.file content)
  files : ∀ text, disk.lookup (base ++ hookNames service hookName ++ [text]) ≠ some .directory

section

variable {format : OutputFormat} {directory base : Location} {baseDir service : String}
  {hookType : ServiceHookType} {disk : Disk String}

theorem nameError_asStr (hookType : ServiceHookType) : nameError hookType.asStr = none := by
  cases hookType <;> decide +kernel

theorem component_asStr (hookType : ServiceHookType) :
    Component.ofText hookType.asStr = .name hookType.asStr ∧ '/' ∉ hookType.asStr.toList := by
  cases hookType <;> decide +kernel

variable {stepName hookName : String} {entry : String × DiskEntry String} {found : Bindings}

theorem Ready.spelled (ready : Ready directory baseDir service hookName base disk) :
    baseDir ≠ "" := by
  intro empty
  have found := ready.found
  rw [Disk.locate, if_pos empty] at found
  exact absurd found (by simp)

theorem Ready.walk (ready : Ready directory baseDir service hookName base disk) :
    disk.walk (FileTree.startOf directory baseDir) (components baseDir) = .ok base := by
  have found := ready.found
  rwa [Disk.locate, if_neg ready.spelled] at found

theorem accepted_hookNames (accepted : nameError service = none) :
    ∀ text ∈ hookNames service hookType.asStr, nameError text = none := by
  simp only [hookNames, forall_mem_cons]
  refine ⟨by decide +kernel, accepted, by decide +kernel, nameError_asStr hookType, ?_⟩
  simp

/-- A location on the way from the state directory to the outputs of a hook. -/
def OnTheWay (service hookName : String) (base location : Location) : Prop :=
  ∃ ancestors, ancestors <+: hookNames service hookName ∧ ancestors ≠ [] ∧
    location = base ++ ancestors

def stepLocation (service hookName stepName : String) (base : Location) : Location :=
  base ++ hookNames service hookName ++ [stepName ++ ".json"]

theorem not_onTheWay_of_longer {location : Location} {text : String}
    (longer : location = base ++ hookNames service hookName ++ [text]) :
    ¬ OnTheWay service hookName base location := by
  rintro ⟨ancestors, above, _, rfl⟩
  rw [append_assoc, append_cancel_left_eq] at longer
  have short := above.length_le
  rw [longer, length_append] at short
  exact absurd short (by simp)

theorem not_onTheWay_stepLocation (hookName stepName : String) :
    ¬ OnTheWay service hookName base (stepLocation service hookName stepName base) :=
  not_onTheWay_of_longer rfl

theorem wellFormed_writeHookStepOutputs (wellFormed : disk.WellFormed)
    (proper : ∀ text ∈ directory, ProperName text) (hookName stepName : String)
    (outputs : Bindings) :
    (writeHookStepOutputs format directory baseDir service disk hookName stepName
      outputs).1.WellFormed := by
  have start : ∀ text ∈ startOf directory (hookOutputsDir baseDir service hookName),
      ProperName text := by
    unfold startOf
    split_ifs
    · simp
    · exact proper
  have created : (disk.createDirAll directory
      (hookOutputsDir ..)).1.WellFormed :=
    wellFormed.createDirs start (properComponents_components _)
  unfold writeHookStepOutputs
  dsimp only
  split
  · next made => rwa [made] at created
  · next made =>
    rw [made] at created
    split
    · exact created
    · next json _ =>
      have kept := created.write directory (stepOutputsPath baseDir service hookName stepName) json
      split <;> next written => rwa [written] at kept

theorem stepLocation_injective {first second : String}
    (same : stepLocation service hookName first base = stepLocation service hookName second base) :
    first = second := by
  have last := append_cancel_left same
  have name : first ++ ".json" = second ++ ".json" := singleton_inj.mp last
  apply String.toList_inj.mp
  have characters := congrArg String.toList name
  rw [String.toList_append, String.toList_append] at characters
  exact append_cancel_right characters

section

variable (valid : validateServiceName service = .ok ())
  (ready : Ready directory baseDir service hookType.asStr base disk)

include valid ready

theorem below_hooksDir :
    Below directory baseDir (joinPath (serviceOutputsDir baseDir service) "hooks")
      ["outputs", service, "hooks"] :=
  (((below_self ready.spelled).join (by decide)).join
    (component_of_validateServiceName valid)).join (by decide)

theorem below_hookOutputsDir :
    Below directory baseDir (hookOutputsDir baseDir service hookType.asStr)
      (hookNames service hookType.asStr) :=
  (below_hooksDir valid ready).join (component_asStr hookType)

theorem below_stepOutputsPath (whole : '/' ∉ stepName.toList) :
    Below directory baseDir (stepOutputsPath baseDir service hookType.asStr stepName)
      (hookNames service hookType.asStr ++ [stepName ++ ".json"]) :=
  (below_hookOutputsDir valid ready).join ⟨ofText_json stepName, not_mem_json.mpr whole⟩

theorem writeHookStepOutputs_eq_ok {stepName : String} (storable : Storable service stepName)
    (outputs : Bindings) :
    ∃ next text, writeHookStepOutputs format directory baseDir service disk hookType.asStr
        stepName outputs = (next, .ok ()) ∧ format.toJson outputs = .ok text ∧
      next.lookup (stepLocation service hookType.asStr stepName base) = some (.file text) ∧
      (∀ location, OnTheWay service hookType.asStr base location →
        next.lookup location = some .directory) ∧
      ∀ location, location ≠ stepLocation service hookType.asStr stepName base →
        ¬ OnTheWay service hookType.asStr base location →
        next.lookup location = disk.lookup location := by
  obtain ⟨acceptedService, whole, acceptedFile⟩ := storable
  obtain ⟨larger, created, chain, same⟩ :=
    createDirs_names (accepted_hookNames acceptedService) ready.clear
  have createdAll : disk.createDirAll directory (hookOutputsDir baseDir service hookType.asStr) =
      (larger, .ok ()) := by
    have below := below_hookOutputsDir valid ready
    rw [Disk.createDirAll, below.parts, below.start,
      createDirs_of_walk ready.walk ready.baseDirectory, created]
  have extended : Disk.Extends disk larger := by
    refine extends_of_lookup fun location => ?_
    by_cases onTheWay : OnTheWay service hookType.asStr base location
    · obtain ⟨ancestors, above, nonempty, rfl⟩ := onTheWay
      exact .inr (.inl (chain ancestors above nonempty))
    · exact .inl (same location onTheWay)
  have hookReached : larger.walk (startOf ..)
      (components baseDir ++ (hookNames service hookType.asStr).map .name) =
      .ok (base ++ hookNames service hookType.asStr) :=
    walk_append.mpr ⟨base, extended.walk ready.walk,
      walk_names (extended.1 base ready.baseDirectory) (accepted_hookNames acceptedService)
        chain⟩
  have notOnTheWay := @not_onTheWay_stepLocation base service hookType.asStr stepName
  obtain ⟨text, found, json, _, _⟩ := format.roundTrip outputs
  have written : larger.write directory (stepOutputsPath baseDir service hookType.asStr stepName)
      text = (larger.insert (stepLocation service hookType.asStr stepName base) (.file text),
        .ok ()) := by
    have below := below_stepOutputsPath valid ready whole
    refine write_eq_ok ?_ (below.start ▸ hookReached) ?_ acceptedFile ?_ text
    · rw [below.parts, map_append, ← append_assoc]
      rfl
    · exact isDirectory_of_lookup (chain _ (prefix_refl _) (cons_ne_nil _ _))
    · change larger.lookup (stepLocation service hookType.asStr stepName base) ≠ _
      rw [same _ notOnTheWay]
      exact ready.files _
  refine ⟨larger.insert (stepLocation service hookType.asStr stepName base) (.file text), text,
    ?_, json, ?_, ?_, ?_⟩
  · simp only [writeHookStepOutputs, createdAll, json, written]
  · rw [lookup_insert_eq, if_pos rfl]
  · rintro location ⟨ancestors, above, nonempty, rfl⟩
    rw [lookup_insert_eq, if_neg]
    · exact chain ancestors above nonempty
    · intro equal
      exact notOnTheWay ⟨ancestors, above, nonempty, equal⟩
  · intro location other outside
    rw [lookup_insert_eq, if_neg (Ne.symm other)]
    exact same location outside

theorem Ready.writeHookStepOutputs {stepName : String} (storable : Storable service stepName)
    (outputs : Bindings) :
    Ready directory baseDir service hookType.asStr base
      (Kepler.writeHookStepOutputs format directory baseDir service disk hookType.asStr stepName
        outputs).1 := by
  have kept := @wellFormed_writeHookStepOutputs format directory baseDir service disk
    ready.wellFormed (ready.wellFormed.directory ready.inside) hookType.asStr stepName outputs
  obtain ⟨next, text, stored, _, file, chain, same⟩ :=
    @writeHookStepOutputs_eq_ok format _ _ _ _ _ _ valid ready stepName storable outputs
  rw [stored] at kept ⊢
  have extended : Disk.Extends disk next := by
    refine extends_of_lookup fun location => ?_
    by_cases onTheWay : OnTheWay service hookType.asStr base location
    · exact .inr (.inl (chain location onTheWay))
    by_cases isFile : location = stepLocation service hookType.asStr stepName base
    · subst isFile
      exact .inr (.inr ⟨ready.files _, by rw [file]; rfl⟩)
    · exact .inl (same location isFile onTheWay)
  refine ⟨kept, extended.1 _ ready.inside, extended.locate ready.found,
    extended.1 _ ready.baseDirectory, fun ancestors above nonempty content isFile => ?_,
    fun name isDirectory => ?_⟩
  · rw [chain _ ⟨ancestors, above, nonempty, rfl⟩] at isFile
    cases isFile
  · by_cases isFile : base ++ hookNames service hookType.asStr ++ [name] =
        stepLocation service hookType.asStr stepName base
    · rw [isFile, file] at isDirectory
      cases isDirectory
    · rw [same _ isFile (not_onTheWay_of_longer rfl)] at isDirectory
      exact ready.files name isDirectory

/-! ### The loop over the steps -/

theorem run_storeStep {steps : List ((_ : String) × Bindings)} (distinct : steps.NodupKeys)
    (storable : ∀ step ∈ steps, Storable service step.1) :
    ∃ after, Runs.run (storeStep format directory baseDir service hookType.asStr) (disk, []) steps =
        (after, steps.map fun step => stepOutputsPath baseDir service hookType.asStr step.1) ∧
      Ready directory baseDir service hookType.asStr base after ∧
      ∀ step ∈ steps,
        (∀ location, OnTheWay service hookType.asStr base location →
          after.lookup location = some .directory) ∧
        ∃ text, format.toJson step.2 = .ok text ∧
          after.lookup (stepLocation service hookType.asStr step.1 base) = some (.file text) := by
  induction steps using List.reverseRecOn with
  | nil => exact ⟨disk, rfl, ready, by simp⟩
  | append_singleton rest last inductionHypothesis =>
    have lastMember : last ∈ rest ++ [last] := mem_append_right _ (mem_singleton_self last)
    obtain ⟨middle, reached, middleReady, restStored⟩ :=
      inductionHypothesis (distinct.sublist (sublist_append_left _ _))
        fun step member => storable step (mem_append_left _ member)
    have afterReady := @Ready.writeHookStepOutputs format _ _ _ _ _ _ valid middleReady last.1
      (storable last lastMember) last.2
    obtain ⟨after, text, stored, json, file, chain, same⟩ := @writeHookStepOutputs_eq_ok format _ _
      _ _ _ _ valid middleReady last.1 (storable last lastMember) last.2
    rw [stored] at afterReady
    refine ⟨after, ?_, afterReady, fun step member => ⟨chain, ?_⟩⟩
    · rw [Runs.run_concat, reached, storeStep]
      simp only [stored, map_append]
      rfl
    · rcases mem_append.mp member with old | new
      · obtain ⟨_, oldText, oldJson, oldFile⟩ := restStored step old
        refine ⟨oldText, oldJson, ?_⟩
        rw [same _ ?_ (not_onTheWay_stepLocation _ _), oldFile]
        intro clash
        -- two steps of one name would be one entry of the map
        obtain rfl := distinct.eq_of_fst_eq member lastMember (stepLocation_injective clash)
        have twice := distinct.nodup
        exact (nodup_append.mp twice).2.2 step old step (mem_singleton_self step) rfl
      · obtain rfl := mem_singleton.mp new
        exact ⟨text, json, file⟩

theorem located_hooksDir (accepted : nameError service = none)
    (chain : ∀ location, OnTheWay service hookType.asStr base location →
      disk.lookup location = some .directory) :
    disk.locate directory (joinPath (serviceOutputsDir baseDir service) "hooks") =
        .ok (base ++ ["outputs", service, "hooks"]) ∧
      disk.isDirectory (base ++ ["outputs", service, "hooks"]) = true := by
  have above : ["outputs", service, "hooks"] <+: hookNames service hookType.asStr :=
    ⟨[hookType.asStr], rfl⟩
  constructor
  · have below := below_hooksDir valid ready
    rw [Disk.locate, if_neg below.spelled, below.start, below.parts]
    refine walk_append.mpr ⟨base, ready.walk, walk_names ready.baseDirectory ?_ ?_⟩
    · exact fun text member => accepted_hookNames accepted text (above.subset member)
    · exact fun ancestors further nonempty =>
        chain _ ⟨ancestors, further.trans above, nonempty, rfl⟩
  · exact isDirectory_of_lookup
      (chain _ ⟨["outputs", service, "hooks"], above, by simp, rfl⟩)

end

theorem wellFormed_storeStepOutputs (wellFormed : disk.WellFormed)
    (proper : ∀ text ∈ directory, ProperName text) (hookName : String) (captured : StepOutputs) :
    (storeStepOutputs format directory baseDir service hookName disk captured).1.WellFormed := by
  refine @Runs.always (Disk String × List String) _ _ _ (fun progress => progress.1.WellFormed)
    (fun progress step kept => ?_) captured.entries wellFormed
  have next := @wellFormed_writeHookStepOutputs format directory baseDir service progress.1 kept
    proper hookName step.1 step.2
  unfold storeStep
  split <;> next written => rwa [written] at next

/-! ### Reading back -/

theorem readStepOutputs_eq_some :
    readStepOutputs format entry = some (stepName, found) ↔
      entry.1 = stepName ++ ".json" ∧
        ∃ contents, entry.2 = .file contents ∧ format.fromJson contents = some found := by
  obtain ⟨file, node⟩ := entry
  unfold readStepOutputs
  rw [← stripSuffix_eq_some]
  cases stripped : stripSuffix file ".json" with
  | none => simp
  | some name => ?_
  cases node with
  | directory => simp
  | file contents =>
    cases read : format.fromJson contents with
    | none => simp [read]
    | some other => simp [read]

theorem functional_readStepOutputs (hookDir : Location) :
    HashMap.Functional ((disk.readDir hookDir).filterMap (readStepOutputs format)) := by
  rintro ⟨stepName, found⟩ first ⟨otherName, otherFound⟩ second same
  subst same
  obtain ⟨firstEntry, firstListed, firstRead⟩ := mem_filterMap.mp first
  obtain ⟨secondEntry, secondListed, secondRead⟩ := mem_filterMap.mp second
  obtain ⟨firstFile, contents, isFile, parsed⟩ := readStepOutputs_eq_some.mp firstRead
  obtain ⟨secondFile, otherContents, otherIsFile, otherParsed⟩ :=
    readStepOutputs_eq_some.mp secondRead
  have sameNode := functional_readDir hookDir firstEntry firstListed secondEntry secondListed
    (firstFile.trans secondFile.symm)
  obtain rfl := DiskEntry.file.inj (isFile.symm.trans (sameNode.trans otherIsFile))
  exact some.inj (parsed.symm.trans otherParsed)

theorem lookup_collect_readStepOutputs {hookDir : Location} :
    (HashMap.collect (readStepOutputs format) (disk.readDir hookDir)).lookup stepName =
        some found ↔
      ∃ contents, disk.lookup (hookDir ++ [stepName ++ ".json"]) = some (.file contents) ∧
        format.fromJson contents = some found := by
  rw [lookup_collect_eq_some_iff _ _ (functional_readStepOutputs hookDir),
    mem_filterMap]
  constructor
  · rintro ⟨⟨file, node⟩, listed, read⟩
    obtain ⟨rfl, contents, rfl, parsed⟩ := readStepOutputs_eq_some.mp read
    exact ⟨contents, mem_readDir.mp listed, parsed⟩
  · rintro ⟨contents, there, parsed⟩
    exact ⟨(stepName ++ ".json", .file contents), mem_readDir.mpr there,
      readStepOutputs_eq_some.mpr ⟨rfl, contents, rfl, parsed⟩⟩

theorem readHookOutputs_eq_some {hooksDir : Location} {steps : StepOutputs} :
    readHookOutputs format disk hooksDir entry = some (hookName, steps) ↔
      entry = (hookName, .directory) ∧ steps.entries ≠ [] ∧
        steps = HashMap.collect (readStepOutputs format)
          (disk.readDir (hooksDir ++ [hookName])) := by
  obtain ⟨name, node⟩ := entry
  cases node with
  | file => simp [readHookOutputs]
  | directory => ?_
  simp only [readHookOutputs, List.isEmpty_iff]
  constructor
  · intro read
    split_ifs at read with empty
    obtain ⟨rfl, rfl⟩ := Prod.mk.inj (some.inj read)
    exact ⟨rfl, empty, rfl⟩
  · rintro ⟨same, nonempty, rfl⟩
    obtain ⟨rfl, _⟩ := Prod.mk.inj same
    rw [if_neg nonempty]

theorem functional_readHookOutputs (hooksDir : Location) :
    HashMap.Functional ((disk.readDir hooksDir).filterMap
      (readHookOutputs format disk hooksDir)) := by
  rintro ⟨hookName, steps⟩ first ⟨otherName, otherSteps⟩ second same
  subst same
  obtain ⟨_, _, firstRead⟩ := mem_filterMap.mp first
  obtain ⟨_, _, secondRead⟩ := mem_filterMap.mp second
  rw [(readHookOutputs_eq_some.mp firstRead).2.2, (readHookOutputs_eq_some.mp secondRead).2.2]

theorem lookup_readAllHookOutputs :
    (∃ steps, (readAllHookOutputs format directory baseDir service disk).lookup hookName =
        some steps ∧ steps.lookup stepName = some found) ↔
      ∃ hooksDir contents,
        disk.locate directory (joinPath (serviceOutputsDir baseDir service) "hooks") =
          .ok hooksDir ∧ disk.isDirectory hooksDir = true ∧
        disk.lookup (hooksDir ++ [hookName]) = some .directory ∧
        disk.lookup (hooksDir ++ [hookName] ++ [stepName ++ ".json"]) = some (.file contents) ∧
        format.fromJson contents = some found := by
  unfold readAllHookOutputs
  cases disk.locate directory (joinPath (serviceOutputsDir ..) "hooks") with
  | error e => simp [lookup_empty]
  | ok hooksDir => ?_
  by_cases isDirectory : disk.isDirectory hooksDir = true
  · simp only [if_pos isDirectory, lookup_collect_eq_some_iff _ _
      (functional_readHookOutputs hooksDir), mem_filterMap, readHookOutputs_eq_some,
      Except.ok.injEq]
    constructor
    · rintro ⟨steps, ⟨_, listed, rfl, _, rfl⟩, read⟩
      obtain ⟨contents, there, parsed⟩ := lookup_collect_readStepOutputs.mp read
      exact ⟨hooksDir, contents, rfl, isDirectory, mem_readDir.mp listed, there, parsed⟩
    · rintro ⟨_, contents, rfl, _, hookThere, there, parsed⟩
      have read := lookup_collect_readStepOutputs.mpr ⟨contents, there, parsed⟩
      refine ⟨_, ⟨(hookName, .directory), mem_readDir.mpr hookThere, rfl, ?_, rfl⟩, read⟩
      intro empty
      rw [AList.lookup, empty] at read
      cases read
  · simp [isDirectory, lookup_empty]

end

/-! ### Storing and reading back -/

/-- Every file written for the outputs of a hook lies directly in its directory, and what is read
under the hook and the name of a step is what the step has captured. -/
def HookOutputsStored (format : OutputFormat) (directory : Location)
    (baseDir service hookName : String) (disk : Disk String) (captured : StepOutputs) : Prop :=
  (∀ path ∈ (storeStepOutputs format directory baseDir service hookName disk captured).2,
      ∃ file, lexical directory path =
        lexical directory baseDir ++ hookNames service hookName ++ [file]) ∧
    ∀ stepName outputs, captured.lookup stepName = some outputs →
      ∃ steps, (readAllHookOutputs format directory baseDir service
          (storeStepOutputs format directory baseDir service hookName disk captured).1).lookup
            hookName = some steps ∧
        ∃ found, steps.lookup stepName = some found ∧ HashMap.Same found outputs

/-- For every valid service name, every disk that is ready and all captured outputs: the outputs are
stored in their place and read back exactly when every step name is without a separator and makes a
file name that the system accepts, and the system accepts the service name. -/
theorem hookOutputs_stored_iff (format : OutputFormat) (directory : Location)
    (baseDir service : String) (hookType : ServiceHookType) (disk : Disk String)
    (valid : validateServiceName service = .ok ()) (base : Location)
    (ready : Ready directory baseDir service hookType.asStr base disk) (captured : StepOutputs) :
    HookOutputsStored format directory baseDir service hookType.asStr disk captured ↔
      ∀ stepName ∈ captured, Storable service stepName := by
  unfold HookOutputsStored
  constructor
  · rintro ⟨_, readBack⟩ stepName member
    obtain ⟨outputs, held⟩ := isSome_iff_exists.mp (lookup_isSome.mpr member)
    obtain ⟨steps, hookFound, found, stepFound, _⟩ := readBack stepName outputs held
    obtain ⟨hooksDir, contents, located, _, _, file, _⟩ :=
      lookup_readAllHookOutputs.mp ⟨steps, hookFound, stepFound⟩
    have proper := wellFormed_storeStepOutputs ready.wellFormed
      (ready.wellFormed.directory ready.inside) hookType.asStr captured _
      (lookup_isSome.mp (isSome_of_eq_some file))
    have place := eq_lexical_of_locate located
    rw [(below_hooksDir valid ready).lexical_eq] at place
    have acceptedService := proper service (by simp [place])
    have acceptedFile := proper (stepName ++ ".json") (by simp)
    exact ⟨acceptedService.2.2, not_mem_json.mp acceptedFile.2.1, acceptedFile.2.2⟩
  · intro storable
    have storableEntry : ∀ step ∈ captured.entries, Storable service step.1 := fun step member =>
      storable step.1 (mem_map.mpr ⟨step, member, rfl⟩)
    obtain ⟨after, reached, afterReady, stored⟩ :=
      @run_storeStep format directory base baseDir service hookType disk valid ready
        captured.entries captured.nodupKeys storableEntry
    rw [storeStepOutputs, reached]
    refine ⟨fun path member => ?_, fun stepName outputs held => ?_⟩
    · obtain ⟨step, inEntries, rfl⟩ := mem_map.mp member
      refine ⟨step.1 ++ ".json", ?_⟩
      rw [append_assoc]
      exact (below_stepOutputsPath valid ready (storableEntry step inEntries).2.1).lexical_eq
    · have inEntries : ⟨stepName, outputs⟩ ∈ captured.entries := mem_lookup_iff.mp held
      obtain ⟨chain, text, json, file⟩ := stored ⟨stepName, outputs⟩ inEntries
      obtain ⟨written, found, again, parsed, same⟩ := format.roundTrip outputs
      cases json.symm.trans again
      have located := located_hooksDir valid afterReady (storableEntry _ inEntries).1 chain
      have hookThere : after.lookup (base ++ ["outputs", service, "hooks"] ++ [hookType.asStr]) =
          some .directory := by
        rw [append_assoc]
        exact chain _ ⟨hookNames service hookType.asStr, prefix_refl _, by simp [hookNames],
          rfl⟩
      have fileThere : after.lookup (base ++ ["outputs", service, "hooks"] ++ [hookType.asStr] ++
          [stepName ++ ".json"]) = some (.file text) := by
        rw [append_assoc base]
        exact file
      obtain ⟨steps, hookFound, stepFound⟩ := lookup_readAllHookOutputs.mpr
        ⟨_, text, located.1, located.2, hookThere, fileThere, parsed⟩
      exact ⟨steps, hookFound, found, stepFound, same⟩

/-! ### A step that names a file of the system -/

/-- A text as `serde_json` writes it, but for control characters, which are not escaped here. -/
def quoted (text : String) : List Char :=
  '"' :: text.toList.flatMap (fun c => if c = '"' ∨ c = '\\' then ['\\', c] else [c]) ++ ['"']

/-- The texts that are quoted, after a part of one that was read. -/
def unquoted : Option (List Char) → List Char → List String
  | _, [] => []
  | none, character :: rest => unquoted (if character = '"' then some [] else none) rest
  | some text, '"' :: rest => String.ofList text :: unquoted none rest
  | some text, '\\' :: character :: rest => unquoted (some (text ++ [character])) rest
  | some text, character :: rest => unquoted (some (text ++ [character])) rest

theorem unquoted_quoted (text : String) (rest : List Char) :
    unquoted none (quoted text ++ rest) = text :: unquoted none rest := by
  have inside (characters before : List Char) : unquoted (some before) (characters.flatMap
      (fun c => if c = '"' ∨ c = '\\' then ['\\', c] else [c]) ++ '"' :: rest) =
        String.ofList (before ++ characters) :: unquoted none rest := by
    induction characters generalizing before with
    | nil => simp [unquoted]
    | cons first others inductionHypothesis =>
      have next := inductionHypothesis (before ++ [first])
      rw [append_assoc] at next
      by_cases special : first = '"' ∨ first = '\\'
      · simpa [special, unquoted] using next
      · obtain ⟨notQuote, notEscape⟩ := not_or.mp special
        simpa [notQuote, notEscape, unquoted] using next
  simpa [quoted, unquoted] using inside text.toList []

def writePairs : List ((_ : String) × String) → List Char
  | [] => ['}']
  | pair :: rest => quoted pair.1 ++ ':' :: quoted pair.2 ++
      if rest.isEmpty then writePairs rest else ',' :: writePairs rest

def readPairs : List String → List ((_ : String) × String)
  | key :: value :: rest => ⟨key, value⟩ :: readPairs rest
  | _ => []

theorem readPairs_writePairs (pairs : List ((_ : String) × String)) :
    readPairs (unquoted none (writePairs pairs)) = pairs := by
  induction pairs with
  | nil => rfl
  | cons pair rest inductionHypothesis =>
    rw [writePairs, append_assoc, unquoted_quoted, cons_append, unquoted, if_neg (by decide),
      unquoted_quoted, readPairs]
    refine congrArg (pair :: ·) ?_
    split
    · exact inductionHypothesis
    · exact inductionHypothesis

/-- A writer of variables as JSON objects, and a reader of what it writes. -/
def jsonFormat : OutputFormat where
  toJson outputs := .ok (String.ofList ('{' :: writePairs outputs.entries))
  fromJson text := some (readPairs (unquoted none text.toList)).toAList
  debugPath path := String.ofList (quoted path)
  roundTrip outputs := by
    refine ⟨_, outputs.entries.toAList, rfl, ?_, (dlookup_dedupKeys · outputs.entries)⟩
    rw [String.toList_ofList, unquoted, if_neg (by decide), readPairs_writePairs]

example : jsonFormat.toJson ((∅ : Bindings).insert "token" "abc") =
    .ok "\x7b\"token\":\"abc\"\x7d" := by decide +kernel

/-- A disk with the state directory of a config, and the configuration of the system. -/
def stateDisk : Disk String :=
  ((∅ : Disk String).insert ["etc"] .directory).insert ["state"] .directory

def capturedAs (stepName : String) : StepOutputs :=
  (∅ : StepOutputs).insert stepName ((∅ : Bindings).insert "token" "abc")

/-- A step whose output name is an absolute path writes outside the state directory. -/
theorem absoluteName_not_stored : validateServiceName "app" = .ok () ∧
    ¬ HookOutputsStored jsonFormat [] "/state" "app" ServiceHookType.preStart.asStr stateDisk
      (capturedAs "/etc/app") := by
  refine ⟨by decide +kernel, fun ⟨inside, _⟩ => ?_⟩
  have written : "/etc/app.json" ∈ (storeStepOutputs jsonFormat [] "/state" "app"
      ServiceHookType.preStart.asStr stateDisk (capturedAs "/etc/app")).2 := by decide +kernel
  obtain ⟨file, place⟩ := inside "/etc/app.json" written
  have elsewhere : lexical [] "/etc/app.json" = ["etc", "app.json"] := by decide +kernel
  have state : lexical [] "/state" = ["state"] := by decide +kernel
  rw [elsewhere, state] at place
  exact absurd (congrArg List.length place) (by simp [hookNames])

theorem stateDisk_ready :
    Ready [] "/state" "app" ServiceHookType.preStart.asStr ["state"] stateDisk := by
  have below (names : List String) (nonempty : names ≠ []) :
      stateDisk.lookup (["state"] ++ names) = none := by
    rw [stateDisk, lookup_insert_eq, if_neg (by simpa using nonempty),
      lookup_insert_eq, if_neg (by simp), lookup_empty]
  refine ⟨?_, rfl, by decide +kernel, by decide +kernel, fun ancestors _ nonempty content isFile => ?_,
    fun text isDirectory => ?_⟩
  · intro location member text inLocation
    rcases (mem_insert _).mp member with rfl | member
    · obtain rfl := mem_singleton.mp inLocation
      exact ⟨by decide +kernel, by decide +kernel, by decide +kernel⟩
    rcases (mem_insert _).mp member with rfl | member
    · obtain rfl := mem_singleton.mp inLocation
      exact ⟨by decide +kernel, by decide +kernel, by decide +kernel⟩
    · exact absurd member (notMem_empty location)
  · rw [below ancestors nonempty] at isFile
    cases isFile
  · rw [append_assoc, below _ (by simp [hookNames])] at isDirectory
    cases isDirectory

theorem plainName_stored :
    HookOutputsStored jsonFormat [] "/state" "app" ServiceHookType.preStart.asStr stateDisk
      (capturedAs "keys") := by
  have valid : validateServiceName "app" = .ok () := by decide +kernel
  have storable : ∀ stepName ∈ capturedAs "keys", Storable "app" stepName := by
    intro stepName member
    rcases (mem_insert _).mp member with rfl | member
    · exact ⟨by decide +kernel, by decide +kernel, by decide +kernel⟩
    · exact absurd member (notMem_empty stepName)
  exact (hookOutputs_stored_iff jsonFormat [] "/state" "app" .preStart stateDisk valid ["state"]
    stateDisk_ready (capturedAs "keys")).mpr storable

end Kepler
