/-
# Aeolus.Automations.ProjectBundle — what a project may contain, and what it may load

`normalizeProject` and `virtualProjectPlugin` of `src/automations/automation-project.ts`,
between the authored files of an automation and esbuild.  The bundler itself is not here.
It asks the plugin how every import resolves and loads what the plugin answers; what it
reads from a module's text, `imports`, is arbitrary, and an import that the plugin
would leave unanswered would end anywhere on the disk (`Loaded`).

A path that was accepted is its own normal form (`normalizeProjectPath_idem`): the files of an
accepted project are accepted again as they are.  An import of a project file resolves to a
file of the map or to nothing, so no chain of imports leaves it.
-/
import Mathlib
import Aeolus.Automations.AutomationProject
import Aeolus.Core.JsonText
import Aeolus.Core.PosixPath

namespace Aeolus.Automations

open Aeolus.Core Aeolus.Db Aeolus.Theory

/-! ## The accepted projects -/

def maxProjectFiles : Nat := 64

def maxProjectBytes : Nat := 512 * 1024

def maxProjectFileBytes : Nat := 128 * 1024

def allowedSourceExtensions : List String := [".ts", ".tsx", ".js", ".jsx", ".json"]

/-- The details of an `AutomationProjectCompileError` that `normalizeProject` throws. -/
def compileErrors (path : Option String) (message : String) : List ProjectCompileError :=
  [{ path, line := 1, column := 0, message }]

/-- `normalized === ".." || normalized.startsWith("../")` -/
def climbs (path : String) : Bool := path = ".." || "../".toList.isPrefixOf path.toList

def normalizeProjectPath (input : String) : Except (List ProjectCompileError) String :=
  if input = "" ∨ '\\' ∈ input.toList ∨ PosixPath.isAbsolute input.toList ∨
      '\x00' ∈ input.toList then
    let shown := if input = "" then "<empty>" else input
    .error (compileErrors none s!"Invalid project path: {shown}")
  else
    let normalized := PosixPath.normalize input
    if normalized = "." ∨ climbs normalized ∨ "/../".toList <:+: normalized.toList then
      .error (compileErrors none s!"Project path escapes its root: {input}")
    else
      let ext := PosixPath.extname normalized
      if ext ∈ allowedSourceExtensions then .ok normalized
      else
        let shown := if ext = "" then "<none>" else ext
        .error (compileErrors (some normalized) s!"Unsupported project file type: {shown}")

/-- The loop over the files: the map so far, and the bytes so far. -/
structure FilesRead where
  map : OrderedMap String String := .empty
  totalBytes : Nat := 0

def readFile (read : FilesRead) (file : AutomationProjectFile) :
    Except (List ProjectCompileError) FilesRead := do
  let filePath ← normalizeProjectPath file.path
  let bytes := file.content.utf8ByteSize
  if maxProjectFileBytes < bytes then
    throw (compileErrors (some filePath) s!"Project file exceeds {maxProjectFileBytes} bytes")
  if read.map.has filePath then
    throw (compileErrors (some filePath) s!"Duplicate project file: {filePath}")
  return { map := read.map.set filePath file.content, totalBytes := read.totalBytes + bytes }

/-- `null` is `none`; the default entry is taken only when it is there. -/
def requestedUiEntry (map : OrderedMap String String) :
    Option (Option String) → Except (List ProjectCompileError) (Option String)
  | some none => .ok none
  | some (some path) => (normalizeProjectPath path).map some
  | none => .ok (if map.has defaultUiEntry then some defaultUiEntry else none)

structure NormalizedProject where
  map : OrderedMap String String
  files : List AutomationProjectFile
  logicEntry : String
  uiEntry : Option String

/-- `a.localeCompare(b) <= 0`: a consistent comparison of all strings, in which two
strings may be equal without being the same. -/
structure Collation where
  le : String → String → Bool
  total : ∀ a b, le a b || le b a
  trans : ∀ a b c, le a b → le b c → le a c

def filesOf (map : OrderedMap String String) : List AutomationProjectFile :=
  map.entries.map fun entry => { path := entry.1, content := entry.2 }

variable (locale : Collation)

def sortFiles (files : List AutomationProjectFile) : List AutomationProjectFile :=
  files.mergeSort fun a b => locale.le a.path b.path

def normalizeProject (project : AutomationProject) :
    Except (List ProjectCompileError) NormalizedProject := do
  if project.files = [] then
    throw (compileErrors none "Automation Project must contain at least one source file")
  if maxProjectFiles < project.files.length then
    throw (compileErrors none s!"Automation Project exceeds {maxProjectFiles} files")
  let read ← project.files.foldlM readFile {}
  if maxProjectBytes < read.totalBytes then
    throw (compileErrors none s!"Automation Project exceeds {maxProjectBytes} bytes")
  let logicEntry ← normalizeProjectPath ((truthy project.logicEntry).getD defaultLogicEntry)
  let uiEntry ← requestedUiEntry read.map project.uiEntry
  if read.map.has logicEntry = false then
    throw (compileErrors (some logicEntry) s!"Logic entry file not found: {logicEntry}")
  if let some entry := truthy uiEntry then
    if read.map.has entry = false then
      throw (compileErrors (some entry) s!"UI entry file not found: {entry}")
  return { map := read.map, files := sortFiles locale (filesOf read.map), logicEntry, uiEntry }

/-! ## Compiling -/

inductive BundleMode where
  | logic
  | ui
  deriving DecidableEq

namespace NormalizedProject

/-- The normalised form as a project. -/
def project (normalized : NormalizedProject) : AutomationProject where
  files := normalized.files
  logicEntry := some normalized.logicEntry
  uiEntry := some normalized.uiEntry

/-- What `compileAutomationProject` returns, by the texts that the bundler wrote. -/
def compiled (normalized : NormalizedProject) (compiledJs : String) (compiledUi : Option String) :
    CompiledAutomationProject where
  compiledJs
  compiledUi
  logicSource := (normalized.map.get normalized.logicEntry).getD ""
  uiSource := normalized.uiEntry.bind normalized.map.get
  files := normalized.files
  logicEntry := normalized.logicEntry
  uiEntry := normalized.uiEntry

end NormalizedProject

/-! ## The plugin of the bundler -/

/-- Bare specifiers a project's UI may import. -/
def uiExternals : List String := ["react", "react-dom", "react/jsx-runtime", "@aeolus/ui"]

/-- The synthetic entry module. -/
def aeolusEntry : String := "__aeolus_entry__"

inductive Resolution where
  /-- a module of the namespace `aeolus-project` -/
  | project (path : String)
  | external (path : String)
  | errors (text : String)
  deriving DecidableEq

def candidates (requested : String) : List String :=
  [requested, requested ++ ".ts", requested ++ ".tsx", requested ++ ".js", requested ++ ".jsx",
    requested ++ ".json", requested ++ "/index.ts", requested ++ "/index.tsx",
    requested ++ "/index.js", requested ++ "/index.jsx"]

/-- The second `onResolve`: an import in a module of the namespace. -/
def resolveImport (files : OrderedMap String String) (mode : BundleMode) (importer spec : String) :
    Resolution :=
  if mode = .ui ∧ spec ∈ uiExternals then .external spec
  else if !".".toList.isPrefixOf spec.toList then
    let provided := if mode = .ui then
      " (the UI sandbox provides \"react\" and \"@aeolus/ui\")" else ""
    .errors s!"Only relative project imports are allowed{provided}: {spec}"
  else
    let base := if importer = aeolusEntry then "" else PosixPath.dirname importer
    let requested := PosixPath.normalize (PosixPath.join base spec)
    if climbs requested then .errors s!"Import escapes Automation Project: {spec}"
    else
      match (candidates requested).find? files.has with
      | none => .errors s!"Project import not found: {spec} from {importer}"
      | some found => .project found

inductive Loader where
  | ts | tsx | js | jsx | json
  deriving DecidableEq

structure LoadResult where
  contents : String
  loader : Loader
  resolveDir : String
  deriving DecidableEq

def loaderOf (ext : String) : Loader :=
  if ext = ".tsx" then .tsx
  else if ext = ".jsx" then .jsx
  else if ext = ".json" then .json
  else if ext = ".js" then .js
  else .ts

/-- `onLoad`, for the modules of the namespace; an error is its text. -/
def onLoad (files : OrderedMap String String) (mode : BundleMode) (entry path : String) :
    Except String LoadResult :=
  if path = aeolusEntry then
    let q := String.ofList (JsonText.quote ("./" ++ entry))
    match mode with
    | .logic => .ok
        { contents := "import * as entryModule from " ++ q ++
            ";\nconst run = entryModule.default;\nif (typeof run === \"function\") " ++
            "automation(\x7b actions: [run] \x7d);"
          loader := .ts
          resolveDir := "/" }
    | .ui => .ok
        { contents := "import Component from " ++ q ++ ";\nexport default Component;"
          loader := .tsx
          resolveDir := "/" }
  else
    match files.get path with
    | none => .error s!"Project file not found: {path}"
    | some contents => .ok
        { contents
          loader := loaderOf (PosixPath.extname path)
          resolveDir := "/" ++ PosixPath.dirname path }

/-! ## What the bundler loads -/

inductive Module where
  /-- in the namespace `aeolus-project` -/
  | project (path : String)
  | external (path : String)
  /-- in the namespace `file`: found by the bundler's own resolver -/
  | disk (path : String)
  deriving DecidableEq

/-- The `onResolve` that answers, if one does; the importer of an entry point is `none`.
The first one is for every namespace, the second one for the plugin's own. -/
def onResolve (files : OrderedMap String String) (mode : BundleMode) (importer : Option Module)
    (spec : String) : Option Resolution :=
  if spec = aeolusEntry then some (.project aeolusEntry)
  else
    match importer with
    | some (.project path) => some (resolveImport files mode path spec)
    | _ => none

/-- The modules to which an import may lead; nowhere, when the plugin answers with errors. -/
def LeadsTo (answer : Option Resolution) (target : Module) : Prop :=
  match answer with
  | some (.project path) => target = .project path
  | some (.external path) => target = .external path
  | some (.errors _) => False
  | none => ∃ path, target = .disk path

section Bundling

variable (files : OrderedMap String String) (mode : BundleMode) (entry : String)
  (imports : Module → String → String → Prop)

/-- The text of a loaded module: a file on the disk may hold anything, and an external
module is not read. -/
def HasContents (loaded : Module) (contents : String) : Prop :=
  match loaded with
  | .project path =>
    ∃ result, onLoad files mode entry path = .ok result ∧ result.contents = contents
  | .disk _ => True
  | .external _ => False

/-- The modules of `build` with the entry point `__aeolus_entry__`, by chains of imports. -/
inductive Loaded : Module → Prop
  | entryPoint {target : Module} :
      LeadsTo (onResolve files mode none aeolusEntry) target → Loaded target
  | imported {importer target : Module} {contents spec : String} :
      Loaded importer → HasContents files mode entry importer contents →
      imports importer contents spec → LeadsTo (onResolve files mode (some importer) spec) target →
      Loaded target

end Bundling

/-! ## Accepted paths -/

/-- A path of which `normalizeProjectPath` returns the normal form. -/
structure ProjectPath (input : String) : Prop where
  nonempty : input ≠ ""
  no_backslash : '\\' ∉ input.toList
  relative : PosixPath.isAbsolute input.toList = false
  no_nul : '\x00' ∉ input.toList
  inside : ¬(PosixPath.normalize input = "." ∨ climbs (PosixPath.normalize input) = true ∨
    "/../".toList <:+: (PosixPath.normalize input).toList)
  source : PosixPath.extname (PosixPath.normalize input) ∈ allowedSourceExtensions

theorem normalizeProjectPath_ok_iff {input path : String} :
    normalizeProjectPath input = .ok path ↔
      ProjectPath input ∧ path = PosixPath.normalize input := by
  unfold normalizeProjectPath
  constructor
  · intro accepted
    split at accepted
    · cases accepted
    · rename_i spelled
      dsimp only at accepted
      split at accepted
      · cases accepted
      · rename_i inside
        split at accepted
        · rename_i source
          cases accepted
          simp only [not_or, Bool.not_eq_true] at spelled
          obtain ⟨nonempty, no_backslash, relative, no_nul⟩ := spelled
          exact ⟨⟨nonempty, no_backslash, relative, no_nul, inside, source⟩, rfl⟩
        · cases accepted
  · rintro ⟨here, rfl⟩
    have spelled : ¬(input = "" ∨ '\\' ∈ input.toList ∨
        PosixPath.isAbsolute input.toList = true ∨ '\x00' ∈ input.toList) := by
      simp only [not_or, Bool.not_eq_true]
      exact ⟨here.nonempty, here.no_backslash, here.relative, here.no_nul⟩
    rw [if_neg spelled]
    dsimp only
    rw [if_neg here.inside, if_pos here.source]

/-- An accepted path is accepted again, as it is. -/
theorem normalizeProjectPath_idem {input path : String}
    (accepted : normalizeProjectPath input = .ok path) : normalizeProjectPath path = .ok path := by
  obtain ⟨here, rfl⟩ := normalizeProjectPath_ok_iff.mp accepted
  have again := PosixPath.normalize_normalize input
  have letters {c : Char} (member : c ∈ (PosixPath.normalize input).toList) :
      c ∈ input.toList ∨ c = '/' ∨ c = '.' := by
    rw [PosixPath.normalize, String.toList_ofList] at member
    exact PosixPath.mem_normalizeLetters member
  refine normalizeProjectPath_ok_iff.mpr ⟨⟨?_, ?_, ?_, ?_, ?_, ?_⟩, again.symm⟩
  · exact PosixPath.normalize_ne_empty input
  · intro member
    rcases letters member with before | slash | dot
    · exact here.no_backslash before
    · cases slash
    · cases dot
  · rw [PosixPath.normalize, String.toList_ofList]
    exact PosixPath.isAbsolute_normalizeLetters here.relative
  · intro member
    rcases letters member with before | slash | dot
    · exact here.no_nul before
    · cases slash
    · cases dot
  · rw [again]
    exact here.inside
  · rw [again]
    exact here.source

/-- No accepted path is the name of the synthetic entry. -/
theorem aeolusEntry_refused : normalizeProjectPath aeolusEntry =
    .error (compileErrors (some aeolusEntry) "Unsupported project file type: <none>") := by
  decide +kernel

/-! ## Accepted projects -/

/-- A file as it is in a normalised project. -/
structure Fitting (file : AutomationProjectFile) : Prop where
  path : normalizeProjectPath file.path = .ok file.path
  small : file.content.utf8ByteSize ≤ maxProjectFileBytes

def bytesOf (files : List AutomationProjectFile) : Nat :=
  (files.map fun file => file.content.utf8ByteSize).sum

/-- What the loop over the files keeps. -/
structure FilesRead.Kept (read : FilesRead) : Prop where
  fitting : ∀ file ∈ filesOf read.map, Fitting file
  total : read.totalBytes = bytesOf (filesOf read.map)

theorem FilesRead.Kept.empty : FilesRead.Kept {} := ⟨by simp [filesOf], rfl⟩

theorem filesOf_set {map : OrderedMap String String} {path : String} (content : String)
    (absent : map.get path = none) :
    filesOf (map.set path content) =
      filesOf map ++ [(⟨path, content⟩ : AutomationProjectFile)] := by
  rw [filesOf, OrderedMap.entries_set_of_absent absent, List.map_append]
  rfl

theorem paths_filesOf (map : OrderedMap String String) :
    (filesOf map).map AutomationProjectFile.path = map.keys := by
  rw [filesOf, List.map_map]
  rfl

/-- One file that was read. -/
theorem readFile_ok_iff {read after : FilesRead} {file : AutomationProjectFile} :
    readFile read file = .ok after ↔ ∃ path, normalizeProjectPath file.path = .ok path ∧
      file.content.utf8ByteSize ≤ maxProjectFileBytes ∧ read.map.get path = none ∧
      after = { map := read.map.set path file.content
                totalBytes := read.totalBytes + file.content.utf8ByteSize } := by
  unfold readFile
  cases normalised : normalizeProjectPath file.path with
  | error details => exact ⟨fun h => (by cases h), fun ⟨_, h, _⟩ => (by cases h)⟩
  | ok path =>
      by_cases big : maxProjectFileBytes < file.content.utf8ByteSize
      · have refused : ¬file.content.utf8ByteSize ≤ maxProjectFileBytes := Nat.not_le.mpr big
        simp [bind, Except.bind, big, throw, throwThe, MonadExceptOf.throw]
      · have small : file.content.utf8ByteSize ≤ maxProjectFileBytes := Nat.not_lt.mp big
        cases found : read.map.get path with
        | none =>
            simp [bind, Except.bind, big, small, OrderedMap.has, found, pure, Except.pure, eq_comm]
        | some content =>
            simp [bind, Except.bind, big, OrderedMap.has, found, throw, throwThe,
              MonadExceptOf.throw]

theorem readFile_kept {read after : FilesRead} {file : AutomationProjectFile} (kept : read.Kept)
    (accepted : readFile read file = .ok after) :
    after.Kept ∧ after.map.size = read.map.size + 1 := by
  obtain ⟨path, normalised, small, absent, rfl⟩ := readFile_ok_iff.mp accepted
  refine ⟨⟨fun other member => ?_, ?_⟩, OrderedMap.size_set_of_absent absent⟩
  · dsimp only at member
    rw [filesOf_set _ absent] at member
    rcases List.mem_append.mp member with before | last
    · exact kept.fitting other before
    · rw [List.mem_singleton.mp last]
      exact ⟨normalizeProjectPath_idem normalised, small⟩
  · dsimp only
    rw [filesOf_set _ absent, kept.total]
    simp [bytesOf]

theorem foldlM_readFile_kept {files : List AutomationProjectFile} {read after : FilesRead}
    (kept : read.Kept) (accepted : files.foldlM readFile read = .ok after) :
    after.Kept ∧ after.map.size = read.map.size + files.length := by
  induction files generalizing read with
  | nil =>
      cases accepted
      exact ⟨kept, rfl⟩
  | cons file rest ih =>
      rw [List.foldlM_cons] at accepted
      obtain ⟨next, first, accepted⟩ := ok_of_bind accepted
      obtain ⟨here, one⟩ := readFile_kept kept first
      obtain ⟨there, others⟩ := ih here accepted
      refine ⟨there, ?_⟩
      rw [others, one, List.length_cons]
      omega

/-- The files that were read are the given ones, under their normal paths. -/
theorem filesOf_foldlM_readFile {files : List AutomationProjectFile} {read after : FilesRead}
    (accepted : files.foldlM readFile read = .ok after) : filesOf after.map = filesOf read.map ++
      files.map fun file => ⟨PosixPath.normalize file.path, file.content⟩ := by
  induction files generalizing read with
  | nil =>
      cases accepted
      simp
  | cons file rest ih =>
      rw [List.foldlM_cons] at accepted
      obtain ⟨next, first, accepted⟩ := ok_of_bind accepted
      obtain ⟨path, normalised, -, absent, rfl⟩ := readFile_ok_iff.mp first
      obtain ⟨-, rfl⟩ := normalizeProjectPath_ok_iff.mp normalised
      rw [ih accepted, filesOf_set _ absent, List.append_assoc]
      rfl

/-- Fitting files with distinct paths are all read, in their order. -/
theorem foldlM_readFile_fitting {files : List AutomationProjectFile} (read : FilesRead)
    (fitting : ∀ file ∈ files, Fitting file)
    (nodup : (files.map AutomationProjectFile.path).Nodup)
    (apart : ∀ file ∈ files, read.map.get file.path = none) :
    files.foldlM readFile read = .ok
      { map := read.map.setAll (files.map fun file => (file.path, file.content))
        totalBytes := read.totalBytes + bytesOf files } := by
  induction files generalizing read with
  | nil => rfl
  | cons file rest ih =>
      obtain ⟨here, later⟩ := List.forall_mem_cons.mp fitting
      obtain ⟨absent, still⟩ := List.forall_mem_cons.mp apart
      rw [List.map_cons, List.nodup_cons] at nodup
      have first := readFile_ok_iff.mpr ⟨file.path, here.path, here.small, absent, rfl⟩
      rw [List.foldlM_cons, first]
      change rest.foldlM readFile _ = _
      rw [ih _ later nodup.2]
      · simp [OrderedMap.setAll, bytesOf, Nat.add_assoc]
      · intro other member
        have distinct : other.path ≠ file.path := fun same =>
          nodup.1 (List.mem_map.mpr ⟨other, member, same⟩)
        rw [OrderedMap.get_set_of_ne _ _ distinct]
        exact still other member

theorem sortFiles_perm (files : List AutomationProjectFile) :
    (sortFiles locale files).Perm files := List.mergeSort_perm _ _

theorem sortFiles_sortFiles (files : List AutomationProjectFile) :
    sortFiles locale (sortFiles locale files) = sortFiles locale files :=
  List.mergeSort_of_pairwise
    (List.pairwise_mergeSort (fun a b c => locale.trans a.path b.path c.path)
      (fun a b => locale.total a.path b.path) files)

/-- What the files of a normalised project are. -/
structure NormalizedProject.Normal (normalized : NormalizedProject) : Prop where
  sorted : normalized.files = sortFiles locale (filesOf normalized.map)
  fitting : ∀ file ∈ filesOf normalized.map, Fitting file
  nonempty : normalized.map.size ≠ 0
  few : normalized.map.size ≤ maxProjectFiles
  small : bytesOf (filesOf normalized.map) ≤ maxProjectBytes
  logicPath : normalizeProjectPath normalized.logicEntry = .ok normalized.logicEntry
  logicFile : normalized.map.has normalized.logicEntry = true
  uiPath : ∀ entry ∈ normalized.uiEntry, normalizeProjectPath entry = .ok entry
  uiFile : ∀ entry ∈ truthy normalized.uiEntry, normalized.map.has entry = true

theorem requestedUiEntry_idem {map : OrderedMap String String} {requested : Option (Option String)}
    {uiEntry : Option String} (accepted : requestedUiEntry map requested = .ok uiEntry) :
    ∀ entry ∈ uiEntry, normalizeProjectPath entry = .ok entry := by
  rintro entry ⟨⟩
  match requested, accepted with
  | some (some path), accepted =>
      cases normalised : normalizeProjectPath path with
      | error details => simp [requestedUiEntry, normalised, Except.map] at accepted
      | ok normal =>
          simp only [requestedUiEntry, normalised, Except.map, Except.ok.injEq,
            Option.some.injEq] at accepted
          rw [← accepted]
          exact normalizeProjectPath_idem normalised
  | none, accepted =>
      simp only [requestedUiEntry, Except.ok.injEq, Option.ite_none_right_eq_some] at accepted
      rw [← Option.some.inj accepted.2]
      decide +kernel

/-- The stages that an accepted project went through. -/
theorem normalizeProject_ok {project : AutomationProject} {normalized : NormalizedProject}
    (accepted : normalizeProject locale project = .ok normalized) :
    ∃ read, project.files ≠ [] ∧ project.files.length ≤ maxProjectFiles ∧
      project.files.foldlM readFile {} = .ok read ∧ read.totalBytes ≤ maxProjectBytes ∧
      normalizeProjectPath ((truthy project.logicEntry).getD defaultLogicEntry) =
        .ok normalized.logicEntry ∧
      requestedUiEntry read.map project.uiEntry = .ok normalized.uiEntry ∧
      read.map.has normalized.logicEntry = true ∧
      (∀ entry ∈ truthy normalized.uiEntry, read.map.has entry = true) ∧
      normalized.map = read.map ∧ normalized.files = sortFiles locale (filesOf read.map) := by
  unfold normalizeProject at accepted
  obtain ⟨some, accepted⟩ := ok_of_unless accepted
  obtain ⟨few, accepted⟩ := ok_of_unless accepted
  obtain ⟨read, files, accepted⟩ := ok_of_bind accepted
  obtain ⟨small, accepted⟩ := ok_of_unless accepted
  obtain ⟨logicEntry, logicPath, accepted⟩ := ok_of_bind accepted
  obtain ⟨uiEntry, uiPath, accepted⟩ := ok_of_bind accepted
  obtain ⟨logicFile, accepted⟩ := ok_of_unless accepted
  have logicThere : read.map.has logicEntry = true := by simpa using logicFile
  cases shown : truthy uiEntry with
  | none =>
      rw [shown] at accepted
      cases accepted
      refine ⟨read, some, Nat.not_lt.mp few, files, Nat.not_lt.mp small, logicPath, uiPath,
        logicThere, ?_, rfl, rfl⟩
      rw [shown]
      rintro entry ⟨⟩
  | some entry =>
      rw [shown] at accepted
      obtain ⟨uiFile, accepted⟩ := ok_of_unless accepted
      cases accepted
      refine ⟨read, some, Nat.not_lt.mp few, files, Nat.not_lt.mp small, logicPath, uiPath,
        logicThere, ?_, rfl, rfl⟩
      rw [shown]
      rintro entry ⟨⟩
      simpa using uiFile

theorem normalizeProject_normal {project : AutomationProject} {normalized : NormalizedProject}
    (accepted : normalizeProject locale project = .ok normalized) : normalized.Normal locale := by
  obtain ⟨read, some, few, files, small, logicPath, uiPath, logicFile, uiFile, map, sorted⟩ :=
    normalizeProject_ok locale accepted
  obtain ⟨kept, size⟩ := foldlM_readFile_kept FilesRead.Kept.empty files
  have counted : read.map.size = project.files.length := by simpa [OrderedMap.size] using size
  have lengths := List.length_pos_iff.mpr some
  rw [kept.total] at small
  refine ⟨map ▸ sorted, map ▸ kept.fitting, ?_, ?_, map ▸ small,
    normalizeProjectPath_idem logicPath, map ▸ logicFile, requestedUiEntry_idem uiPath,
    map ▸ uiFile⟩
  · rw [map, counted]
    omega
  · rw [map, counted]
    exact few

/-- The map that is read from files with distinct paths. -/
def mapOf (files : List AutomationProjectFile) : OrderedMap String String :=
  OrderedMap.empty.setAll (files.map fun file => (file.path, file.content))

theorem entries_mapOf {files : List AutomationProjectFile}
    (nodup : (files.map AutomationProjectFile.path).Nodup) :
    (mapOf files).entries = files.map fun file => (file.path, file.content) := by
  have keys : ((files.map fun file => (file.path, file.content)).map Prod.fst).Nodup := by
    rw [List.map_map]
    exact nodup
  have entries := OrderedMap.entries_setAll OrderedMap.empty keys fun _ _ => rfl
  rwa [OrderedMap.entries_empty, List.nil_append] at entries

theorem filesOf_mapOf {files : List AutomationProjectFile}
    (nodup : (files.map AutomationProjectFile.path).Nodup) : filesOf (mapOf files) = files := by
  rw [filesOf, entries_mapOf nodup, List.map_map]
  exact List.map_id files

theorem get_mapOf {map : OrderedMap String String} {files : List AutomationProjectFile}
    (same : files.Perm (filesOf map)) (path : String) : (mapOf files).get path = map.get path := by
  have nodup : (files.map AutomationProjectFile.path).Nodup := by
    rw [(same.map AutomationProjectFile.path).nodup_iff, paths_filesOf]
    exact map.nodup
  have pairs := same.map fun file => (file.path, file.content)
  rw [← entries_mapOf nodup, filesOf, List.map_map] at pairs
  have listed : (mapOf files).entries.Perm map.entries := pairs.trans (.of_eq (List.map_id _))
  refine Option.ext fun content => ?_
  rw [← OrderedMap.mem_entries, ← OrderedMap.mem_entries, listed.mem_iff]

theorem requestedUiEntry_some {map : OrderedMap String String} {uiEntry : Option String}
    (path : ∀ entry ∈ uiEntry, normalizeProjectPath entry = .ok entry) :
    requestedUiEntry map (some uiEntry) = .ok uiEntry := by
  cases uiEntry with
  | none => rfl
  | some entry => rw [requestedUiEntry, path entry rfl]; rfl

/-- A normalised project is accepted again, and stays as it is. -/
theorem normalizeProject_project {normalized : NormalizedProject}
    (normal : normalized.Normal locale) :
    ∃ again, normalizeProject locale normalized.project = .ok again ∧
      again.files = normalized.files ∧ again.logicEntry = normalized.logicEntry ∧
      again.uiEntry = normalized.uiEntry ∧
      ∀ path, again.map.get path = normalized.map.get path := by
  have same : normalized.files.Perm (filesOf normalized.map) := by
    rw [normal.sorted]
    exact sortFiles_perm locale _
  have length : normalized.files.length = normalized.map.size := by
    rw [same.length_eq, filesOf, List.length_map]
    rfl
  have some : normalized.files ≠ [] := fun none => normal.nonempty (by rw [← length, none]; rfl)
  have few : ¬maxProjectFiles < normalized.files.length := by
    rw [length]
    exact Nat.not_lt.mpr normal.few
  have nodup : (normalized.files.map AutomationProjectFile.path).Nodup := by
    rw [(same.map AutomationProjectFile.path).nodup_iff, paths_filesOf]
    exact normalized.map.nodup
  have read := foldlM_readFile_fitting {} (fun file member =>
    normal.fitting file (same.mem_iff.mp member)) nodup fun _ _ => rfl
  have small : ¬maxProjectBytes < 0 + bytesOf normalized.files := by
    have bytes : bytesOf normalized.files = bytesOf (filesOf normalized.map) :=
      (same.map _).sum_eq
    rw [bytes, Nat.zero_add]
    exact Nat.not_lt.mpr normal.small
  have named : truthy (Option.some normalized.logicEntry) = Option.some normalized.logicEntry :=
    truthy_eq_some.mpr ⟨rfl, (normalizeProjectPath_ok_iff.mp normal.logicPath).1.nonempty⟩
  have has (path : String) : (mapOf normalized.files).has path = normalized.map.has path := by
    rw [OrderedMap.has, get_mapOf same, OrderedMap.has]
  have sorted : sortFiles locale (filesOf (mapOf normalized.files)) = normalized.files := by
    rw [filesOf_mapOf nodup, normal.sorted, sortFiles_sortFiles]
  refine ⟨⟨mapOf normalized.files, normalized.files, normalized.logicEntry, normalized.uiEntry⟩,
    ?_, rfl, rfl, rfl, get_mapOf same⟩
  have refused : ¬(mapOf normalized.files).has normalized.logicEntry = false := by
    rw [has, normal.logicFile]
    decide
  unfold normalizeProject
  rw [NormalizedProject.project, if_neg some, if_neg few, read, ok_bind, if_neg small, named,
    Option.getD_some, normal.logicPath, ok_bind, requestedUiEntry_some normal.uiPath, ok_bind]
  change (if (mapOf normalized.files).has normalized.logicEntry = false then _ else _) = _
  rw [if_neg refused]
  cases shown : truthy normalized.uiEntry with
  | none =>
      change Except.ok (NormalizedProject.mk (mapOf normalized.files)
        (sortFiles locale (filesOf (mapOf normalized.files))) _ _) = _
      rw [sorted]
  | some entry =>
      have there : ¬(mapOf normalized.files).has entry = false := by
        rw [has, normal.uiFile entry shown]
        decide
      change (if (mapOf normalized.files).has entry = false then _ else Except.ok
        (NormalizedProject.mk (mapOf normalized.files)
          (sortFiles locale (filesOf (mapOf normalized.files))) _ _)) = _
      rw [if_neg there, sorted]

/-! ## Confinement -/

section Confinement

variable {files : OrderedMap String String} {mode : BundleMode} {entry : String}
  {imports : Module → String → String → Prop}

/-- What an import in a module of the namespace resolves to, whatever its specifier is. -/
theorem resolveImport_cases (files : OrderedMap String String) (mode : BundleMode)
    (importer spec : String) :
    (∃ path, resolveImport files mode importer spec = .project path ∧ files.has path = true) ∨
      (mode = .ui ∧ spec ∈ uiExternals ∧
        resolveImport files mode importer spec = .external spec) ∨
      ∃ text, resolveImport files mode importer spec = .errors text := by
  unfold resolveImport
  by_cases external : mode = .ui ∧ spec ∈ uiExternals
  · rw [if_pos external]
    exact .inr (.inl ⟨external.1, external.2, rfl⟩)
  rw [if_neg external]
  by_cases bare : (!".".toList.isPrefixOf spec.toList) = true
  · rw [if_pos bare]
    exact .inr (.inr ⟨_, rfl⟩)
  rw [if_neg bare]
  dsimp only
  generalize PosixPath.normalize (PosixPath.join _ spec) = requested
  by_cases climbing : climbs requested = true
  · rw [if_pos climbing]
    exact .inr (.inr ⟨_, rfl⟩)
  rw [if_neg climbing]
  cases there : (candidates requested).find? files.has with
  | none => exact .inr (.inr ⟨_, rfl⟩)
  | some found => exact .inl ⟨found, rfl, List.find?_some there⟩

/-- The entry, a file of the project, or an external that its interface may use. -/
def InProject (files : OrderedMap String String) (mode : BundleMode) (loaded : Module) : Prop :=
  loaded = .project aeolusEntry ∨ (∃ path, loaded = .project path ∧ files.has path = true) ∨
    mode = .ui ∧ ∃ spec ∈ uiExternals, loaded = .external spec

/-- An import of a confined module that has a text leads to a confined module. -/
theorem leadsTo_confined {importer target : Module} {contents spec : String}
    (confined : InProject files mode importer)
    (holds : HasContents files mode entry importer contents)
    (leads : LeadsTo (onResolve files mode (some importer) spec) target) :
    InProject files mode target := by
  have inside : ∃ path, importer = .project path := by
    obtain rfl | ⟨path, rfl, -⟩ | ⟨-, spec, -, rfl⟩ := confined
    · exact ⟨_, rfl⟩
    · exact ⟨_, rfl⟩
    · exact holds.elim
  obtain ⟨path, rfl⟩ := inside
  unfold onResolve at leads
  split at leads
  · exact .inl leads
  · dsimp only at leads
    obtain ⟨found, resolved, there⟩ | ⟨ui, listed, resolved⟩ | ⟨text, resolved⟩ :=
      resolveImport_cases files mode path spec
    · rw [resolved] at leads
      exact .inr (.inl ⟨found, leads, there⟩)
    · rw [resolved] at leads
      exact .inr (.inr ⟨ui, spec, listed, leads⟩)
    · rw [resolved] at leads
      exact leads.elim

theorem loaded_confined {loaded : Module} (run : Loaded files mode entry imports loaded) :
    InProject files mode loaded := by
  induction run with
  | entryPoint leads =>
      unfold onResolve at leads
      rw [if_pos rfl] at leads
      exact .inl leads
  | imported _ holds _ leads ih => exact leadsTo_confined ih holds leads

/-- The text of a file that is loaded is the one in the map. -/
theorem onLoad_file (mode : BundleMode) (entry : String) {path content : String}
    (ne : path ≠ aeolusEntry) (found : files.get path = some content) :
    ∃ result, onLoad files mode entry path = .ok result ∧ result.contents = content := by
  rw [onLoad, if_neg ne, found]
  exact ⟨_, rfl, rfl⟩

end Confinement

variable {locale}

theorem NormalizedProject.Normal.fitting_has {normalized : NormalizedProject}
    (normal : normalized.Normal locale) {path : String} (there : normalized.map.has path = true) :
    ∃ content, normalized.map.get path = some content ∧ Fitting ⟨path, content⟩ := by
  obtain ⟨content, found⟩ := OrderedMap.has_iff.mp there
  refine ⟨content, found, normal.fitting _ ?_⟩
  exact List.mem_map.mpr ⟨(path, content), OrderedMap.mem_entries.mpr found, rfl⟩

/-- No file of the project has the name of the synthetic entry. -/
theorem NormalizedProject.Normal.ne_aeolusEntry {normalized : NormalizedProject}
    (normal : normalized.Normal locale) {path : String} (there : normalized.map.has path = true) :
    path ≠ aeolusEntry := by
  rintro rfl
  obtain ⟨content, -, fitting⟩ := normal.fitting_has there
  have accepted := fitting.path
  rw [aeolusEntry_refused] at accepted
  cases accepted

/-- The paths of the normalised files, each once. -/
theorem NormalizedProject.Normal.nodup {normalized : NormalizedProject}
    (normal : normalized.Normal locale) :
    (normalized.files.map AutomationProjectFile.path).Nodup := by
  rw [normal.sorted, ((sortFiles_perm locale _).map AutomationProjectFile.path).nodup_iff,
    paths_filesOf]
  exact normalized.map.nodup

theorem NormalizedProject.Normal.mem_paths {normalized : NormalizedProject}
    (normal : normalized.Normal locale) (path : String) :
    path ∈ normalized.files.map AutomationProjectFile.path ↔ normalized.map.has path = true := by
  rw [normal.sorted, ((sortFiles_perm locale _).map AutomationProjectFile.path).mem_iff,
    paths_filesOf, OrderedMap.has_iff_mem_keys]

/-- An accepted project is its files under their normal paths.  It is accepted again as it is, it
is read back as it was saved, with nothing left of an earlier one and no change to another
rule, and the bundler loads from it the entry, its files and the allowed externals only. -/
theorem project_round_trip_confined {project : AutomationProject} {normalized : NormalizedProject}
    (accepted : normalizeProject locale project = .ok normalized) :
    normalized.files.Perm
      (project.files.map fun file => ⟨PosixPath.normalize file.path, file.content⟩) ∧
    (∃ again, normalizeProject locale normalized.project = .ok again ∧
      again.files = normalized.files ∧ again.logicEntry = normalized.logicEntry ∧
      again.uiEntry = normalized.uiEntry ∧
      ∀ path, again.map.get path = normalized.map.get path) ∧
    (∀ (automationId compiledJs : String) (compiledUi : Option String) (now : Nat)
        (db : Database), db.automationRules.has automationId = true →
      ∃ db', saveAutomationProject automationId (normalized.compiled compiledJs compiledUi) now db =
          (.ok (), db') ∧
        (∃ stored, readAutomationProject db' automationId = some stored ∧
          stored.files.Perm normalized.files ∧ stored.logicEntry = normalized.logicEntry ∧
          stored.uiEntry = normalized.uiEntry ∧ stored.legacyProjection = false) ∧
        (∀ path, db'.automationProjectFiles.has (automationId, path) = true ↔
          normalized.map.has path = true) ∧
        ∀ other, other ≠ automationId →
          readAutomationProject db' other = readAutomationProject db other) ∧
    ∀ (mode : BundleMode) (entry : String) (imports : Module → String → String → Prop)
        (loaded : Module), Loaded normalized.map mode entry imports loaded →
      loaded = .project aeolusEntry ∨
        (∃ path content result, loaded = .project path ∧
          normalized.map.get path = some content ∧
          onLoad normalized.map mode entry path = .ok result ∧ result.contents = content) ∨
        mode = .ui ∧ ∃ spec ∈ uiExternals, loaded = .external spec := by
  have normal := normalizeProject_normal locale accepted
  refine ⟨?_, normalizeProject_project locale normal, ?_, ?_⟩
  · obtain ⟨read, -, -, files, -, -, -, -, -, -, sorted⟩ := normalizeProject_ok locale accepted
    have listed := filesOf_foldlM_readFile files
    rw [show filesOf ({} : FilesRead).map = [] from rfl, List.nil_append] at listed
    rw [sorted, listed]
    exact sortFiles_perm locale _
  · intro automationId compiledJs compiledUi now db rule
    have nodup : ((normalized.compiled compiledJs compiledUi).files.map
        AutomationProjectFile.path).Nodup := normal.nodup
    obtain ⟨db', returned, saved⟩ := saveAutomationProject_ok now rule nodup
    refine ⟨db', returned, saved.read_self rule, fun path => ?_, fun other ne =>
      saved.read_other ne⟩
    rw [saved.has_file_iff]
    exact normal.mem_paths path
  · intro mode entry imports loaded run
    obtain same | ⟨path, same, there⟩ | ⟨ui, external⟩ := loaded_confined run
    · exact .inl same
    · obtain ⟨content, found, -⟩ := normal.fitting_has there
      obtain ⟨result, read, contents⟩ :=
        onLoad_file mode entry (normal.ne_aeolusEntry there) found
      exact .inr (.inl ⟨path, content, result, same, found, read, contents⟩)
    · exact .inr (.inr ⟨ui, external⟩)

/-- By the order of the characters. -/
def byCharacters : Collation where
  le a b := a ≤ b
  total a b := by simpa using String.le_total a b
  trans a b c first next := by
    simp only [decide_eq_true_eq] at first next ⊢
    exact String.le_trans first next

/-- A project that leaves its directory and comes back. -/
def porchProject : AutomationProject where
  files := [⟨"ui/./index.tsx", "export default () => null"⟩,
    ⟨"logic/../logic/index.ts", "export default () => 0"⟩]
  logicEntry := none
  uiEntry := none

theorem project_round_trip_confined_porch : ∃ normalized,
    normalizeProject byCharacters porchProject = .ok normalized ∧
      ∀ imports loaded, Loaded normalized.map .logic normalized.logicEntry imports loaded →
        ∃ path, loaded = .project path := by
  have accepted : (normalizeProject byCharacters porchProject).isOk = true := by decide +kernel
  obtain ⟨normalized, shape⟩ : ∃ normalized, normalizeProject byCharacters porchProject =
      .ok normalized := by
    cases outcome : normalizeProject byCharacters porchProject with
    | ok normalized => exact ⟨normalized, rfl⟩
    | error details =>
        rw [outcome] at accepted
        cases accepted
  refine ⟨normalized, shape, fun imports loaded run => ?_⟩
  obtain same | ⟨path, -, -, same, -⟩ | ⟨ui, -⟩ :=
    (project_round_trip_confined shape).2.2.2 .logic normalized.logicEntry imports loaded run
  · exact ⟨_, same⟩
  · exact ⟨path, same⟩
  · cases ui

end Aeolus.Automations
