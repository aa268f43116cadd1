import Mathlib.Data.List.Sort
import Mathlib.Data.Prod.Lex
import Mathlib.Data.String.Basic
import Velum.Foundation.FilePath
import Velum.Foundation.OrderedMap
import Velum.Foundation.Search

/-!
# The architecture contract

A contract assigns the packages and files of a workspace to modules and says
which modules may depend on which.  The check walks the workspace, finds the
owner of every governed package and file, and reports each violation.
-/

namespace Velum.Xtask

open Foundation

structure Module where
  paths : List String
  owner : Text
  mayDependOn : List String
  publicApi : List String

structure Governance where
  governedPaths : List String
  excludedPaths : List String

/-- The fields are the ones that the file calls `from` and `to`. -/
structure ForbiddenDependency where
  source : String
  targets : List String

structure Contract where
  version : UInt32
  governance : Governance
  modules : OrderedMap String Module
  forbiddenDependencies : List ForbiddenDependency
  gates : OrderedMap String UInt64

namespace Contract

/-- The name of a module that the contract declares. -/
abbrev ModuleName (contract : Contract) :=
  { name : String // contract.modules.contains name = true }

variable (contract : Contract)

def module (name : contract.ModuleName) : Module :=
  (contract.modules.get? name.val).get name.property

def moduleNames : List contract.ModuleName :=
  contract.modules.entries.attach.map fun entry =>
    ⟨entry.val.1, by
      have stored := OrderedMap.get?_eq_some_iff.mpr
        (show (entry.val.1, entry.val.2) ∈ _ from entry.property)
      rw [OrderedMap.contains, stored, Option.isSome_some]⟩

end Contract

def supportedGates : List String :=
  ["dependency_cycles", "forbidden_dependencies", "unowned_modules",
    "unowned_governed_files"]

inductive Violation where
  | unsupportedVersion (version : UInt32)
  | noGovernedPaths
  | noOwner (name : String)
  | noPaths (name : String)
  | unknownDependency (name dependency : String)
  | unknownSource (source : String)
  | unknownTarget (source target : String)
  | unsupportedGate (gate : String)
  | nonzeroGate (gate : String)
  | unownedPackage (package root : String)
  | sharedPackage (package root : String) (modules : List String)
  | unownedFile (path : String)
  | sharedFile (path : String) (modules : List String)
  | missingApi (name api : String)
  | notAllowed (source target : String)
  | forbidden (source target : String)
  | cycle (name : String)
  deriving DecidableEq

def Violation.message : Violation → String
  | unsupportedVersion version =>
      "unsupported contract version " ++ toString version
  | noGovernedPaths => "governance.governed_paths must not be empty"
  | noOwner name => "module " ++ name ++ " has no owner"
  | noPaths name => "module " ++ name ++ " has no paths"
  | unknownDependency name dependency =>
      "module " ++ name ++ " allows unknown dependency " ++ dependency
  | unknownSource source =>
      "forbidden_dependencies references unknown source " ++ source
  | unknownTarget source target =>
      "forbidden_dependencies from " ++ source ++
        " references unknown target " ++ target
  | unsupportedGate gate => "architecture gate " ++ gate ++ " is unsupported"
  | nonzeroGate gate =>
      "structural gate " ++ gate ++ " must have a zero threshold"
  | unownedPackage package root =>
      "runtime package " ++ package ++ " at " ++ root ++
        " is not owned by a module"
  | sharedPackage package root modules =>
      "runtime package " ++ package ++ " at " ++ root ++
        " matches multiple modules: " ++ ", ".intercalate modules
  | unownedFile path =>
      "governed file " ++ path ++ " is not owned by a module"
  | sharedFile path modules =>
      "governed file " ++ path ++ " matches multiple modules: " ++
        ", ".intercalate modules
  | missingApi name api =>
      "active module " ++ name ++ " is missing public API " ++ api
  | notAllowed source target =>
      "dependency " ++ source ++ " -> " ++ target ++ " is not allowed"
  | forbidden source target =>
      "dependency " ++ source ++ " -> " ++ target ++
        " is explicitly forbidden"
  | cycle name => "dependency cycle includes module " ++ name

inductive ArchitectureError where
  | invalidGlob (pattern location error : String)
  | cannotCompile (location error : String)
  | noManifestParent (package : String)
  | outsideWorkspace (path root : String)
  | cannotRead (directory error : String)
  | cannotReadEntry (error : String)
  | contractFailed (violations : List Violation)
  deriving DecidableEq

/-! ## Path patterns -/

/-- The pattern library: why a pattern is invalid, and the test of several. -/
structure GlobLibrary where
  refusal : String → Option String
  build : List String → Except String (String → Bool)

def compileGlobs (globs : GlobLibrary) (patterns : List String)
    (location : String) : Except ArchitectureError (String → Bool) :=
  match patterns.findSome? fun pattern =>
      (globs.refusal pattern).map (ArchitectureError.invalidGlob pattern
        location) with
  | some error => .error error
  | none => (globs.build patterns).mapError (.cannotCompile location)

structure CompiledContract (contract : Contract) where
  governed : String → Bool
  excluded : String → Bool
  modulePaths : List (contract.ModuleName × (String → Bool))

def compile (globs : GlobLibrary) (contract : Contract) :
    Except ArchitectureError (CompiledContract contract) := do
  let governed ← compileGlobs globs contract.governance.governedPaths
    "governed_paths"
  let excluded ← compileGlobs globs contract.governance.excludedPaths
    "excluded_paths"
  let modulePaths ← contract.moduleNames.mapM fun name => do
    let paths ← compileGlobs globs (contract.module name).paths name.val
    pure (name, paths)
  pure { governed, excluded, modulePaths }

namespace CompiledContract

variable {contract : Contract} (compiled : CompiledContract contract)

def matchingModules (path : String) : List contract.ModuleName :=
  (compiled.modulePaths.filter fun entry => entry.2 path).map Prod.fst

/-- The paths that the check looks at. -/
def governs (path : String) : Bool :=
  compiled.governed path && !compiled.excluded path

end CompiledContract

/-! ## The contract itself -/

def validateModule (contract : Contract) (name : String) (module : Module) :
    List Violation :=
  (if Text.trim module.owner = [] then [.noOwner name] else []) ++
  (if module.paths = [] then [.noPaths name] else []) ++
  (module.mayDependOn.filter fun dependency =>
    !contract.modules.contains dependency).map (.unknownDependency name)

def validateForbidden (contract : Contract) (rule : ForbiddenDependency) :
    List Violation :=
  (if contract.modules.contains rule.source then []
    else [.unknownSource rule.source]) ++
  (rule.targets.filter fun target => !contract.modules.contains target).map
    (.unknownTarget rule.source)

def validateGate (gate : String) (threshold : UInt64) : List Violation :=
  if gate ∉ supportedGates then [.unsupportedGate gate]
  else if threshold ≠ 0 then [.nonzeroGate gate]
  else []

def validateContract (contract : Contract) : List Violation :=
  (if contract.version ≠ 1 then [.unsupportedVersion contract.version]
    else []) ++
  (if contract.governance.governedPaths = [] then [.noGovernedPaths]
    else []) ++
  (contract.modules.entries.flatMap fun entry =>
    validateModule contract entry.1 entry.2) ++
  contract.forbiddenDependencies.flatMap (validateForbidden contract) ++
  contract.gates.entries.flatMap fun entry => validateGate entry.1 entry.2

/-! ## The workspace -/

structure Dependency where
  name : String
  path : Option String

structure Package where
  name : String
  manifestPath : FilePath
  dependencies : List Dependency

def relativePath (root path : FilePath) : Except ArchitectureError String :=
  if root.components.isPrefixOf path.components then
    .ok (String.ofList ((['/'].intercalate
      (path.components.drop root.components.length)).map fun character =>
        if character = '\\' then '/' else character))
  else .error (.outsideWorkspace path.display root.display)

def packageRoot (root : FilePath) (package : Package) :
    Except ArchitectureError String :=
  match package.manifestPath.parent with
  | none => .error (.noManifestParent package.name)
  | some directory => relativePath root directory

mutual

/-- What is at a path, links followed. -/
inductive Tree where
  | file
  | directory (entries : Entries)
  | unreadable (error : String)
  | other

/-- The entries of a directory in the order of their reading. -/
inductive Entries where
  | nil
  | entry (name : Text) (tree : Tree) (rest : Entries)
  | failed (error : String) (rest : Entries)

end

/-- A directory as reading it answers. -/
abbrev Directory := Except String Entries

def isSkipped (root path : FilePath) : Bool :=
  path = root.join ".git".toList || path = root.join "target".toList

/-- One pass of the loop over the entries of a directory: more directories are
pending and more files are found. -/
def readEntries (root directory : FilePath) :
    Entries → List (FilePath × Directory) → List FilePath →
    Except ArchitectureError (List (FilePath × Directory) × List FilePath)
  | .nil, pending, files => .ok (pending, files)
  | .failed error _, _, _ => .error (.cannotReadEntry error)
  | .entry name tree rest, pending, files =>
      let path := directory.join name
      if isSkipped root path then
        readEntries root directory rest pending files
      else
        match tree with
        | .directory entries =>
            readEntries root directory rest ((path, .ok entries) :: pending)
              files
        | .unreadable error =>
            readEntries root directory rest ((path, .error error) :: pending)
              files
        | .file => readEntries root directory rest pending (files ++ [path])
        | .other => readEntries root directory rest pending files

mutual

def Tree.size : Tree → Nat
  | .directory entries => entries.size + 1
  | .unreadable _ => 1
  | _ => 0

def Entries.size : Entries → Nat
  | .nil => 0
  | .entry _ tree rest => tree.size + rest.size
  | .failed _ rest => rest.size

end

def Directory.size : Directory → Nat
  | .ok entries => entries.size + 1
  | .error _ => 1

def pendingSize (pending : List (FilePath × Directory)) : Nat :=
  (pending.map fun item => Directory.size item.2).sum

theorem pendingSize_cons (item : FilePath × Directory)
    (pending : List (FilePath × Directory)) :
    pendingSize (item :: pending) =
      Directory.size item.2 + pendingSize pending := by
  rw [pendingSize, List.map_cons, List.sum_cons, pendingSize]

theorem readEntries_size {root directory : FilePath} {entries : Entries}
    {pending later : List (FilePath × Directory)}
    {files found : List FilePath}
    (read : readEntries root directory entries pending files =
      .ok (later, found)) :
    pendingSize later ≤ entries.size + pendingSize pending := by
  fun_induction readEntries root directory entries pending files with
  | case1 pending files =>
      cases read
      omega
  | case2 => cases read
  | case3 name tree rest pending files path skipped induction =>
      have within := induction read
      rw [Entries.size]
      omega
  | case4 name rest pending files path skipped entries induction =>
      have within := induction read
      rw [pendingSize_cons, Directory.size] at within
      rw [Entries.size, Tree.size]
      omega
  | case5 name rest pending files path skipped error induction =>
      have within := induction read
      rw [pendingSize_cons, Directory.size] at within
      rw [Entries.size, Tree.size]
      omega
  | case6 name rest pending files path skipped induction =>
      have within := induction read
      rw [Entries.size]
      omega
  | case7 name rest pending files path skipped induction =>
      have within := induction read
      rw [Entries.size]
      omega

/-- Takes the directory that was found last. -/
def walkPending (root : FilePath) (pending : List (FilePath × Directory))
    (files : List FilePath) : Except ArchitectureError (List FilePath) :=
  match pending with
  | [] => .ok files
  | (directory, .error error) :: _ =>
      .error (.cannotRead directory.display error)
  | (directory, .ok entries) :: rest =>
      match read : readEntries root directory entries rest files with
      | .error error => .error error
      | .ok (later, found) => walkPending root later found
termination_by pendingSize pending
decreasing_by
  have smaller := readEntries_size read
  rw [pendingSize_cons, Directory.size]
  omega

def walkFiles (root : FilePath) (workspace : Directory) :
    Except ArchitectureError (List FilePath) :=
  walkPending root [(root, workspace)] []

/-! ## Owners -/

/-- The violations of a path that one module has to own. -/
def ownerViolations {contract : Contract} (unowned : Violation)
    (shared : List String → Violation) :
    List contract.ModuleName → List Violation
  | [] => [unowned]
  | [_] => []
  | modules => [shared (modules.map Subtype.val)]

def validateFile {contract : Contract} (root : FilePath)
    (compiled : CompiledContract contract) (file : FilePath) :
    Except ArchitectureError (List Violation) := do
  let relative ← relativePath root file
  if compiled.governs relative then
    pure (ownerViolations (.unownedFile relative) (.sharedFile relative)
      (compiled.matchingModules relative))
  else pure []

def validateGovernedFiles {contract : Contract} (root : FilePath)
    (workspace : Directory) (compiled : CompiledContract contract) :
    Except ArchitectureError (List Violation) := do
  let files ← walkFiles root workspace
  let violations ← files.mapM (validateFile root compiled)
  pure violations.flatten

section Packages

variable {contract : Contract}

abbrev ModuleEdge (contract : Contract) :=
  contract.ModuleName × contract.ModuleName

/-- The distinct items in ascending order. -/
def ascending {Item : Type} [LinearOrder Item] (items : List Item) :
    List Item :=
  items.dedup.insertionSort (· ≤ ·)

/-- What the packages amount to: the violations of their ownership, the owner
of each, and the modules that own one. -/
structure Ownership (contract : Contract) where
  violations : List Violation
  packageModules : OrderedMap String contract.ModuleName
  activeModules : List contract.ModuleName

def assignPackage (root : FilePath) (compiled : CompiledContract contract)
    (ownership : Ownership contract) (package : Package) :
    Except ArchitectureError (Ownership contract) := do
  let rootPath ← packageRoot root package
  if compiled.governs rootPath then
    match compiled.matchingModules (rootPath ++ "/Cargo.toml") with
    | [name] =>
        pure { ownership with
          packageModules := ownership.packageModules.insert package.name name
          activeModules := ownership.activeModules ++ [name] }
    | modules =>
        pure { ownership with
          violations := ownership.violations ++
            ownerViolations (.unownedPackage package.name rootPath)
              (.sharedPackage package.name rootPath) modules }
  else pure ownership

def dependencyEdges (packages : List Package)
    (packageModules : OrderedMap String contract.ModuleName) :
    List (ModuleEdge contract) :=
  let edges := packages.flatMap fun package =>
    match packageModules.get? package.name with
    | none => []
    | some source =>
        package.dependencies.filterMap fun dependency =>
          if dependency.path.isSome then
            (packageModules.get? dependency.name).filter (source ≠ ·)
              |>.map (source, ·)
          else none
  (ascending (edges.map toLex)).map ofLex

def validateEdge (edge : ModuleEdge contract) : List Violation :=
  (if edge.2.val ∈ (contract.module edge.1).mayDependOn then []
    else [.notAllowed edge.1.val edge.2.val]) ++
  if contract.forbiddenDependencies.any fun rule =>
      rule.source = edge.1.val && rule.targets.any (· = edge.2.val) then
    [.forbidden edge.1.val edge.2.val]
  else []

/-- Whether the target is found, and the modules visited so far. -/
def reaches (edges : List (ModuleEdge contract))
    (target : contract.ModuleName) :
    Nat → contract.ModuleName → List contract.ModuleName → Bool →
    Option (Bool × List contract.ModuleName)
  | 0, _, _, _ => none
  | fuel + 1, current, visited, first =>
      if !first && current = target then some (true, visited)
      else if current ∈ visited then some (false, visited)
      else
        Search.anyFrom (fun next visited => reaches edges target fuel next
            visited false)
          ((edges.filter fun edge => edge.1 = current).map Prod.snd)
          (current :: visited)

/-- Enough for a search from any node of the edges. -/
def searchFuel (edges : List (ModuleEdge contract)) : Nat :=
  2 * edges.length + 2

def validateCycles (edges : List (ModuleEdge contract)) : List Violation :=
  let nodes := ascending (edges.flatMap fun edge => [edge.1, edge.2])
  nodes.flatMap fun start =>
    match reaches edges start (searchFuel edges) start [] true with
    | some (true, _) => [.cycle start.val]
    | _ => []

def validatePublicApis (isFile : String → Bool)
    (activeModules : List contract.ModuleName) : List Violation :=
  activeModules.flatMap fun name =>
    ((contract.module name).publicApi.filter fun api => !isFile api).map
      (.missingApi name.val)

end Packages

/-- The active modules of a workspace that passes. -/
def evaluate (globs : GlobLibrary) (contract : Contract) (root : FilePath)
    (workspace : Directory) (isFile : String → Bool)
    (packages : List Package) :
    Except ArchitectureError (List contract.ModuleName) := do
  let compiled ← compile globs contract
  let ownership ← packages.foldlM (assignPackage root compiled)
    ⟨validateContract contract, .empty, []⟩
  let activeModules := ascending ownership.activeModules
  let fileViolations ← validateGovernedFiles root workspace compiled
  let edges := dependencyEdges packages ownership.packageModules
  let violations := ownership.violations ++ fileViolations ++
    validatePublicApis isFile activeModules ++ edges.flatMap validateEdge ++
    validateCycles edges
  if violations = [] then pure activeModules
  else throw (.contractFailed violations)

end Velum.Xtask
