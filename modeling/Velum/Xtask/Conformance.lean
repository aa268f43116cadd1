import Velum.Foundation.Checked
import Velum.Xtask.Architecture

/-!
# What the architecture check accepts

The walk over the workspace finds every file outside of the skipped
directories, the search for cycles finds every cycle of the module graph, and
so the check accepts exactly the workspaces that conform to their contract.
-/

namespace Velum.Xtask

open Foundation

/-! ## Files of the workspace -/

mutual

/-- The files at a path, without those that the walk skips. -/
def Tree.files (root path : FilePath) : Tree → List FilePath
  | .file => [path]
  | .directory entries => entries.files root path
  | _ => []

def Entries.files (root directory : FilePath) : Entries → List FilePath
  | .nil => []
  | .failed _ rest => rest.files root directory
  | .entry name tree rest =>
      (if isSkipped root (directory.join name) then []
        else tree.files root (directory.join name)) ++
      rest.files root directory

end

mutual

/-- Every directory that the walk enters can be read. -/
def Tree.Readable (root path : FilePath) : Tree → Prop
  | .directory entries => entries.Readable root path
  | .unreadable _ => False
  | _ => True

def Entries.Readable (root directory : FilePath) : Entries → Prop
  | .nil => True
  | .failed _ _ => False
  | .entry name tree rest =>
      (isSkipped root (directory.join name) = false →
        tree.Readable root (directory.join name)) ∧
      rest.Readable root directory

end

def Directory.files (root path : FilePath) : Directory → List FilePath
  | .ok entries => entries.files root path
  | .error _ => []

def Directory.Readable (root path : FilePath) : Directory → Prop
  | .ok entries => entries.Readable root path
  | .error _ => False

section Walk

variable {root : FilePath}

/-- Found already, or in a directory that is still pending. -/
def Within (root : FilePath) (pending : List (FilePath × Directory))
    (files : List FilePath) (path : FilePath) : Prop :=
  path ∈ files ∨ ∃ item ∈ pending, path ∈ Directory.files root item.1 item.2

def AllReadable (root : FilePath) (pending : List (FilePath × Directory)) :
    Prop :=
  ∀ item ∈ pending, Directory.Readable root item.1 item.2

theorem allReadable_cons {item : FilePath × Directory}
    {pending : List (FilePath × Directory)} :
    AllReadable root (item :: pending) ↔
      Directory.Readable root item.1 item.2 ∧ AllReadable root pending :=
  List.forall_mem_cons

theorem within_cons {item : FilePath × Directory}
    {pending : List (FilePath × Directory)} {files : List FilePath}
    {path : FilePath} :
    Within root (item :: pending) files path ↔
      path ∈ Directory.files root item.1 item.2 ∨
        Within root pending files path := by
  simp only [Within, List.exists_mem_cons_iff]
  exact or_left_comm

/-- A pass over a directory moves its entries to the two lists. -/
theorem readEntries_ok {directory : FilePath} {entries : Entries}
    {pending later : List (FilePath × Directory)}
    {files found : List FilePath}
    (read : readEntries root directory entries pending files =
      .ok (later, found)) :
    (AllReadable root later ↔
      entries.Readable root directory ∧ AllReadable root pending) ∧
    ∀ path, Within root later found path ↔
      path ∈ entries.files root directory ∨
        Within root pending files path := by
  fun_induction readEntries root directory entries pending files with
  | case1 pending files =>
      cases read
      simp [Entries.Readable, Entries.files]
  | case2 => cases read
  | case3 name tree rest pending files path skipped induction =>
      obtain ⟨readable, within⟩ := induction read
      simp only [path] at skipped
      simp [Entries.Readable, Entries.files, skipped, readable, within]
  | case4 name rest pending files path unskipped entries induction =>
      obtain ⟨readable, within⟩ := induction read
      simp only [path, Bool.not_eq_true] at unskipped
      constructor
      · rw [readable, allReadable_cons]
        simp only [Entries.Readable, Tree.Readable, Directory.Readable,
          unskipped, path]
        tauto
      · intro other
        rw [within, within_cons]
        simp only [Entries.files, Tree.files, Directory.files, unskipped,
          path, Bool.false_eq_true, if_false, List.mem_append]
        tauto
  | case5 name rest pending files path unskipped error induction =>
      obtain ⟨readable, within⟩ := induction read
      simp only [path, Bool.not_eq_true] at unskipped
      constructor
      · rw [readable, allReadable_cons]
        simp only [Entries.Readable, Tree.Readable, Directory.Readable,
          unskipped]
        tauto
      · intro other
        rw [within, within_cons]
        simp only [Entries.files, Tree.files, Directory.files, unskipped,
          Bool.false_eq_true, if_false, List.mem_append]
        tauto
  | case6 name rest pending files path unskipped induction =>
      obtain ⟨readable, within⟩ := induction read
      simp only [path, Bool.not_eq_true] at unskipped
      constructor
      · simp only [readable, Entries.Readable, Tree.Readable]
        tauto
      · intro other
        rw [within]
        simp only [Within, Entries.files, Tree.files, unskipped, path,
          Bool.false_eq_true, if_false, List.mem_append, List.mem_singleton]
        tauto
  | case7 name rest pending files path unskipped induction =>
      obtain ⟨readable, within⟩ := induction read
      simp only [path, Bool.not_eq_true] at unskipped
      constructor
      · simp only [readable, Entries.Readable, Tree.Readable]
        tauto
      · intro other
        rw [within]
        simp only [Entries.files, Tree.files, unskipped, Bool.false_eq_true,
          if_false, List.nil_append]

theorem readEntries_error {directory : FilePath} {entries : Entries}
    {pending : List (FilePath × Directory)} {files : List FilePath}
    {error : ArchitectureError}
    (read : readEntries root directory entries pending files =
      .error error) : ¬entries.Readable root directory := by
  fun_induction readEntries root directory entries pending files with
  | case1 => cases read
  | case2 => exact id
  | case3 name tree rest pending files path skipped induction =>
      exact fun readable => induction read readable.2
  | case4 name rest pending files path unskipped entries induction =>
      exact fun readable => induction read readable.2
  | case5 name rest pending files path unskipped error induction =>
      exact fun readable => induction read readable.2
  | case6 name rest pending files path unskipped induction =>
      exact fun readable => induction read readable.2
  | case7 name rest pending files path unskipped induction =>
      exact fun readable => induction read readable.2

theorem walkPending_ok {pending : List (FilePath × Directory)}
    {files found : List FilePath}
    (walked : walkPending root pending files = .ok found) :
    AllReadable root pending ∧
      ∀ path, path ∈ found ↔ Within root pending files path := by
  fun_induction walkPending root pending files with
  | case1 files =>
      cases walked
      exact ⟨nofun, by simp [Within]⟩
  | case2 => cases walked
  | case3 files directory entries rest error read => cases walked
  | case4 files directory entries rest later found read induction =>
      obtain ⟨allReadable, all⟩ := induction walked
      obtain ⟨readable, within⟩ := readEntries_ok read
      refine ⟨allReadable_cons.mpr (readable.mp allReadable), ?_⟩
      intro path
      rw [all, within, within_cons]
      rfl

theorem exists_walkPending {pending : List (FilePath × Directory)}
    {files : List FilePath} (allReadable : AllReadable root pending) :
    ∃ found, walkPending root pending files = .ok found := by
  fun_induction walkPending root pending files with
  | case1 files => exact ⟨files, rfl⟩
  | case2 files directory error rest =>
      exact (allReadable_cons.mp allReadable).1.elim
  | case3 files directory entries rest error read =>
      have readable := (allReadable_cons.mp allReadable).1
      exact absurd readable (readEntries_error read)
  | case4 files directory entries rest later found read induction =>
      apply induction
      exact (readEntries_ok read).1.mpr (allReadable_cons.mp allReadable)

/-- The walk succeeds on a readable workspace, and it finds its files. -/
theorem walkFiles_ok_iff {workspace : Directory} {found : List FilePath}
    (walked : walkFiles root workspace = .ok found) :
    workspace.Readable root root ∧
      ∀ path, path ∈ found ↔ path ∈ workspace.files root root := by
  obtain ⟨readable, within⟩ := walkPending_ok walked
  refine ⟨readable _ List.mem_cons_self, ?_⟩
  intro path
  rw [within, within_cons]
  simp [Within]

theorem exists_walkFiles {workspace : Directory}
    (readable : workspace.Readable root root) :
    ∃ found, walkFiles root workspace = .ok found := by
  apply exists_walkPending
  apply allReadable_cons.mpr
  exact ⟨readable, nofun⟩

mutual

theorem Tree.prefix_of_mem_files {path file : FilePath} :
    ∀ {tree : Tree}, file ∈ tree.files root path →
      path.components <+: file.components
  | .file, member => by
      rw [Tree.files, List.mem_singleton] at member
      rw [member]
  | .directory entries, member => by
      rw [Tree.files] at member
      exact Entries.prefix_of_mem_files member
  | .unreadable _, member => nomatch member
  | .other, member => nomatch member

theorem Entries.prefix_of_mem_files {directory file : FilePath} :
    ∀ {entries : Entries}, file ∈ entries.files root directory →
      directory.components <+: file.components
  | .nil, member => by
      rw [Entries.files] at member
      cases member
  | .failed _ rest, member => by
      rw [Entries.files] at member
      exact Entries.prefix_of_mem_files member
  | .entry name tree rest, member => by
      rw [Entries.files, List.mem_append] at member
      rcases member with inTree | inRest
      · split at inTree
        · cases inTree
        · have deeper := Tree.prefix_of_mem_files inTree
          exact (List.prefix_append _ _).trans deeper
      · exact Entries.prefix_of_mem_files inRest

end

end Walk

/-! ## Cycles -/

section Graph

variable {contract : Contract} {edges : List (ModuleEdge contract)}

/-- The modules that a module has an edge to. -/
def successors (edges : List (ModuleEdge contract))
    (name : contract.ModuleName) : List contract.ModuleName :=
  (edges.filter fun edge => edge.1 = name).map Prod.snd

theorem mem_successors_iff {name next : contract.ModuleName} :
    next ∈ successors edges name ↔ (name, next) ∈ edges := by
  simp [successors]

theorem reaches_eq_visit (edges : List (ModuleEdge contract))
    (target : contract.ModuleName) (fuel : Nat)
    (current : contract.ModuleName) (visited : List contract.ModuleName) :
    reaches edges target fuel current visited false =
      Search.visit (successors edges) target fuel current visited := by
  induction fuel generalizing current visited with
  | zero => rfl
  | succ fuel induction =>
      have same : (fun next visited =>
            reaches edges target fuel next visited false) =
          Search.visit (successors edges) target fuel :=
        funext fun next => funext fun seen => induction next seen
      rw [reaches, Search.visit, same]
      by_cases isTarget : current = target
      · simp [isTarget]
      by_cases entered : current ∈ visited
      · simp [isTarget, entered]
      · simp [isTarget, entered, successors]

theorem reaches_first (edges : List (ModuleEdge contract))
    (target : contract.ModuleName) (fuel : Nat)
    (current : contract.ModuleName) :
    reaches edges target (fuel + 1) current [] true =
      Search.reachesFrom (successors edges) target fuel current := by
  have same : (fun next visited =>
        reaches edges target fuel next visited false) =
      Search.visit (successors edges) target fuel :=
    funext fun next => funext fun seen =>
      reaches_eq_visit edges target fuel next seen
  rw [reaches, same]
  simp only [Bool.not_true, Bool.false_and, Bool.false_eq_true, if_false,
    List.not_mem_nil]
  rfl

theorem mem_ascending_iff {Item : Type} [LinearOrder Item] {item : Item}
    {items : List Item} : item ∈ ascending items ↔ item ∈ items := by
  rw [ascending, List.mem_insertionSort, List.mem_dedup]

/-- The ends of the edges. -/
def nodesOf (edges : List (ModuleEdge contract)) : List contract.ModuleName :=
  ascending (edges.flatMap fun edge => [edge.1, edge.2])

theorem length_nodesOf_le (edges : List (ModuleEdge contract)) :
    (nodesOf edges).length ≤ 2 * edges.length := by
  have twice : (edges.flatMap fun edge => [edge.1, edge.2]).length =
      2 * edges.length := by
    simp [List.length_flatMap, Nat.mul_comm]
  rw [← twice, nodesOf, ascending, List.length_insertionSort]
  exact (List.dedup_sublist _).length_le

theorem mem_nodesOf_iff {name : contract.ModuleName} :
    name ∈ nodesOf edges ↔ ∃ edge ∈ edges, name = edge.1 ∨ name = edge.2 := by
  rw [nodesOf, mem_ascending_iff, List.mem_flatMap]
  simp

theorem successors_subset (name : contract.ModuleName) :
    successors edges name ⊆ nodesOf edges := by
  intro next member
  exact mem_nodesOf_iff.mpr
    ⟨_, mem_successors_iff.mp member, .inr rfl⟩

/-- The search of one module reports whether it is on a cycle. -/
theorem reaches_itself_iff {name : contract.ModuleName}
    (known : name ∈ nodesOf edges) :
    ∃ found visited, reaches edges name (searchFuel edges) name [] true =
        some (found, visited) ∧
      (found = true ↔
        Relation.TransGen (Search.Edge (successors edges)) name name) := by
  have enough : (nodesOf edges).length < 2 * edges.length + 1 :=
    Nat.lt_succ_of_le (length_nodesOf_le edges)
  rw [searchFuel, reaches_first]
  exact Search.reachesFrom_iff (fun _ _ => successors_subset _) known enough

/-- The modules that are reported are the ones on a cycle. -/
theorem mem_validateCycles_iff {violation : Violation} :
    violation ∈ validateCycles edges ↔
      ∃ name : contract.ModuleName, violation = .cycle name.val ∧
        Relation.TransGen (fun first second => (first, second) ∈ edges)
          name name := by
  have isEdge : Search.Edge (successors edges) =
      fun first second => (first, second) ∈ edges :=
    funext fun first => funext fun second => propext mem_successors_iff
  rw [← isEdge, validateCycles, List.mem_flatMap]
  constructor
  · rintro ⟨name, known, reported⟩
    obtain ⟨found, visited, answered, cyclic⟩ := reaches_itself_iff known
    rw [answered] at reported
    cases found with
    | false => cases reported
    | true =>
        rw [List.mem_singleton] at reported
        exact ⟨name, reported, cyclic.mp rfl⟩
  · rintro ⟨name, rfl, path⟩
    obtain ⟨next, edge, _⟩ := Relation.TransGen.head'_iff.mp path
    have known : name ∈ nodesOf edges := mem_nodesOf_iff.mpr
      ⟨_, mem_successors_iff.mp edge, .inl rfl⟩
    obtain ⟨found, visited, answered, cyclic⟩ := reaches_itself_iff known
    refine ⟨name, known, ?_⟩
    rw [answered, cyclic.mpr path]
    exact List.mem_singleton_self _

end Graph

/-! ## The contract itself -/

/-- A contract whose names, owners, and gates are in order. -/
structure Contract.Valid (contract : Contract) : Prop where
  version : contract.version = 1
  governed : contract.governance.governedPaths ≠ []
  modules : ∀ entry ∈ contract.modules.entries,
    Text.trim entry.2.owner ≠ [] ∧ entry.2.paths ≠ [] ∧
      ∀ dependency ∈ entry.2.mayDependOn,
        contract.modules.contains dependency = true
  forbidden : ∀ rule ∈ contract.forbiddenDependencies,
    contract.modules.contains rule.source = true ∧
      ∀ target ∈ rule.targets, contract.modules.contains target = true
  gates : ∀ entry ∈ contract.gates.entries,
    entry.1 ∈ supportedGates ∧ entry.2 = 0

theorem validateModule_eq_nil_iff {contract : Contract} {name : String}
    {module : Module} :
    validateModule contract name module = [] ↔
      Text.trim module.owner ≠ [] ∧ module.paths ≠ [] ∧
        ∀ dependency ∈ module.mayDependOn,
          contract.modules.contains dependency = true := by
  simp [validateModule]

theorem validateForbidden_eq_nil_iff {contract : Contract}
    {rule : ForbiddenDependency} :
    validateForbidden contract rule = [] ↔
      contract.modules.contains rule.source = true ∧
        ∀ target ∈ rule.targets, contract.modules.contains target = true := by
  simp [validateForbidden]

theorem validateGate_eq_nil_iff {gate : String} {threshold : UInt64} :
    validateGate gate threshold = [] ↔
      gate ∈ supportedGates ∧ threshold = 0 := by
  rw [validateGate]
  by_cases supported : gate ∈ supportedGates
  · by_cases zero : threshold = 0
    · simp [supported, zero]
    · simp [supported, zero]
  · simp [supported]

theorem validateContract_eq_nil_iff {contract : Contract} :
    validateContract contract = [] ↔ contract.Valid := by
  simp only [validateContract, List.append_eq_nil_iff,
    List.flatMap_eq_nil_iff, validateModule_eq_nil_iff,
    validateForbidden_eq_nil_iff, validateGate_eq_nil_iff, ite_eq_right_iff,
    reduceCtorEq, imp_false, not_not]
  constructor
  · rintro ⟨⟨⟨⟨version, governed⟩, modules⟩, forbidden⟩, gates⟩
    exact ⟨version, governed, modules, forbidden, gates⟩
  · rintro ⟨version, governed, modules, forbidden, gates⟩
    exact ⟨⟨⟨⟨version, governed⟩, modules⟩, forbidden⟩, gates⟩

/-! ## Owners -/

theorem ownerViolations_eq_nil_iff {contract : Contract}
    {unowned : Violation} {shared : List String → Violation}
    {modules : List contract.ModuleName} :
    ownerViolations unowned shared modules = [] ↔
      ∃ name, modules = [name] := by
  rcases modules with _ | ⟨name, _ | ⟨other, rest⟩⟩
  · simp [ownerViolations]
  · simp [ownerViolations]
  · simp [ownerViolations]

theorem eq_singleton_iff {Item : Type} {items : List Item} {item : Item}
    (distinct : items.Nodup) :
    items = [item] ↔ item ∈ items ∧ ∀ other ∈ items, other = item := by
  constructor
  · rintro rfl
    exact ⟨List.mem_singleton_self _, fun _ => List.mem_singleton.mp⟩
  · rintro ⟨member, only⟩
    rcases items with _ | ⟨first, _ | ⟨second, rest⟩⟩
    · cases member
    · rw [only first List.mem_cons_self]
    · have one := only first List.mem_cons_self
      have two := only second (List.mem_cons_of_mem _ List.mem_cons_self)
      rw [one, two] at distinct
      exact absurd List.mem_cons_self (List.nodup_cons.mp distinct).1

theorem Contract.nodup_moduleNames (contract : Contract) :
    contract.moduleNames.Nodup := by
  apply List.Nodup.of_map Subtype.val
  rw [moduleNames, List.map_map]
  have same : (contract.modules.entries.attach.map fun entry =>
      entry.val.1) = contract.modules.entries.map Prod.fst :=
    List.attach_map_val
  refine (congrArg List.Nodup same).mpr ?_
  refine List.pairwise_map.mpr (contract.modules.sorted.imp ?_)
  exact fun below => below.ne

namespace CompiledContract

variable {contract : Contract}

/-- A pattern of the module covers the path. -/
def Matches (compiled : CompiledContract contract) (path : String)
    (name : contract.ModuleName) : Prop :=
  ∃ test, (name, test) ∈ compiled.modulePaths ∧ test path = true

/-- The module is the only one with a pattern that covers the path. -/
def Owns (compiled : CompiledContract contract) (path : String)
    (name : contract.ModuleName) : Prop :=
  compiled.Matches path name ∧ ∀ other, compiled.Matches path other →
    other = name

theorem mem_matchingModules_iff {compiled : CompiledContract contract}
    {path : String} {name : contract.ModuleName} :
    name ∈ compiled.matchingModules path ↔ compiled.Matches path name := by
  simp [matchingModules, Matches]

/-- Each module of the contract has one entry. -/
theorem names_of_compile {globs : GlobLibrary}
    {compiled : CompiledContract contract}
    (compiles : compile globs contract = .ok compiled) :
    compiled.modulePaths.map Prod.fst = contract.moduleNames := by
  obtain ⟨governed, _, compiles⟩ := bind_eq_ok compiles
  obtain ⟨excluded, _, compiles⟩ := bind_eq_ok compiles
  obtain ⟨modulePaths, listed, compiles⟩ := bind_eq_ok compiles
  cases compiles
  have related : List.Forall₂ (fun name entry => name = entry.1)
      contract.moduleNames modulePaths := by
    refine (mapM_eq_ok_iff.mp listed).imp ?_
    intro name entry built
    obtain ⟨paths, _, named⟩ := bind_eq_ok built
    exact congrArg Prod.fst (Except.ok.inj named)
  have same := List.forall₂_map_right_iff.mpr related
  rw [List.forall₂_eq_eq_eq] at same
  exact same.symm

theorem matchingModules_eq_singleton_iff {globs : GlobLibrary}
    {compiled : CompiledContract contract}
    (compiles : compile globs contract = .ok compiled) {path : String}
    {name : contract.ModuleName} :
    compiled.matchingModules path = [name] ↔ compiled.Owns path name := by
  have distinct : (compiled.matchingModules path).Nodup := by
    have names := contract.nodup_moduleNames
    rw [← names_of_compile compiles] at names
    exact names.sublist (List.filter_sublist.map _)
  rw [eq_singleton_iff distinct]
  simp only [mem_matchingModules_iff]
  rfl

end CompiledContract

/-! ## Packages -/

section Packages

variable {contract : Contract}

/-- The package is governed and has this owner. -/
def OwnedBy (root : FilePath) (compiled : CompiledContract contract)
    (package : Package) (name : contract.ModuleName) : Prop :=
  ∃ path, packageRoot root package = .ok path ∧
    compiled.governs path = true ∧
    compiled.Owns (path ++ "/Cargo.toml") name

/-- The package has an owner if it is governed. -/
def Assigned (root : FilePath) (compiled : CompiledContract contract)
    (package : Package) : Prop :=
  ∀ path, packageRoot root package = .ok path →
    compiled.governs path = true →
    ∃ name, compiled.Owns (path ++ "/Cargo.toml") name

/-- Some package of the first module names one of the second. -/
def Depends (root : FilePath) (compiled : CompiledContract contract)
    (packages : List Package) (source target : contract.ModuleName) : Prop :=
  source ≠ target ∧ ∃ package ∈ packages, ∃ other ∈ packages,
    OwnedBy root compiled package source ∧
    OwnedBy root compiled other target ∧
    ∃ dependency ∈ package.dependencies,
      dependency.path.isSome = true ∧ dependency.name = other.name

variable {globs : GlobLibrary} {root : FilePath}
  {compiled : CompiledContract contract}

theorem OwnedBy.unique {package : Package} {name other : contract.ModuleName}
    (owned : OwnedBy root compiled package name)
    (again : OwnedBy root compiled package other) : name = other := by
  obtain ⟨path, located, _, owns⟩ := owned
  obtain ⟨samePath, relocated, _, ownsToo⟩ := again
  cases located.symm.trans relocated
  exact ownsToo.2 name owns.1

/-- What the assignment of one package does. -/
theorem assignPackage_cases (compiles : compile globs contract = .ok compiled)
    {ownership next : Ownership contract} {package : Package}
    (assigned : assignPackage root compiled ownership package = .ok next) :
    (∃ path, packageRoot root package = .ok path) ∧
    ((∃ name, OwnedBy root compiled package name ∧ next =
        { ownership with
          packageModules := ownership.packageModules.insert package.name name
          activeModules := ownership.activeModules ++ [name] }) ∨
      (∀ name, ¬OwnedBy root compiled package name) ∧
      ∃ violations, (violations = [] ↔ Assigned root compiled package) ∧
        next = { ownership with
          violations := ownership.violations ++ violations }) := by
  obtain ⟨path, located, assigned⟩ := bind_eq_ok assigned
  refine ⟨⟨path, located⟩, ?_⟩
  have only : ∀ {other}, packageRoot root package = .ok other →
      other = path := fun relocated =>
    Except.ok.inj (relocated.symm.trans located)
  by_cases governed : compiled.governs path = true
  · rw [if_pos governed] at assigned
    by_cases single : ∃ name,
        compiled.matchingModules (path ++ "/Cargo.toml") = [name]
    · obtain ⟨name, same⟩ := single
      simp only [same] at assigned
      cases assigned
      refine .inl ⟨name, ⟨path, located, governed, ?_⟩, rfl⟩
      exact (CompiledContract.matchingModules_eq_singleton_iff compiles).mp
        same
    · have unowned : ¬∃ name, compiled.Owns (path ++ "/Cargo.toml") name := by
        rintro ⟨name, owns⟩
        exact single ⟨name,
          (CompiledContract.matchingModules_eq_singleton_iff compiles).mpr
            owns⟩
      refine .inr ⟨?_, ownerViolations (.unownedPackage package.name path)
        (.sharedPackage package.name path)
        (compiled.matchingModules (path ++ "/Cargo.toml")), ?_, ?_⟩
      · rintro name ⟨other, relocated, _, owns⟩
        cases only relocated
        exact unowned ⟨name, owns⟩
      · rw [ownerViolations_eq_nil_iff]
        constructor
        · exact fun owned => absurd owned single
        · exact fun owned => absurd (owned path located governed) unowned
      · revert assigned single
        generalize compiled.matchingModules (path ++ "/Cargo.toml") = modules
        intro assigned single
        rcases modules with _ | ⟨name, _ | ⟨other, rest⟩⟩
        · exact (Except.ok.inj assigned).symm
        · exact absurd ⟨name, rfl⟩ single
        · exact (Except.ok.inj assigned).symm
  · rw [if_neg governed] at assigned
    cases assigned
    refine .inr ⟨?_, [], ?_, ?_⟩
    · rintro name ⟨other, relocated, governs, _⟩
      cases only relocated
      exact governed governs
    · refine iff_of_true rfl ?_
      intro other relocated governs
      cases only relocated
      exact absurd governs governed
    · rw [List.append_nil]

/-- What the assignment of all packages does. -/
theorem assignPackages_ok (compiles : compile globs contract = .ok compiled)
    {packages : List Package} {start final : Ownership contract}
    (assigned : packages.foldlM (assignPackage root compiled) start =
      .ok final) :
    (∀ package ∈ packages, ∃ path, packageRoot root package = .ok path) ∧
    (final.violations = [] ↔ start.violations = [] ∧
      ∀ package ∈ packages, Assigned root compiled package) ∧
    (∀ name, name ∈ final.activeModules ↔ name ∈ start.activeModules ∨
      ∃ package ∈ packages, OwnedBy root compiled package name) ∧
    ((packages.map Package.name).Nodup →
      (∀ package ∈ packages,
        start.packageModules.get? package.name = none) →
      ∀ key name, final.packageModules.get? key = some name ↔
        start.packageModules.get? key = some name ∨
        ∃ package ∈ packages, package.name = key ∧
          OwnedBy root compiled package name) := by
  induction packages generalizing start with
  | nil =>
      cases assigned
      simp
  | cons package rest induction =>
      rw [List.foldlM_cons] at assigned
      obtain ⟨next, first, later⟩ := bind_eq_ok assigned
      obtain ⟨located, violations, active, owners⟩ := induction later
      obtain ⟨here, owned | ⟨nobody, found, settled, same⟩⟩ :=
        assignPackage_cases compiles first
      · obtain ⟨name, owned, same⟩ := owned
        subst same
        have isAssigned : Assigned root compiled package := by
          intro path relocated _
          obtain ⟨other, place, _, owns⟩ := owned
          cases place.symm.trans relocated
          exact ⟨name, owns⟩
        refine ⟨List.forall_mem_cons.mpr ⟨here, located⟩, ?_, ?_, ?_⟩
        · rw [violations, List.forall_mem_cons]
          tauto
        · intro other
          rw [active, List.mem_append, List.mem_singleton,
            List.exists_mem_cons_iff]
          constructor
          · rintro ((older | rfl) | listed)
            · exact .inl older
            · exact .inr (.inl owned)
            · exact .inr (.inr listed)
          · rintro (older | again | listed)
            · exact .inl (.inl older)
            · exact .inl (.inr (again.unique owned))
            · exact .inr listed
        · intro distinct fresh key other
          rw [List.map_cons, List.nodup_cons] at distinct
          rw [List.forall_mem_cons] at fresh
          have apart : ∀ later ∈ rest, later.name ≠ package.name := by
            intro later member same
            exact distinct.1 (same ▸ List.mem_map_of_mem member)
          have unlisted : ∀ later ∈ rest,
              (start.packageModules.insert package.name name).get?
                later.name = none := by
            intro later member
            rw [OrderedMap.get?_insert_of_ne _ _ (apart later member)]
            exact fresh.2 later member
          refine (owners distinct.2 unlisted key other).trans ?_
          dsimp only
          rw [OrderedMap.get?_insert_eq_some_iff, List.exists_mem_cons_iff]
          constructor
          · rintro ((⟨rfl, rfl⟩ | ⟨_, older⟩) | listed)
            · exact .inr (.inl ⟨rfl, owned⟩)
            · exact .inl older
            · exact .inr (.inr listed)
          · rintro (older | ⟨rfl, again⟩ | listed)
            · refine .inl (.inr ⟨?_, older⟩)
              rintro rfl
              rw [fresh.1] at older
              cases older
            · exact .inl (.inl ⟨rfl, again.unique owned⟩)
            · exact .inr listed
      · subst same
        refine ⟨List.forall_mem_cons.mpr ⟨here, located⟩, ?_, ?_, ?_⟩
        · rw [violations, List.append_eq_nil_iff, settled,
            List.forall_mem_cons]
          exact and_assoc
        · intro other
          rw [active, List.exists_mem_cons_iff]
          have nobodyHere := nobody other
          tauto
        · intro distinct fresh key other
          rw [List.map_cons, List.nodup_cons] at distinct
          rw [List.forall_mem_cons] at fresh
          rw [owners distinct.2 fresh.2, List.exists_mem_cons_iff]
          have nobodyHere := nobody other
          tauto

theorem exists_assignPackages {packages : List Package}
    (start : Ownership contract)
    (inside : ∀ package ∈ packages,
      ∃ path, packageRoot root package = .ok path) :
    ∃ final, packages.foldlM (assignPackage root compiled) start =
      .ok final := by
  induction packages generalizing start with
  | nil => exact ⟨start, rfl⟩
  | cons package rest induction =>
      obtain ⟨path, located⟩ := inside package List.mem_cons_self
      obtain ⟨next, first⟩ : ∃ next,
          assignPackage root compiled start package = .ok next := by
        have assigns : assignPackage root compiled start package = _ :=
          bind_of_eq_ok located
        rw [assigns]
        split
        · split
          · exact ⟨_, rfl⟩
          · exact ⟨_, rfl⟩
        · exact ⟨start, rfl⟩
      obtain ⟨final, later⟩ := induction next fun other member =>
        inside other (List.mem_cons_of_mem _ member)
      refine ⟨final, ?_⟩
      rw [List.foldlM_cons]
      exact (bind_of_eq_ok first).trans later

/-- An edge is a dependency between packages of two modules. -/
theorem mem_dependencyEdges_iff {packages : List Package}
    {packageModules : OrderedMap String contract.ModuleName}
    (distinct : (packages.map Package.name).Nodup)
    (owners : ∀ key name, packageModules.get? key = some name ↔
      ∃ package ∈ packages, package.name = key ∧
        OwnedBy root compiled package name)
    {source target : contract.ModuleName} :
    (source, target) ∈ dependencyEdges packages packageModules ↔
      Depends root compiled packages source target := by
  have listed : (source, target) ∈ dependencyEdges packages packageModules ↔
      ∃ package ∈ packages, packageModules.get? package.name = some source ∧
        ∃ dependency ∈ package.dependencies, dependency.path.isSome = true ∧
          packageModules.get? dependency.name = some target ∧
          source ≠ target := by
    rw [dependencyEdges, List.mem_map]
    constructor
    · rintro ⟨edge, member, same⟩
      rw [mem_ascending_iff, List.mem_map] at member
      obtain ⟨edge, member, rfl⟩ := member
      obtain ⟨package, known, member⟩ := List.mem_flatMap.mp member
      refine ⟨package, known, ?_⟩
      cases owner : packageModules.get? package.name with
      | none =>
          rw [owner] at member
          cases member
      | some first =>
          simp only [owner] at member
          obtain ⟨dependency, named, made⟩ := List.mem_filterMap.mp member
          split at made
          · rename_i isPath
            obtain ⟨second, kept, rfl⟩ := Option.map_eq_some_iff.mp made
            obtain ⟨stored, apart⟩ := Option.filter_eq_some_iff.mp kept
            cases same
            exact ⟨rfl, dependency, named, isPath, stored,
              by simpa using apart⟩
          · cases made
    · rintro ⟨package, known, owner, dependency, named, isPath, stored,
        apart⟩
      refine ⟨toLex (source, target), ?_, rfl⟩
      rw [mem_ascending_iff]
      apply List.mem_map_of_mem
      refine List.mem_flatMap.mpr ⟨package, known, ?_⟩
      simp only [owner]
      refine List.mem_filterMap.mpr ⟨dependency, named, ?_⟩
      rw [if_pos isPath, stored]
      simp [Option.filter, apart]
  rw [listed]
  constructor
  · rintro ⟨package, known, owner, dependency, named, isPath, stored, apart⟩
    obtain ⟨same, sameKnown, sameName, owned⟩ := (owners _ _).mp owner
    obtain ⟨other, otherKnown, otherName, otherOwned⟩ :=
      (owners _ _).mp stored
    cases List.inj_on_of_nodup_map distinct sameKnown known sameName
    exact ⟨apart, package, known, other, otherKnown, owned, otherOwned,
      dependency, named, isPath, otherName.symm⟩
  · rintro ⟨apart, package, known, other, otherKnown, owned, otherOwned,
      dependency, named, isPath, same⟩
    refine ⟨package, known, (owners _ _).mpr ⟨package, known, rfl, owned⟩,
      dependency, named, isPath, ?_, apart⟩
    exact (owners _ _).mpr ⟨other, otherKnown, same.symm, otherOwned⟩

/-! ## Governed files -/

/-- The file has an owner if it is governed. -/
def FileAssigned (root : FilePath) (compiled : CompiledContract contract)
    (file : FilePath) : Prop :=
  ∀ path, relativePath root file = .ok path → compiled.governs path = true →
    ∃ name, compiled.Owns path name

theorem exists_relativePath {path : FilePath}
    (below : root.components <+: path.components) :
    ∃ relative, relativePath root path = .ok relative := by
  rw [relativePath, if_pos (List.isPrefixOf_iff_prefix.mpr below)]
  exact ⟨_, rfl⟩

theorem mapM_ok {Item Value : Type}
    {read : Item → Except ArchitectureError Value} {items : List Item}
    (reads : ∀ item ∈ items, ∃ value, read item = .ok value) :
    ∃ values, items.mapM read = .ok values := by
  induction items with
  | nil => exact ⟨[], rfl⟩
  | cons item rest induction =>
      obtain ⟨value, first⟩ := reads item List.mem_cons_self
      obtain ⟨values, later⟩ := induction fun other member =>
        reads other (List.mem_cons_of_mem _ member)
      refine ⟨value :: values, ?_⟩
      rw [List.mapM_cons]
      refine (bind_of_eq_ok first).trans ?_
      exact bind_of_eq_ok later

theorem validateFile_ok (compiles : compile globs contract = .ok compiled)
    {file : FilePath} {violations : List Violation}
    (validated : validateFile root compiled file = .ok violations) :
    violations = [] ↔ FileAssigned root compiled file := by
  obtain ⟨path, located, reported⟩ := bind_eq_ok validated
  have only : ∀ {other}, relativePath root file = .ok other →
      other = path := fun relocated =>
    Except.ok.inj (relocated.symm.trans located)
  by_cases governed : compiled.governs path = true
  · rw [if_pos governed] at reported
    cases reported
    rw [ownerViolations_eq_nil_iff]
    simp only [CompiledContract.matchingModules_eq_singleton_iff compiles]
    constructor
    · rintro owned other relocated _
      rw [only relocated]
      exact owned
    · exact fun assigned => assigned path located governed
  · rw [if_neg governed] at reported
    cases reported
    refine iff_of_true rfl ?_
    intro other relocated governs
    rw [only relocated] at governs
    exact absurd governs governed

/-- Nothing is reported when nothing is reported of any item. -/
theorem flatten_eq_nil_iff {Item : Type}
    {reads : Item → List Violation → Prop} {holds : Item → Prop}
    (each : ∀ item report, reads item report → (report = [] ↔ holds item))
    {items : List Item} {reports : List (List Violation)}
    (related : List.Forall₂ reads items reports) :
    reports.flatten = [] ↔ ∀ item ∈ items, holds item := by
  induction related with
  | nil => simp
  | cons first _ induction =>
      rw [List.flatten_cons, List.append_eq_nil_iff, List.forall_mem_cons,
        induction, each _ _ first]

/-- The files are checked on a readable workspace, and nothing is reported
when each of them is assigned. -/
theorem validateGovernedFiles_ok {workspace : Directory}
    (compiles : compile globs contract = .ok compiled)
    {violations : List Violation}
    (validated : validateGovernedFiles root workspace compiled =
      .ok violations) :
    workspace.Readable root root ∧ (violations = [] ↔
      ∀ file ∈ workspace.files root root, FileAssigned root compiled file) := by
  obtain ⟨files, walked, validated⟩ := bind_eq_ok validated
  obtain ⟨each, checked, flattened⟩ := bind_eq_ok validated
  obtain ⟨readable, found⟩ := walkFiles_ok_iff walked
  obtain rfl := Except.ok.inj flattened
  refine ⟨readable, ?_⟩
  simp only [← found]
  exact flatten_eq_nil_iff
    (fun _ _ validated => validateFile_ok compiles validated)
    (mapM_eq_ok_iff.mp checked)

theorem exists_validateGovernedFiles {workspace : Directory}
    (readable : workspace.Readable root root) :
    ∃ violations,
      validateGovernedFiles root workspace compiled = .ok violations := by
  obtain ⟨files, walked⟩ := exists_walkFiles readable
  have below : ∀ file ∈ files, root.components <+: file.components := by
    intro file member
    have listed := ((walkFiles_ok_iff walked).2 file).mp member
    cases workspace with
    | error error => cases listed
    | ok entries => exact Entries.prefix_of_mem_files listed
  obtain ⟨each, checked⟩ : ∃ each,
      files.mapM (validateFile root compiled) = .ok each := by
    apply mapM_ok
    intro file member
    obtain ⟨relative, located⟩ := exists_relativePath (below file member)
    have validates : validateFile root compiled file = _ :=
      bind_of_eq_ok located
    rw [validates]
    by_cases governed : compiled.governs relative = true
    · exact ⟨_, if_pos governed⟩
    · exact ⟨_, if_neg governed⟩
  refine ⟨each.flatten, (bind_of_eq_ok walked).trans ?_⟩
  exact bind_of_eq_ok checked

/-! ## The whole check -/

/-- The workspace keeps to the contract. -/
structure Conforms (root : FilePath) (compiled : CompiledContract contract)
    (workspace : Directory) (isFile : String → Bool)
    (packages : List Package) : Prop where
  valid : contract.Valid
  readable : workspace.Readable root root
  inside : ∀ package ∈ packages, ∃ path, packageRoot root package = .ok path
  packagesAssigned : ∀ package ∈ packages, Assigned root compiled package
  filesAssigned : ∀ file ∈ workspace.files root root,
    FileAssigned root compiled file
  apis : ∀ package ∈ packages, ∀ name, OwnedBy root compiled package name →
    ∀ api ∈ (contract.module name).publicApi, isFile api = true
  allowed : ∀ source target, Depends root compiled packages source target →
    target.val ∈ (contract.module source).mayDependOn
  unforbidden : ∀ source target,
    Depends root compiled packages source target →
    ∀ rule ∈ contract.forbiddenDependencies, rule.source = source.val →
      target.val ∉ rule.targets
  acyclic : ∀ name,
    ¬Relation.TransGen (Depends root compiled packages) name name

theorem validateEdge_eq_nil_iff {source target : contract.ModuleName} :
    validateEdge (source, target) = [] ↔
      target.val ∈ (contract.module source).mayDependOn ∧
      ∀ rule ∈ contract.forbiddenDependencies, rule.source = source.val →
        target.val ∉ rule.targets := by
  simp only [validateEdge, List.append_eq_nil_iff, ite_eq_left_iff,
    ite_eq_right_iff, reduceCtorEq, imp_false, not_not, List.any_eq_true,
    Bool.and_eq_true, decide_eq_true_eq]
  refine and_congr_right fun _ => ?_
  constructor
  · intro none rule member same listed
    exact none ⟨rule, member, same, target.val, listed, rfl⟩
  · rintro none ⟨rule, member, same, other, listed, rfl⟩
    exact none rule member same listed

theorem validatePublicApis_eq_nil_iff {isFile : String → Bool}
    {activeModules : List contract.ModuleName} :
    validatePublicApis isFile activeModules = [] ↔
      ∀ name ∈ activeModules, ∀ api ∈ (contract.module name).publicApi,
        isFile api = true := by
  simp [validatePublicApis]

theorem validateCycles_eq_nil_iff {edges : List (ModuleEdge contract)} :
    validateCycles edges = [] ↔ ∀ name,
      ¬Relation.TransGen (fun first second => (first, second) ∈ edges)
        name name := by
  rw [List.eq_nil_iff_forall_not_mem]
  simp only [mem_validateCycles_iff]
  constructor
  · exact fun none name path => none _ ⟨name, rfl, path⟩
  · rintro none _ ⟨name, rfl, path⟩
    exact none name path

/-- An ascending list is determined by its items. -/
theorem eq_ascending_iff {Item : Type} [LinearOrder Item]
    {items sorted : List Item} :
    sorted = ascending items ↔
      sorted.Pairwise (· < ·) ∧ ∀ item, item ∈ sorted ↔ item ∈ items := by
  have pairwise : (ascending items).Pairwise (· < ·) := by
    have nodup : (ascending items).Nodup :=
      (List.perm_insertionSort _ _).nodup_iff.mpr (List.nodup_dedup items)
    have below : (ascending items).Pairwise (· ≤ ·) :=
      List.pairwise_insertionSort _ _
    exact below.imp₂ (fun _ _ => lt_of_le_of_ne) nodup
  constructor
  · rintro rfl
    exact ⟨pairwise, fun _ => mem_ascending_iff⟩
  · rintro ⟨ordered, same⟩
    have perm : sorted.Perm (ascending items) := by
      apply (List.perm_ext_iff_of_nodup (ordered.imp ne_of_lt)
        (pairwise.imp ne_of_lt)).mpr
      intro item
      rw [same, mem_ascending_iff]
    exact perm.eq_of_pairwise (fun _ _ _ _ first second =>
      absurd first (lt_asymm second)) ordered pairwise

variable {workspace : Directory} {isFile : String → Bool}
  {packages : List Package}

/-- Once everything is read, nothing is reported exactly when the workspace
conforms, and the active modules are the owners of its packages. -/
theorem settled_iff (compiles : compile globs contract = .ok compiled)
    (distinct : (packages.map Package.name).Nodup)
    {ownership : Ownership contract}
    (assigned : packages.foldlM (assignPackage root compiled)
      ⟨validateContract contract, .empty, []⟩ = .ok ownership)
    {fileViolations : List Violation}
    (validated : validateGovernedFiles root workspace compiled =
      .ok fileViolations) :
    (ownership.violations ++ fileViolations ++
        validatePublicApis isFile (ascending ownership.activeModules) ++
        (dependencyEdges packages ownership.packageModules).flatMap
          validateEdge ++
        validateCycles (dependencyEdges packages ownership.packageModules) =
      [] ↔ Conforms root compiled workspace isFile packages) ∧
    ∀ activeModules, activeModules = ascending ownership.activeModules ↔
      activeModules.Pairwise (· < ·) ∧ ∀ name, name ∈ activeModules ↔
        ∃ package ∈ packages, OwnedBy root compiled package name := by
  obtain ⟨inside, violations, active, owners⟩ :=
    assignPackages_ok compiles assigned
  obtain ⟨readable, files⟩ := validateGovernedFiles_ok compiles validated
  have isOwner : ∀ key name,
      ownership.packageModules.get? key = some name ↔
        ∃ package ∈ packages, package.name = key ∧
          OwnedBy root compiled package name := by
    intro key name
    rw [owners distinct (fun _ _ => OrderedMap.get?_empty _) key name,
      OrderedMap.get?_empty]
    simp
  have isActive : ∀ name, name ∈ ownership.activeModules ↔
      ∃ package ∈ packages, OwnedBy root compiled package name := by
    intro name
    rw [active]
    simp
  have isEdge : ∀ {source target},
      (source, target) ∈ dependencyEdges packages ownership.packageModules ↔
        Depends root compiled packages source target :=
    mem_dependencyEdges_iff distinct isOwner
  constructor
  · simp only [List.append_eq_nil_iff, violations, files,
      validateContract_eq_nil_iff, validatePublicApis_eq_nil_iff,
      List.flatMap_eq_nil_iff, Prod.forall, validateEdge_eq_nil_iff,
      validateCycles_eq_nil_iff, mem_ascending_iff, isActive, isEdge]
    constructor
    · rintro ⟨⟨⟨⟨⟨valid, packagesAssigned⟩, filesAssigned⟩, apis⟩, edges⟩,
        acyclic⟩
      exact {
        valid, readable, inside, packagesAssigned, filesAssigned, acyclic
        apis := fun package member name owned =>
          apis name ⟨package, member, owned⟩
        allowed := fun source target edge => (edges source target edge).1
        unforbidden := fun source target edge =>
          (edges source target edge).2 }
    · intro conforms
      refine ⟨⟨⟨⟨⟨conforms.valid, conforms.packagesAssigned⟩,
        conforms.filesAssigned⟩, ?_⟩, ?_⟩, conforms.acyclic⟩
      · rintro name ⟨package, member, owned⟩
        exact conforms.apis package member name owned
      · intro source target edge
        exact ⟨conforms.allowed source target edge,
          conforms.unforbidden source target edge⟩
  · intro activeModules
    rw [eq_ascending_iff]
    simp only [isActive]

/-- With packages of different names, the check accepts exactly the readable
workspaces that keep to their contract, and then returns the modules that own
a package in ascending order. -/
theorem evaluate_ok_iff (globs : GlobLibrary) (contract : Contract)
    (root : FilePath) (workspace : Directory) (isFile : String → Bool)
    (packages : List Package) (distinct : (packages.map Package.name).Nodup)
    (activeModules : List contract.ModuleName) :
    evaluate globs contract root workspace isFile packages =
        .ok activeModules ↔
      ∃ compiled, compile globs contract = .ok compiled ∧
        Conforms root compiled workspace isFile packages ∧
        activeModules.Pairwise (· < ·) ∧ ∀ name, name ∈ activeModules ↔
          ∃ package ∈ packages, OwnedBy root compiled package name := by
  constructor
  · intro accepted
    obtain ⟨compiled, compiles, accepted⟩ := bind_eq_ok accepted
    obtain ⟨ownership, assigned, accepted⟩ := bind_eq_ok accepted
    obtain ⟨fileViolations, validated, accepted⟩ := bind_eq_ok accepted
    obtain ⟨conforms, active⟩ :=
      settled_iff compiles distinct assigned validated
    dsimp only at accepted
    split at accepted
    · rename_i none
      exact ⟨compiled, compiles, conforms.mp none,
        (active activeModules).mp (Except.ok.inj accepted).symm⟩
    · cases accepted
  · rintro ⟨compiled, compiles, conforms, isActive⟩
    obtain ⟨ownership, assigned⟩ := @exists_assignPackages _ root compiled _
      ⟨validateContract contract, .empty, []⟩ conforms.inside
    obtain ⟨fileViolations, validated⟩ :=
      exists_validateGovernedFiles conforms.readable
    obtain ⟨none, active⟩ :=
      settled_iff compiles distinct assigned validated
    refine (bind_of_eq_ok compiles).trans ?_
    refine (bind_of_eq_ok assigned).trans ?_
    refine (bind_of_eq_ok validated).trans ?_
    rw [(active activeModules).mpr isActive]
    exact if_pos (none.mpr conforms)

end Packages

/-! A workspace of two packages, the second of which depends on the first. -/

def sampleGlobs : GlobLibrary where
  refusal _ := none
  build patterns := .ok fun path => patterns.any (· = path)

def sampleContract : Contract where
  version := 1
  governance := ⟨["a", "b"], []⟩
  modules :=
    { entries := [("base", ⟨["a/Cargo.toml"], ['o'], [], []⟩),
        ("top", ⟨["b/Cargo.toml"], ['o'], ["base"], []⟩)]
      sorted := by decide }
  forbiddenDependencies := [⟨"base", ["top"]⟩]
  gates := .empty

def sampleBase : sampleContract.ModuleName := ⟨"base", by decide⟩

def sampleTop : sampleContract.ModuleName := ⟨"top", by decide⟩

def sampleCompiled : CompiledContract sampleContract where
  governed path := ["a", "b"].any (· = path)
  excluded path := [].any (· = path)
  modulePaths :=
    [(sampleBase, fun path => ["a/Cargo.toml"].any (· = path)),
      (sampleTop, fun path => ["b/Cargo.toml"].any (· = path))]

def sampleRoot : FilePath := ⟨[[], "w".toList]⟩

def samplePackages : List Package :=
  [⟨"a", (sampleRoot.join "a".toList).join "Cargo.toml".toList, []⟩,
    ⟨"b", (sampleRoot.join "b".toList).join "Cargo.toml".toList,
      [⟨"a", some "../a"⟩]⟩]

theorem evaluate_sample :
    evaluate sampleGlobs sampleContract sampleRoot (.ok .nil)
      (fun _ => true) samplePackages = .ok [sampleBase, sampleTop] := by
  have compiles : compile sampleGlobs sampleContract =
      .ok sampleCompiled := rfl
  have assigned : samplePackages.foldlM
      (assignPackage sampleRoot sampleCompiled)
      ⟨validateContract sampleContract, .empty, []⟩ =
        .ok ⟨[], (OrderedMap.empty.insert "a" sampleBase).insert "b" sampleTop,
          [sampleBase, sampleTop]⟩ := rfl
  have walked : walkFiles sampleRoot (.ok .nil) = .ok [] := by
    rw [walkFiles, walkPending]
    simp only [readEntries]
    rw [walkPending]
  have validated : validateGovernedFiles sampleRoot (.ok .nil)
      sampleCompiled = .ok [] := bind_of_eq_ok walked
  refine (bind_of_eq_ok compiles).trans ?_
  refine (bind_of_eq_ok assigned).trans ?_
  refine (bind_of_eq_ok validated).trans ?_
  decide

theorem evaluate_ok_iff_sample :
    ∃ compiled, compile sampleGlobs sampleContract = .ok compiled ∧
      Conforms sampleRoot compiled (.ok .nil) (fun _ => true)
        samplePackages ∧
      [sampleBase, sampleTop].Pairwise (· < ·) ∧
      ∀ name, name ∈ [sampleBase, sampleTop] ↔
        ∃ package ∈ samplePackages,
          OwnedBy sampleRoot compiled package name :=
  (evaluate_ok_iff sampleGlobs sampleContract sampleRoot (.ok .nil)
    (fun _ => true) samplePackages (by decide) _).mp evaluate_sample

end Velum.Xtask
