import Velum.Foundation.Text

/-!
# Paths of files

A path is the list of its components, as the standard library takes a path
apart: repeated separators are one, and a single dot is kept only as the first
component.  An absolute path begins with an empty component.  The root, the
empty path, the path of a single dot and one that ends in two dots name no
file, and changing their extension changes nothing.

Directories may be reached in several ways, by two dots or by links.  `entry`
is the place that a path leads to, given the directories that paths lead to.
-/

namespace Foundation

structure FilePath where
  components : List Text
  deriving DecidableEq

namespace FilePath

def parent (path : FilePath) : Option FilePath :=
  if path.components.getLast?.getD [] = [] then none
  else some ⟨path.components.dropLast⟩

def fileName (path : FilePath) : Option Text :=
  path.components.getLast?.filter fun name =>
    name ≠ [] ∧ name ≠ ['.'] ∧ name ≠ ['.', '.']

def join (path : FilePath) (name : Text) : FilePath :=
  ⟨path.components ++ [name]⟩

/-- The name up to its last dot, unless it begins with that dot. -/
def stem (name : Text) : Text :=
  match Text.rsplitOnce '.' name with
  | some (character :: front, _) => character :: front
  | _ => name

def withExtension (path : FilePath) (extension : Text) : FilePath :=
  match path.fileName with
  | some name =>
      join ⟨path.components.dropLast⟩
        (stem name ++ if extension = [] then [] else '.' :: extension)
  | none => path

def display (path : FilePath) : String :=
  if path.components = [[]] then "/"
  else String.ofList (['/'].intercalate path.components)

/-- The directory that a path leads to, and the name there. -/
def entry {Directory : Type} (resolve : FilePath → Directory)
    (path : FilePath) : Directory × Text :=
  (resolve ⟨path.components.dropLast⟩, path.components.getLast?.getD [])

/-! ## Extensions -/

theorem rsplitOnce_extension {extension : Text} (dotless : '.' ∉ extension)
    (front : Text) :
    Text.rsplitOnce '.' (front ++ '.' :: extension) =
      some (front, extension) := by
  have dotless' : '.' ∉ extension.reverse := by simpa using dotless
  have reversed : (front ++ '.' :: extension).reverse =
      extension.reverse ++ '.' :: front.reverse := by simp
  rw [Text.rsplitOnce, reversed, Text.splitOnce_of_not_mem dotless']
  simp

theorem stem_extension {front extension : Text} (dotless : '.' ∉ extension)
    (filled : front ≠ []) : stem (front ++ '.' :: extension) = front := by
  obtain ⟨character, rest, rfl⟩ := List.exists_cons_of_ne_nil filled
  rw [stem, rsplitOnce_extension dotless]

theorem stem_ne_nil {name : Text} (filled : name ≠ []) : stem name ≠ [] := by
  rw [stem]
  split
  · exact List.cons_ne_nil _ _
  · exact filled

theorem withExtension_of_fileName {path : FilePath} {name extension : Text}
    (named : path.fileName = some name) (filled : extension ≠ []) :
    path.withExtension extension =
      join ⟨path.components.dropLast⟩ (stem name ++ '.' :: extension) := by
  rw [withExtension, named]
  simp only [if_neg filled]

theorem ne_nil_of_fileName {path : FilePath} {name : Text}
    (named : path.fileName = some name) : name ≠ [] := by
  have kept := (Option.filter_eq_some_iff.mp named).2
  simp only [decide_eq_true_eq] at kept
  exact kept.1

theorem parent_isSome_of_fileName {path : FilePath}
    (named : path.fileName.isSome) : path.parent.isSome := by
  obtain ⟨name, named⟩ := Option.isSome_iff_exists.mp named
  have filled := ne_nil_of_fileName named
  have last := (Option.filter_eq_some_iff.mp named).1
  simp [parent, last, filled]

theorem fileName_isSome_of_withExtension {path : FilePath} {extension : Text}
    (changed : path.withExtension extension ≠ path) :
    path.fileName.isSome := by
  cases named : path.fileName with
  | none => simp [withExtension, named] at changed
  | some name => rfl

theorem parent_join {path : FilePath} {name : Text} (filled : name ≠ []) :
    (path.join name).parent = some path := by
  simp [parent, join, filled]

theorem length_of_parent {path directory : FilePath}
    (known : path.parent = some directory) :
    path.components.length = directory.components.length + 1 := by
  rw [parent] at known
  split at known
  next => cases known
  next filled =>
      cases known
      have present : path.components ≠ [] := by
        intro empty
        simp [empty] at filled
      have positive := List.length_pos_iff.mpr present
      rw [List.length_dropLast]
      omega

theorem length_withExtension (path : FilePath) (extension : Text) :
    (path.withExtension extension).components.length =
      path.components.length := by
  rw [withExtension]
  split
  next name named =>
      have present : path.components ≠ [] := by
        intro empty
        simp [fileName, empty] at named
      have positive := List.length_pos_iff.mpr present
      simp only [join, List.length_append, List.length_dropLast,
        List.length_singleton]
      omega
  next => rfl

/-- An extension of two parts changes every name. -/
theorem withExtension_ne_self {path : FilePath} {front ending : Text}
    (named : path.fileName.isSome) (dotless : '.' ∉ ending) :
    path.withExtension (front ++ '.' :: ending) ≠ path := by
  obtain ⟨name, known⟩ := Option.isSome_iff_exists.mp named
  rw [withExtension_of_fileName known (by simp)]
  intro same
  have last := (Option.filter_eq_some_iff.mp known).1
  have renamed : stem name ++ '.' :: (front ++ '.' :: ending) = name := by
    rw [← same] at last
    simpa [join] using last
  have longer : stem name = stem name ++ '.' :: front := by
    conv_lhs => rw [← renamed]
    have regrouped : stem name ++ '.' :: (front ++ '.' :: ending) =
        (stem name ++ '.' :: front) ++ '.' :: ending := by simp
    rw [regrouped, stem_extension dotless (by simp)]
  simpa using congrArg List.length longer

/-! ## Entries of directories -/

section Entries

variable {Directory : Type} {resolve : FilePath → Directory}

/-- The entry of the same directory with another extension. -/
def changeExtension (entry : Directory × Text) (extension : Text) :
    Directory × Text :=
  (entry.1, stem entry.2 ++ '.' :: extension)

theorem entry_of_fileName {path : FilePath} {name : Text}
    (named : path.fileName = some name) :
    path.entry resolve = (resolve ⟨path.components.dropLast⟩, name) := by
  have last := (Option.filter_eq_some_iff.mp named).1
  rw [entry, last]
  rfl

theorem entry_join (path : FilePath) (name : Text) :
    (path.join name).entry resolve = (resolve path, name) := by
  simp [entry, join]

theorem entry_withExtension {path : FilePath} {extension : Text}
    (named : path.fileName.isSome) (filled : extension ≠ []) :
    (path.withExtension extension).entry resolve =
      changeExtension (path.entry resolve) extension := by
  obtain ⟨name, known⟩ := Option.isSome_iff_exists.mp named
  rw [withExtension_of_fileName known filled, entry_join,
    entry_of_fileName known]
  rfl

theorem withExtension_of_entry {path : FilePath} {extension : Text}
    (named : path.fileName.isSome) (filled : extension ≠ [])
    (same : changeExtension (path.entry resolve) extension =
      path.entry resolve) : path.withExtension extension = path := by
  obtain ⟨name, known⟩ := Option.isSome_iff_exists.mp named
  have last := (Option.filter_eq_some_iff.mp known).1
  have renamed : stem name ++ '.' :: extension = name := by
    rw [entry_of_fileName known] at same
    exact congrArg Prod.snd same
  rw [withExtension_of_fileName known filled, renamed]
  exact congrArg FilePath.mk (List.dropLast_append_getLast? _ last)

theorem changeExtension_changeExtension {entry : Directory × Text}
    {extension other : Text} (dotless : '.' ∉ extension)
    (filled : entry.2 ≠ []) :
    changeExtension (changeExtension entry extension) other =
      changeExtension entry other := by
  simp only [changeExtension]
  rw [stem_extension dotless (stem_ne_nil filled)]

theorem changeExtension_ne {entry other : Directory × Text}
    {front extension ending : Text} (dotless : '.' ∉ extension)
    (dotless' : '.' ∉ ending) (different : extension ≠ ending)
    (named : other.2 = front ++ '.' :: ending) :
    changeExtension entry extension ≠ other := by
  intro same
  have names := (congrArg Prod.snd same).trans named
  have texts := congrArg (Text.rsplitOnce '.') names
  rw [changeExtension, rsplitOnce_extension dotless,
    rsplitOnce_extension dotless'] at texts
  simp only [Option.some.injEq, Prod.mk.injEq] at texts
  exact different texts.2

theorem entry_ne_nil {path : FilePath} (named : path.fileName.isSome) :
    (path.entry resolve).2 ≠ [] := by
  obtain ⟨name, known⟩ := Option.isSome_iff_exists.mp named
  rw [entry_of_fileName known]
  exact ne_nil_of_fileName known

end Entries

end FilePath

end Foundation
