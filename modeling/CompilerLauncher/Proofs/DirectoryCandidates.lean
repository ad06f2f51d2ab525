import CompilerLauncher.Process.Image
import CompilerLauncher.Proofs.SearchOrder

/-!
# Directories among the candidates

A candidate may be taken only if its mode allows execution, and a directory's always does: there it
allows passing through. So a search finds a file that may be executed, or a directory
(`Acceptable.runnable_or_isDirectory`), and a directory cannot be loaded as an image
(`Image.load_ne_ok_of_isDirectory`).

`Search.fileOnList` is the search that passes over directories. The two searches differ exactly if a
directory is the first acceptable candidate of the list (`DirectoryFirst`), and then a compiler
further on is hidden by it (`found_runnable_iff`).
-/

namespace CompilerLauncher

namespace FileTree

variable {tree : FileTree} {path : Bytes}

/-! ## What a path leads to -/

/-- The path leads to a file whose mode lets somebody execute it. -/
def Runnable (tree : FileTree) (path : Bytes) : Prop :=
  ∃ goal data mode, tree.Reaches path goal (.file data mode) ∧ mode &&& 0o111 ≠ 0

/-- The path leads to a directory. -/
def IsDirectory (tree : FileTree) (path : Bytes) : Prop :=
  ∃ goal mode, tree.Reaches path goal (.directory mode)

/-- Whether the path leads to a file. -/
def isFile (tree : FileTree) (path : Bytes) : Bool :=
  match tree.lookup path with
  | .ok (_, .file ..) => true
  | _ => false

theorem not_runnable_of_isDirectory (directory : tree.IsDirectory path) : ¬tree.Runnable path := by
  rintro ⟨_, _, _, file, -⟩
  obtain ⟨_, _, reaches⟩ := directory
  cases (file.unique reaches).2

end FileTree

namespace Image

variable {tree : FileTree} {path : Bytes}

theorem executable_of_runnable (short : path.length < FileTree.pathLimit)
    (runnable : tree.Runnable path) : ∃ content, executable tree path = .ok content := by
  obtain ⟨goal, data, mode, reaches, executes⟩ := runnable
  have may : FileTree.Entry.mayExecute (.file data mode) = true := bne_iff_ne.2 executes
  refine ⟨data, ?_⟩
  simp only [executable, FileTree.lookup_eq_ok_iff.2 ⟨short, reaches⟩, may, if_true]

theorem executable_of_isDirectory (short : path.length < FileTree.pathLimit)
    (directory : tree.IsDirectory path) : executable tree path = .error .accessDenied := by
  obtain ⟨goal, mode, reaches⟩ := directory
  simp only [executable, FileTree.lookup_eq_ok_iff.2 ⟨short, reaches⟩]

/-- A directory is loaded as no image, whatever the arguments are. -/
theorem load_ne_ok_of_isDirectory (short : path.length < FileTree.pathLimit)
    (directory : tree.IsDirectory path) (arguments : List Bytes) (image : Image) :
    load tree path arguments ≠ .ok image := by
  intro loaded
  rw [load] at loaded
  split at loaded
  · cases loaded
  split at loaded
  · cases loaded
  · rw [loadThrough, executable_of_isDirectory short directory] at loaded
    cases loaded

end Image

namespace Search

/-! ## Two searches -/

/-- The first candidate on a search list that may be taken and is a file. -/
def fileOnList (tree : FileTree) (name list : Bytes) (exclude : Option Bytes) (toolName : String) :
    Option Bytes :=
  (candidates list name).find? fun candidate =>
    accepts tree exclude toolName candidate && tree.isFile candidate

/-- The first acceptable candidate of the list is a directory. -/
def DirectoryFirst (tree : FileTree) (name list : Bytes) (exclude : Option Bytes)
    (toolName : String) : Prop :=
  ∃ before entry after, list.splitOn separator = before ++ entry :: after ∧ entry ≠ [] ∧
    Acceptable tree exclude toolName (Path.join entry name) ∧
    tree.IsDirectory (Path.join entry name) ∧
    ∀ earlier ∈ before, earlier ≠ [] → ¬Acceptable tree exclude toolName (Path.join earlier name)

variable {tree : FileTree} {exclude : Option Bytes} {toolName : String}
  {name list candidate found : Bytes}

/-- A search with one more condition gives the same exactly if what is found meets it. -/
theorem find?_eq_find?_and_iff {α : Type} {wanted condition : α → Bool} {among : List α} :
    among.find? wanted = among.find? (fun one => wanted one && condition one) ↔
      ∀ one, among.find? wanted = some one → condition one = true := by
  constructor
  · intro same one first
    rw [same] at first
    have both := List.find?_some first
    rw [Bool.and_eq_true] at both
    exact both.2
  · intro meets
    cases first : among.find? wanted with
    | none =>
      symm
      rw [List.find?_eq_none] at first ⊢
      intro one member both
      rw [Bool.and_eq_true] at both
      exact first one member both.1
    | some one =>
      symm
      obtain ⟨wants, before, after, parts, passed⟩ := List.find?_eq_some_iff_append.1 first
      refine List.find?_eq_some_iff_append.2 ⟨?_, before, after, parts, ?_⟩
      · rw [wants, meets one first]
        rfl
      · intro earlier member
        have unwanted : wanted earlier = false := by simpa using passed earlier member
        rw [unwanted]
        rfl

/-- A candidate that may be taken is a file that may be executed, or a directory. -/
theorem Acceptable.runnable_or_isDirectory
    (acceptable : Acceptable tree exclude toolName candidate) :
    candidate.length < FileTree.pathLimit ∧
      (tree.Runnable candidate ∨ tree.IsDirectory candidate) := by
  obtain ⟨goal, entry, suits⟩ := acceptable
  refine ⟨suits.short, ?_⟩
  have reaches := suits.reaches
  have executes := suits.executable
  cases entry with
  | file data mode => exact .inl ⟨goal, data, mode, reaches, bne_iff_ne.1 executes⟩
  | directory mode => exact .inr ⟨goal, mode, reaches⟩
  | link | sink => cases executes

theorem Acceptable.isFile_iff (acceptable : Acceptable tree exclude toolName candidate) :
    tree.isFile candidate = true ↔ ¬tree.IsDirectory candidate := by
  obtain ⟨short, runnable | directory⟩ := acceptable.runnable_or_isDirectory
  · have file : tree.isFile candidate = true := by
      obtain ⟨_, _, _, reaches, -⟩ := runnable
      simp only [FileTree.isFile, FileTree.lookup_eq_ok_iff.2 ⟨short, reaches⟩]
    exact iff_of_true file fun directory => FileTree.not_runnable_of_isDirectory directory runnable
  · have other : tree.isFile candidate ≠ true := by
      obtain ⟨_, _, reaches⟩ := directory
      simp [FileTree.isFile, FileTree.lookup_eq_ok_iff.2 ⟨short, reaches⟩]
    exact iff_of_false other fun none => none directory

theorem directoryFirst_iff : DirectoryFirst tree name list exclude toolName ↔
    ∃ found, onList tree name list exclude toolName = some found ∧ tree.IsDirectory found := by
  constructor
  · rintro ⟨before, entry, after, parts, nonempty, acceptable, directory, rejected⟩
    exact ⟨Path.join entry name, onList_eq_some_iff.2
      ⟨before, entry, after, parts, nonempty, rfl, acceptable, rejected⟩, directory⟩
  · rintro ⟨_, searched, directory⟩
    obtain ⟨before, entry, after, parts, nonempty, rfl, acceptable, rejected⟩ :=
      onList_eq_some_iff.1 searched
    exact ⟨before, entry, after, parts, nonempty, acceptable, directory, rejected⟩

/-- The two searches agree exactly if no directory is the first acceptable candidate. -/
theorem onList_eq_fileOnList_iff :
    onList tree name list exclude toolName = fileOnList tree name list exclude toolName ↔
      ¬DirectoryFirst tree name list exclude toolName := by
  rw [onList, fileOnList, find?_eq_find?_and_iff, directoryFirst_iff]
  constructor
  · rintro files ⟨found, searched, directory⟩
    exact (acceptable_of_onList searched).isFile_iff.1 (files found searched) directory
  · intro none found searched
    exact (acceptable_of_onList searched).isFile_iff.2 fun directory =>
      none ⟨found, searched, directory⟩

/-- **What a search finds is a file that may be executed, exactly if no directory is the first
acceptable candidate of the list.** If one is, it is found, it cannot be loaded as an image, and a
search that passes over directories gives something else. -/
theorem found_runnable_iff (tree : FileTree) (name list : Bytes) (exclude : Option Bytes)
    (toolName : String) :
    ((∀ found, onList tree name list exclude toolName = some found → tree.Runnable found) ↔
        ¬DirectoryFirst tree name list exclude toolName) ∧
      (onList tree name list exclude toolName = fileOnList tree name list exclude toolName ↔
        ¬DirectoryFirst tree name list exclude toolName) ∧
      ∀ found, onList tree name list exclude toolName = some found →
        (tree.Runnable found ∧ ∃ content, Image.executable tree found = .ok content) ∨
          (tree.IsDirectory found ∧ ¬tree.Runnable found ∧
            ∀ arguments image, Image.load tree found arguments ≠ .ok image) := by
  refine ⟨?_, onList_eq_fileOnList_iff, ?_⟩
  · rw [directoryFirst_iff]
    constructor
    · rintro runs ⟨found, searched, directory⟩
      exact FileTree.not_runnable_of_isDirectory directory (runs found searched)
    · intro none found searched
      obtain ⟨-, runnable | directory⟩ := (acceptable_of_onList searched).runnable_or_isDirectory
      · exact runnable
      · exact absurd ⟨found, searched, directory⟩ none
  · intro found searched
    obtain ⟨short, runnable | directory⟩ := (acceptable_of_onList searched).runnable_or_isDirectory
    · exact .inl ⟨runnable, Image.executable_of_runnable short runnable⟩
    · exact .inr ⟨directory, FileTree.not_runnable_of_isDirectory directory,
        Image.load_ne_ok_of_isDirectory short directory⟩

/-- The directory that is searched first holds a directory of the compiler's name, the other one the
compiler. -/
def shadowed : FileTree :=
  { entries := [
      ([Utf8.encode "a"], .directory 0o755),
      ([Utf8.encode "a", Utf8.encode "cc"], .directory 0o755),
      ([Utf8.encode "b"], .directory 0o755),
      ([Utf8.encode "b", Utf8.encode "cc"], .file [] 0o755)] }

/-- With the compiler's directory in front, the compiler is found, and it is a file. -/
theorem found_runnable_iff_behind :
    let found := Utf8.encode "/b/cc"
    onList shadowed (Utf8.encode "cc") (Utf8.encode "/b:/a") none Settings.defaultToolName =
        some found ∧
      shadowed.Runnable found ∧ (∃ content, Image.executable shadowed found = .ok content) ∧
      ¬DirectoryFirst shadowed (Utf8.encode "cc") (Utf8.encode "/b:/a") none
        Settings.defaultToolName := by
  intro found
  have searched : onList shadowed (Utf8.encode "cc") (Utf8.encode "/b:/a") none
      Settings.defaultToolName = some found := by decide +kernel
  have file : shadowed.isFile found = true := by decide +kernel
  obtain ⟨runs, -, finds⟩ := found_runnable_iff shadowed (Utf8.encode "cc") (Utf8.encode "/b:/a")
    none Settings.defaultToolName
  have notDirectory := (acceptable_of_onList searched).isFile_iff.1 file
  rcases finds found searched with ⟨runnable, executable⟩ | ⟨directory, -⟩
  · refine ⟨searched, runnable, executable, runs.1 ?_⟩
    intro other again
    rw [searched] at again
    cases again
    exact runnable
  · exact absurd directory notDirectory

/-- With the other one in front, a directory is found, and the compiler is hidden by it. -/
theorem directory_hides_compiler :
    let shadow := Utf8.encode "/a/cc"
    let compiler := Utf8.encode "/b/cc"
    onList shadowed (Utf8.encode "cc") (Utf8.encode "/a:/b") none Settings.defaultToolName =
        some shadow ∧
      shadowed.IsDirectory shadow ∧ ¬shadowed.Runnable shadow ∧
      Image.executable shadowed shadow = .error .accessDenied ∧
      onList shadowed (Utf8.encode "cc") (Utf8.encode "/b") none Settings.defaultToolName =
        some compiler ∧
      shadowed.Runnable compiler := by
  intro shadow compiler
  have directory : shadowed.IsDirectory shadow :=
    ⟨[Utf8.encode "a", Utf8.encode "cc"], 0o755, FileTree.resolve_found_iff.1 (by decide +kernel)⟩
  have runnable : shadowed.Runnable compiler :=
    ⟨[Utf8.encode "b", Utf8.encode "cc"], [], 0o755,
      FileTree.resolve_found_iff.1 (by decide +kernel), by decide⟩
  refine ⟨by decide +kernel, directory, FileTree.not_runnable_of_isDirectory directory, ?_,
    by decide +kernel, runnable⟩
  exact Image.executable_of_isDirectory (by decide) directory

end Search

end CompilerLauncher
