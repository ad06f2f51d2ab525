import CompilerLauncher.Proofs.PathFollowing
import CompilerLauncher.Search

/-!
# The first acceptable candidate

`Search.Acceptable` says when a candidate may be taken, by where its path leads: to something that
may be executed, and neither to where the excluded path leads nor to one of the launcher's own
programs. `Search.accepts` decides it (`accepts_iff`), and a search gives the first acceptable
candidate in the order of the list and nothing else (`onList_eq_some_iff`, `onList_eq_none_iff`).
-/

namespace CompilerLauncher

/-- The fields of a byte string are what lies between its separators. -/
theorem Path.fields_eq_splitOn (separator : UInt8) (bytes : Bytes) :
    Path.fields separator bytes = bytes.splitOn separator := by
  induction bytes with
  | nil => rfl
  | cons byte rest ih =>
    rw [fields_cons, ih, List.splitOn, List.splitOn, List.splitOnP_cons_eq_if_modifyHead]
    by_cases cut : byte = separator
    · simp [fieldsStep, cut]
    · cases later : List.splitOnP (· == separator) rest with
      | nil => exact absurd later (List.splitOnP_ne_nil _ _)
      | cons first others => simp [fieldsStep, cut]

namespace Search

/-- The file name of the path, read as a text, starts with the launcher's name. -/
def OwnName (toolName : String) (path : Bytes) : Prop :=
  ∃ name, Path.fileName? path = some name ∧ toolName.toList <+: (Utf8.lossy name).toList

/-- The candidate leads to the entry at the goal, and this is a program that may be taken: it can be
executed, its canonical path is not the excluded one's, and it is not named as the launcher's own
programs are. -/
structure Suits (tree : FileTree) (exclude : Option Bytes) (toolName : String) (candidate : Bytes)
    (goal : Place) (entry : Entry) : Prop where
  reaches : tree.Reaches candidate goal entry
  short : candidate.length < FileTree.pathLimit
  executable : FileTree.Entry.mayExecute entry = true
  foreign : ∀ own place stands, exclude = some own → tree.Reaches own place stands →
    FileTree.pathOf goal ≠ FileTree.pathOf place
  unowned : ¬OwnName toolName (FileTree.pathOf goal)

/-- The candidate leads to a program that may be taken. -/
def Acceptable (tree : FileTree) (exclude : Option Bytes) (toolName : String) (candidate : Bytes) :
    Prop :=
  ∃ goal entry, Suits tree exclude toolName candidate goal entry

variable {tree : FileTree} {exclude : Option Bytes} {toolName : String}
  {path candidate name list found : Bytes} {goal : Place} {entry : Entry}

theorem isOwn_iff : isOwn toolName path = true ↔ OwnName toolName path := by
  simp only [isOwn, OwnName, Option.any_eq_true, List.isPrefixOf_iff_prefix]

/-- The excluded path has no canonical form, or another one than the goal. -/
theorem excluded_ne_iff : exclude.bind tree.canonical? ≠ some (FileTree.pathOf goal) ↔
    ∀ own place stands, exclude = some own → tree.Reaches own place stands →
      FileTree.pathOf goal ≠ FileTree.pathOf place := by
  constructor
  · rintro differs own place stands rfl reaches same
    exact differs (FileTree.canonical?_eq_some_iff.2 ⟨place, stands, reaches, same.symm⟩)
  · intro foreign same
    obtain ⟨own, given, canonical⟩ := Option.bind_eq_some_iff.1 same
    obtain ⟨place, stands, reaches, equal⟩ := FileTree.canonical?_eq_some_iff.1 canonical
    exact foreign own place stands given reaches equal.symm

/-- A candidate that leads somewhere is judged by its mode and by the path of its goal. -/
theorem accepts_of_reaches (reaches : tree.Reaches candidate goal entry) :
    accepts tree exclude toolName candidate =
      (tree.isExecutable candidate && (exclude.bind tree.canonical? != some (FileTree.pathOf goal) &&
        !isOwn toolName (FileTree.pathOf goal))) := by
  rw [accepts, FileTree.canonical?_eq_some_iff.2 ⟨goal, entry, reaches, rfl⟩]

theorem accepts_iff :
    accepts tree exclude toolName candidate = true ↔ Acceptable tree exclude toolName candidate := by
  constructor
  · intro accepted
    have executable : tree.isExecutable candidate = true := by
      rw [accepts, Bool.and_eq_true] at accepted
      exact accepted.1
    obtain ⟨short, goal, entry, reaches, executable⟩ := FileTree.isExecutable_iff.1 executable
    rw [accepts_of_reaches reaches] at accepted
    simp only [Bool.and_eq_true, bne_iff_ne, Bool.not_eq_true', Bool.eq_false_iff] at accepted
    obtain ⟨-, differs, unowned⟩ := accepted
    exact ⟨goal, entry, reaches, short, executable, excluded_ne_iff.1 differs,
      fun own => unowned (isOwn_iff.2 own)⟩
  · rintro ⟨goal, entry, reaches, short, executable, foreign, unowned⟩
    rw [accepts_of_reaches reaches]
    simp only [Bool.and_eq_true, bne_iff_ne, Bool.not_eq_true', Bool.eq_false_iff]
    exact ⟨FileTree.isExecutable_iff.2 ⟨short, goal, entry, reaches, executable⟩,
      excluded_ne_iff.2 foreign, fun own => unowned (isOwn_iff.1 own)⟩

/-! ## The order of the list -/

/-- The answer is the candidate of the first entry that is not empty and whose candidate is
accepted. -/
theorem onList_eq (tree : FileTree) (name list : Bytes) (exclude : Option Bytes)
    (toolName : String) : onList tree name list exclude toolName =
      ((list.splitOn separator).find? fun directory =>
        directory != [] && accepts tree exclude toolName (Path.join directory name)).map
          fun directory => Path.join directory name := by
  rw [onList, candidates, directories, Path.fields_eq_splitOn, List.find?_map, List.find?_filter]
  simp only [Function.comp_apply, Bool.decide_and, Bool.decide_eq_true]

/-- **A search finds a path exactly if that is the candidate of an entry of the list that is not
empty, it is acceptable, and the candidate of no earlier entry is.** -/
theorem onList_eq_some_iff : onList tree name list exclude toolName = some found ↔
    ∃ before directory after, list.splitOn separator = before ++ directory :: after ∧
      directory ≠ [] ∧ Path.join directory name = found ∧
      Acceptable tree exclude toolName found ∧
      ∀ earlier ∈ before, earlier ≠ [] →
        ¬Acceptable tree exclude toolName (Path.join earlier name) := by
  rw [onList_eq, Option.map_eq_some_iff]
  simp only [List.find?_eq_some_iff_append, Bool.and_eq_true, bne_iff_ne, accepts_iff,
    Bool.not_eq_true', ← Bool.not_eq_true, not_and]
  constructor
  · rintro ⟨directory, ⟨⟨nonempty, acceptable⟩, before, after, cut, rejected⟩, rfl⟩
    exact ⟨before, directory, after, cut, nonempty, rfl, acceptable, rejected⟩
  · rintro ⟨before, directory, after, cut, nonempty, rfl, acceptable, rejected⟩
    exact ⟨directory, ⟨⟨nonempty, acceptable⟩, before, after, cut, rejected⟩, rfl⟩

/-- What a search finds is acceptable. -/
theorem acceptable_of_onList (searched : onList tree name list exclude toolName = some found) :
    Acceptable tree exclude toolName found := by
  obtain ⟨_, _, _, -, -, -, acceptable, -⟩ := onList_eq_some_iff.1 searched
  exact acceptable

/-- A search finds nothing exactly if no entry of the list has an acceptable candidate. -/
theorem onList_eq_none_iff : onList tree name list exclude toolName = none ↔
    ∀ directory ∈ list.splitOn separator, directory ≠ [] →
      ¬Acceptable tree exclude toolName (Path.join directory name) := by
  rw [onList_eq, Option.map_eq_none_iff, List.find?_eq_none]
  simp only [Bool.and_eq_true, bne_iff_ne, accepts_iff, not_and]

end Search

end CompilerLauncher
