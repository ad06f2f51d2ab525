import CompilerLauncher.Proofs.SearchOrder
import CompilerLauncher.Proofs.Utf8Spelling
import Mathlib.Logic.Relation

/-!
# Search lists made of search lists

A separator between two lists makes one list whose search is the search of the first and, if that
comes to nothing, of the second (`onList_append_separator`). So a search of any number of joined
lists gives what the first of them gives that gives something (`onList_joined`), and all that an
entry can do in a list follows from there: one that is empty or has been listed before does nothing
(`Dispensable`), and one at the end changes nothing that is found without it (`onList_composes`).
-/

namespace CompilerLauncher

namespace Search

/-- The list that is made of the given lists, with a separator between each two. -/
def joined (lists : List Bytes) : Bytes :=
  [separator].intercalate lists

theorem joined_splitOn (list : Bytes) : joined (list.splitOn separator) = list :=
  List.intercalate_splitOn separator

theorem joined_cons_cons (list next : Bytes) (rest : List Bytes) :
    joined (list :: next :: rest) = list ++ separator :: joined (next :: rest) := by
  rw [joined, List.intercalate_cons_cons, List.append_assoc]
  rfl

/-! ## Joined lists -/

section Joined

variable {tree : FileTree} {exclude : Option Bytes} {toolName : String} {name : Bytes}

theorem onList_nil : onList tree name [] exclude toolName = none := rfl

theorem onList_append_separator (front back : Bytes) :
    onList tree name (front ++ separator :: back) exclude toolName =
      (onList tree name front exclude toolName).or (onList tree name back exclude toolName) := by
  rw [onList_eq, onList_eq, onList_eq, List.splitOn_append_cons_self, List.find?_append,
    Option.map_or]

/-- Joined lists are searched one after the other. -/
theorem onList_joined (lists : List Bytes) :
    onList tree name (joined lists) exclude toolName =
      lists.findSome? fun list => onList tree name list exclude toolName := by
  induction lists with
  | nil => rfl
  | cons list rest ih =>
    rw [List.findSome?_cons]
    cases rest with
    | nil =>
      have alone : joined [list] = list := by simp [joined]
      rw [alone, List.findSome?_nil]
      cases onList tree name list exclude toolName <;> rfl
    | cons next rest =>
      rw [joined_cons_cons, onList_append_separator, ih]
      cases onList tree name list exclude toolName <;> rfl

end Joined

/-! ## Entries that do nothing -/

/-- The first entries are the second ones and one more, which is empty or has been listed before. -/
inductive Dispensable : List Bytes → List Bytes → Prop
  | empty (before after : List Bytes) : Dispensable (before ++ [] :: after) (before ++ after)
  | repeated (before : List Bytes) (entry : Bytes) (between after : List Bytes) :
    Dispensable (before ++ entry :: (between ++ entry :: after))
      (before ++ entry :: (between ++ after))

section Dispensable

variable {tree : FileTree} {exclude : Option Bytes} {toolName : String} {name : Bytes}
  {entries others : List Bytes}

/-- An entry that is empty or has been listed before can be left out. -/
theorem Dispensable.onList_joined (dispensable : Dispensable entries others) :
    onList tree name (joined entries) exclude toolName =
      onList tree name (joined others) exclude toolName := by
  rw [Search.onList_joined, Search.onList_joined]
  cases dispensable with
  | empty before after =>
    rw [List.findSome?_append, List.findSome?_append, List.findSome?_cons, onList_nil]
  | repeated before entry between after =>
    simp only [List.findSome?_append, List.findSome?_cons]
    -- A candidate of the entry that can be taken is found where the entry is first listed.
    cases onList tree name entry exclude toolName <;> rfl

/-- Any number of such entries can be put in and left out. -/
theorem onList_joined_of_dispensable (same : Relation.EqvGen Dispensable entries others) :
    onList tree name (joined entries) exclude toolName =
      onList tree name (joined others) exclude toolName := by
  induction same with
  | rel _ _ dispensable => exact dispensable.onList_joined
  | refl => rfl
  | symm _ _ _ ih => exact ih.symm
  | trans _ _ _ _ _ first second => exact first.trans second

end Dispensable

/-- **The search of two lists with a separator between them is the search of the first and, if that
comes to nothing, of the second.** So entries that are empty or have been listed before do nothing,
wherever they are put in or left out, and entries at the end change nothing that is found without
them. -/
theorem onList_composes (tree : FileTree) (name : Bytes) (exclude : Option Bytes)
    (toolName : String) :
    (∀ front back, onList tree name (front ++ separator :: back) exclude toolName =
        (onList tree name front exclude toolName).or (onList tree name back exclude toolName)) ∧
      (∀ front back : String,
        onList tree name (Utf8.encode (front ++ ":" ++ back)) exclude toolName =
          (onList tree name (Utf8.encode front) exclude toolName).or
            (onList tree name (Utf8.encode back) exclude toolName)) ∧
      (∀ list entries, Relation.EqvGen Dispensable (list.splitOn separator) entries →
        onList tree name (joined entries) exclude toolName =
          onList tree name list exclude toolName) ∧
      ∀ list found more, onList tree name list exclude toolName = some found →
        onList tree name (joined (list :: more)) exclude toolName = some found := by
  refine ⟨onList_append_separator, ?_, ?_, ?_⟩
  · intro front back
    have spelled : Utf8.encode ":" = [separator] := by decide
    have parts : Utf8.encode (front ++ ":" ++ back) =
        Utf8.encode front ++ separator :: Utf8.encode back := by
      rw [Utf8.encode_append, Utf8.encode_append, spelled, List.append_assoc]
      rfl
    rw [parts, onList_append_separator]
  · intro list entries same
    rw [← onList_joined_of_dispensable same, joined_splitOn]
  · intro list found more searched
    rw [onList_joined, List.findSome?_cons, searched]

/-- A link to a compiler, a file that cannot be executed, and a compiler. -/
def crowded : FileTree :=
  { entries := [
      ([Utf8.encode "a"], .directory 0o755),
      ([Utf8.encode "a", Utf8.encode "cc"], .file [] 0o644),
      ([Utf8.encode "b"], .directory 0o755),
      ([Utf8.encode "b", Utf8.encode "cc"], .link (Utf8.encode "../c/cc")),
      ([Utf8.encode "c"], .directory 0o755),
      ([Utf8.encode "c", Utf8.encode "cc"], .file [] 0o755)] }

/-- Entries are left out at the front, in the middle and at the end, and others are appended. -/
theorem onList_composes_crowded :
    let entries := ["/a", "/b"].map Utf8.encode
    let list := Utf8.encode ":/a::/b:/a:"
    let name := Utf8.encode "cc"
    let found := some (Utf8.encode "/b/cc")
    Relation.EqvGen Dispensable (list.splitOn separator) entries ∧
      onList crowded name (joined entries) none Settings.defaultToolName = found ∧
      onList crowded name list none Settings.defaultToolName = found ∧
      onList crowded name (joined [list, Utf8.encode "/c", Utf8.encode "/b"]) none
        Settings.defaultToolName = found := by
  intro entries list name found
  have cut : list.splitOn separator = ["", "/a", "", "/b", "/a", ""].map Utf8.encode := by
    decide +kernel
  have same : Relation.EqvGen Dispensable (list.splitOn separator) entries := by
    rw [cut]
    refine .trans _ _ _ (.rel _ _ (.empty [] _)) ?_
    refine .trans _ _ _ (.rel _ _ (.empty [Utf8.encode "/a"] _)) ?_
    refine .trans _ _ _ (.rel _ _ (.repeated [] (Utf8.encode "/a") [Utf8.encode "/b"] _)) ?_
    exact .rel _ _ (.empty (["/a", "/b"].map Utf8.encode) [])
  have searched : onList crowded name (joined entries) none Settings.defaultToolName = found := by
    decide +kernel
  obtain ⟨-, -, edited, appended⟩ :=
    onList_composes crowded name none Settings.defaultToolName
  have whole := (edited list entries same).symm.trans searched
  exact ⟨same, searched, whole, appended list _ [Utf8.encode "/c", Utf8.encode "/b"] whole⟩

end Search

end CompilerLauncher
