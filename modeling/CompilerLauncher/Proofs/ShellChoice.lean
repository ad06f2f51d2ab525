import CompilerLauncher.Proofs.FileMaking
import CompilerLauncher.Proofs.ScriptDetection
import CompilerLauncher.Proofs.SearchOrder

/-!
# What the choice of a shell depends on

Two trees have the same outline if they differ in nothing but what their files hold. Paths lead to
the same places in both (`Reaches.redraw`), and a search, which looks at names, links and modes only,
finds the same in both (`onList_of_sameOutline`). So the content of files can reach the choice of a
shell through the look at the target alone, and that reads nine bytes.

`choice_of_sameOutline` says so for any two such trees, and in particular for trees that differ in the
content of the target (`sameOutline_put`). It also says that there is never another shell than the one
that the search finds.
-/

namespace CompilerLauncher

namespace FileTree

/-! ## Outlines -/

/-- The entry without what a file holds. -/
def Entry.outline : Entry → Entry
  | .file _ mode => .file [] mode
  | entry => entry

/-- The trees have the same entries, but for what their files hold. -/
structure SameOutline (first second : FileTree) : Prop where
  working : second.working = first.working
  stands : ∀ place, (second.get? place).map Entry.outline = (first.get? place).map Entry.outline

/-- What is read from an entry, if anything can be. -/
def Entry.content? : Entry → Option Bytes
  | .file data _ => some data
  | .sink => some []
  | .directory _ | .link _ => none

section Outlines

variable {first second tree : FileTree} {place goal : Place} {path content : Bytes}
  {entry other : Entry}

theorem SameOutline.symm (same : first.SameOutline second) : second.SameOutline first :=
  ⟨same.working.symm, fun place => (same.stands place).symm⟩

/-- What stands at a place has its counterpart there in a tree of the same outline. -/
theorem SameOutline.exists_stands (same : first.SameOutline second)
    (stands : first.get? place = some entry) :
    ∃ other, second.get? place = some other ∧ Entry.outline other = Entry.outline entry := by
  have outlines := same.stands place
  rw [stands, Option.map_some] at outlines
  exact Option.map_eq_some_iff.1 outlines

theorem eq_or_file_of_outline (outlines : Entry.outline other = Entry.outline entry) :
    other = entry ∨ ∃ data data' mode, entry = .file data mode ∧ other = .file data' mode := by
  cases entry <;> cases other <;> simp_all [Entry.outline]

/-- Links and directories are the same in trees of the same outline. -/
theorem SameOutline.growsTo (same : first.SameOutline second) : first.GrowsTo second := by
  refine ⟨same.working, fun {place entry} found => ?_⟩
  obtain ⟨other, stands, outlines⟩ := same.exists_stands found
  rcases eq_or_file_of_outline outlines with rfl | ⟨data, data', mode, rfl, rfl⟩
  · exact .inl stands
  · exact .inr ⟨⟨data, mode, rfl⟩, data', mode, stands⟩

/-- A path leads to the same place in a tree of the same outline, and to an entry that differs at most
in what it holds. -/
theorem Reaches.redraw (reaches : first.Reaches path goal entry) (same : first.SameOutline second) :
    ∃ other, second.Reaches path goal other ∧ Entry.outline other = Entry.outline entry := by
  obtain ⟨other, reaches'⟩ := reaches.grow same.growsTo
  refine ⟨other, reaches', ?_⟩
  obtain ⟨_, -, leads⟩ := reaches
  obtain ⟨_, -, leads'⟩ := reaches'
  have outlines := same.stands goal
  rw [leads.leads.stands, leads'.leads.stands] at outlines
  exact Option.some.inj outlines

/-- Another content in a file leaves the outline. -/
theorem sameOutline_put {data : Bytes} {mode : Nat}
    (stands : tree.get? place = some (.file data mode)) (other : Bytes) :
    tree.SameOutline (tree.put place (.file other mode)) := by
  refine ⟨rfl, fun elsewhere => ?_⟩
  by_cases there : elsewhere = place
  · subst there
    have below : elsewhere ≠ [] := by
      rintro rfl
      simp at stands
    rw [get?_put_self below, stands]
    rfl
  · rw [get?_put_of_ne there]

/-! ## What is read and what is found -/

theorem mayExecute_of_outline (outlines : Entry.outline other = Entry.outline entry) :
    Entry.mayExecute other = Entry.mayExecute entry := by
  rcases eq_or_file_of_outline outlines with rfl | ⟨_, _, _, rfl, rfl⟩ <;> rfl

theorem isSome_content_of_outline (outlines : Entry.outline other = Entry.outline entry) :
    (Entry.content? other).isSome = (Entry.content? entry).isSome := by
  rcases eq_or_file_of_outline outlines with rfl | ⟨_, _, _, rfl, rfl⟩ <;> rfl

/-- A file is read exactly if its path is not too long and leads to something that can be read. -/
theorem read_eq_ok_iff : tree.read path = .ok content ↔ path.length < pathLimit ∧
    ∃ goal entry, tree.Reaches path goal entry ∧ Entry.content? entry = some content := by
  constructor
  · intro readable
    unfold read at readable
    split at readable
    · rename_i goal data mode found
      cases readable
      obtain ⟨short, reaches⟩ := lookup_eq_ok_iff.1 found
      exact ⟨short, goal, _, reaches, rfl⟩
    · rename_i goal found
      cases readable
      obtain ⟨short, reaches⟩ := lookup_eq_ok_iff.1 found
      exact ⟨short, goal, _, reaches, rfl⟩
    · cases readable
    · cases readable
  · rintro ⟨short, goal, entry, reaches, holds⟩
    unfold read
    rw [lookup_eq_ok_iff.2 ⟨short, reaches⟩]
    cases entry <;> cases holds <;> rfl

/-- What can be read in a tree can be read in one of the same outline. -/
theorem exists_read_of_sameOutline (same : first.SameOutline second)
    (readable : first.read path = .ok content) : ∃ content', second.read path = .ok content' := by
  obtain ⟨short, goal, entry, reaches, holds⟩ := read_eq_ok_iff.1 readable
  obtain ⟨other, reaches', outlines⟩ := reaches.redraw same
  have present := isSome_content_of_outline outlines
  rw [holds] at present
  obtain ⟨content', holds'⟩ := Option.isSome_iff_exists.1 present
  exact ⟨content', read_eq_ok_iff.2 ⟨short, goal, other, reaches', holds'⟩⟩

end Outlines

end FileTree

namespace Search

variable {first second : FileTree} {exclude : Option Bytes} {toolName : String}
  {candidate : Bytes}

/-- Whether a candidate may be taken does not depend on what files hold. -/
theorem Acceptable.redraw (acceptable : Acceptable first exclude toolName candidate)
    (same : first.SameOutline second) : Acceptable second exclude toolName candidate := by
  obtain ⟨goal, entry, suits⟩ := acceptable
  obtain ⟨other, reaches, outlines⟩ := suits.reaches.redraw same
  refine ⟨goal, other, reaches, suits.short, ?_, ?_, suits.unowned⟩
  · rw [FileTree.mayExecute_of_outline outlines]
    exact suits.executable
  · intro own place stands excluded leads
    obtain ⟨_, leads', -⟩ := leads.redraw same.symm
    exact suits.foreign own place _ excluded leads'

/-- A search finds the same in trees of the same outline. -/
theorem onList_of_sameOutline (same : first.SameOutline second) (name list : Bytes)
    (exclude : Option Bytes) (toolName : String) :
    onList first name list exclude toolName = onList second name list exclude toolName := by
  have agree : accepts first exclude toolName = accepts second exclude toolName := by
    funext candidate
    rw [Bool.eq_iff_iff, accepts_iff, accepts_iff]
    exact ⟨fun taken => taken.redraw same, fun taken => taken.redraw same.symm⟩
  rw [onList, onList, agree]

end Search

namespace ScriptShell

variable {first second : FileTree} {path : Bytes}

/-- The look at the targets of two trees sees the same if it does so within nine bytes. -/
theorem isMarked_of_sameOutline (same : first.SameOutline second)
    (agree : ∀ content content', first.read path = .ok content →
      second.read path = .ok content' → content.take 9 = content'.take 9) :
    isMarked first path = isMarked second path := by
  have width : marker.length = 9 := by decide
  cases readable : first.read path with
  | ok content =>
    obtain ⟨content', readable'⟩ := FileTree.exists_read_of_sameOutline same readable
    simp only [isMarked, readable, readable', startsWithMarker, width,
      agree content content' readable readable']
  | error cause =>
    cases readable' : second.read path with
    | error cause' => simp only [isMarked, readable, readable']
    | ok content' =>
      obtain ⟨content, found⟩ := FileTree.exists_read_of_sameOutline same.symm readable'
      rw [readable] at found
      cases found

/-- **What files hold cannot choose the shell.** In two trees that differ only in the content of files
the same shell is chosen for a target, if that is a script by its name, or its content is not looked
at, or the contents agree on their first nine bytes. In every tree it is the shell that the search
list gives, or none is used; a script by its name gets what the search gives, even if that is none. -/
theorem choice_of_sameOutline (same : first.SameOutline second) (settings : Settings)
    (environment : Environment) (path : Bytes) :
    (ScriptNamed path ∨ settings.detectShebang = false ∨
        (∀ content content', first.read path = .ok content → second.read path = .ok content' →
          content.take 9 = content'.take 9) →
      interpreter? first settings environment path =
        interpreter? second settings environment path) ∧
      ∀ tree, let searched := (settings.searchList? environment).bind fun list =>
          Search.onList tree (Utf8.encode "sh.exe") (Utf8.encode list) none settings.toolName
        (interpreter? tree settings environment path = none ∨
            interpreter? tree settings environment path = searched) ∧
          (ScriptNamed path → interpreter? tree settings environment path = searched) := by
  cases listed : settings.searchList? environment with
  | none => simp [interpreter?_of_unlisted listed]
  | some list =>
    refine ⟨fun unseen => ?_, fun tree => ?_⟩
    · have found : onList first list settings.toolName = onList second list settings.toolName :=
        Search.onList_of_sameOutline same _ _ _ _
      rw [interpreter?_of_listed listed, interpreter?_of_listed listed, found]
      rcases unseen with named | ignored | agree
      · rw [hasExtension_iff.2 named, Bool.true_or, Bool.true_or]
      · rw [ignored, Bool.false_and, Bool.false_and]
      · rw [isMarked_of_sameOutline same agree]
    · rw [interpreter?_of_listed listed]
      refine ⟨?_, fun named => ?_⟩
      · split
        · exact .inr rfl
        · exact .inl rfl
      · rw [hasExtension_iff.2 named, Bool.true_or, if_pos rfl]
        rfl

/-- The target's content is replaced by one that goes on otherwise behind the ninth byte. -/
theorem choice_of_sameOutline_rewritten :
    let path := Utf8.encode "/b/cc"
    let script := Utf8.encode "#!/bin/sh\nexit 1\n"
    let second := (beside script).put [Utf8.encode "b", Utf8.encode "cc"] (.file otherScript 0o755)
    (beside script).SameOutline second ∧ (beside script).read path = .ok script ∧
      second.read path = .ok otherScript ∧ script ≠ otherScript ∧
      script.take 9 = otherScript.take 9 ∧
      interpreter? (beside script) looking (fun _ => none) path =
        interpreter? second looking (fun _ => none) path ∧
      interpreter? second looking (fun _ => none) path = some (Utf8.encode "/b/sh.exe") := by
  intro path script second
  have stands : (beside script).get? [Utf8.encode "b", Utf8.encode "cc"] =
      some (.file script 0o755) := by decide +kernel
  have same : (beside script).SameOutline second := FileTree.sameOutline_put stands otherScript
  have reads : (beside script).read path = .ok script := by decide +kernel
  have reads' : second.read path = .ok otherScript := by decide +kernel
  have begins : script.take 9 = otherScript.take 9 := by decide
  have differs : script ≠ otherScript := by decide
  have chosen : interpreter? second looking (fun _ => none) path =
      some (Utf8.encode "/b/sh.exe") := by decide +kernel
  refine ⟨same, reads, reads', differs, begins, ?_, chosen⟩
  apply (choice_of_sameOutline same looking (fun _ => none) path).1
  refine .inr (.inr fun content content' read read' => ?_)
  cases reads.symm.trans read
  cases reads'.symm.trans read'
  exact begins

end ScriptShell

end CompilerLauncher
