import CompilerLauncher.ScriptShell
import Mathlib.Data.List.Basic

/-!
# Which targets are scripts

A target is handed to the shell because of its name or because of its content. By name it is a script
if its extension is that of scripts, each letter in either case (`hasExtension_iff`). By content it is
one if its first line starts with the marker: the look at the content ends where the marker ends, so
it cannot tell whether the line ends there as well (`isMarked_iff`).

Both triggers make the same search, and so the second finds nothing where the first has found nothing
(`interpreter?_of_listed`). The main statement, `marked_exactly_iff`, is about targets that only their
content can make scripts: those are found by the exact first line alone as long as no line goes on
behind the marker.
-/

namespace CompilerLauncher

namespace ScriptShell

/-! ## Names -/

/-- The extension of scripts in all its spellings. -/
def extensions : List Bytes :=
  ["sh", "sH", "Sh", "SH"].map Utf8.encode

/-- The path has the extension of scripts. -/
def ScriptNamed (path : Bytes) : Prop :=
  ∃ extension ∈ extensions, Path.extension? path = some extension

theorem lowerByte_eq_iff {byte letter : UInt8} (small : 97 ≤ letter ∧ letter ≤ 122) :
    Path.lowerByte byte = letter ↔ byte = letter ∨ byte = letter - 32 := by
  unfold Path.lowerByte
  split <;> grind

theorem lowered_iff {extension : Bytes} :
    extension.map Path.lowerByte = Utf8.encode "sh" ↔ extension ∈ extensions := by
  have spelled : Utf8.encode "sh" = [115, 104] := by decide
  have all : extensions = [[115, 104], [115, 72], [83, 104], [83, 72]] := by decide
  have s (byte : UInt8) : Path.lowerByte byte = 115 ↔ byte = 115 ∨ byte = 83 :=
    lowerByte_eq_iff (by decide)
  have h (byte : UInt8) : Path.lowerByte byte = 104 ↔ byte = 104 ∨ byte = 72 :=
    lowerByte_eq_iff (by decide)
  rw [spelled, all]
  match extension with
  | [] | [_] | _ :: _ :: _ :: _ => simp
  | [first, second] =>
    simp [s, h]
    grind

theorem hasExtension_iff {path : Bytes} : hasExtension path = true ↔ ScriptNamed path := by
  simp only [hasExtension, Path.hasExtension, Option.any_eq_true, beq_iff_eq, lowered_iff,
    ScriptNamed, and_comm]

/-! ## First lines -/

/-- The first line of a content: what stands before the first newline, or all if there is none. -/
def firstLine (content : Bytes) : Bytes :=
  content.takeWhile (· != newline)

/-- The part of the first line that lies within a number of bytes. -/
theorem takeWhile_take {α : Type} (wanted : α → Bool) (count : Nat) (items : List α) :
    (items.take count).takeWhile wanted = (items.takeWhile wanted).take count := by
  induction items generalizing count with
  | nil => simp
  | cons item rest ih =>
    cases count with
    | zero => simp
    | succ count =>
      rw [List.take_succ_cons, List.takeWhile_cons, List.takeWhile_cons]
      split
      · rw [List.take_succ_cons, ih]
      · rfl

/-- The look at a content finds the marker exactly if the first line starts with it. -/
theorem startsWithMarker_iff {content : Bytes} :
    startsWithMarker content = true ↔ marker <+: firstLine content := by
  rw [startsWithMarker, beq_iff_eq, takeWhile_take, List.prefix_iff_eq_take]
  exact eq_comm

theorem isMarked_iff {tree : FileTree} {path : Bytes} : isMarked tree path = true ↔
    ∃ content, tree.read path = .ok content ∧ marker <+: firstLine content := by
  unfold isMarked
  cases tree.read path with
  | error cause => simp
  | ok content => simp [startsWithMarker_iff]

/-! ## Both triggers -/

section Triggers

variable {tree : FileTree} {settings : Settings} {environment : Environment} {path content : Bytes}
  {list : String} {shell : Bytes}

/-- The two triggers make one search, so that each of them is enough and neither repairs what the
other has not found. -/
theorem interpreter?_of_listed (listed : settings.searchList? environment = some list) :
    interpreter? tree settings environment path =
      if hasExtension path || (settings.detectShebang && isMarked tree path) then
        onList tree list settings.toolName
      else none := by
  rw [interpreter?, listed, Option.bind_some]
  cases hasExtension path with
  | false => rfl
  | true => cases onList tree list settings.toolName <;> simp

/-- Without a search list there is no shell. -/
theorem interpreter?_of_unlisted (unlisted : settings.searchList? environment = none) :
    interpreter? tree settings environment path = none := by
  rw [interpreter?, unlisted, Option.bind_none]

/-- A target that its name does not make a script is run through the shell exactly if it is marked. -/
theorem interpreter?_of_unnamed (unnamed : ¬ScriptNamed path)
    (detects : settings.detectShebang = true)
    (listed : settings.searchList? environment = some list)
    (found : onList tree list settings.toolName = some shell)
    (holds : tree.read path = .ok content) :
    interpreter? tree settings environment path =
      if startsWithMarker content then some shell else none := by
  have plain : hasExtension path = false := by
    rw [← Bool.not_eq_true, hasExtension_iff]
    exact unnamed
  rw [interpreter?_of_listed listed, plain, detects, isMarked, holds, found, Bool.false_or,
    Bool.true_and]

/-- **A target that its name does not make a script is run through the shell exactly if its first
line starts with the marker.** So the exact line decides unless a line goes on behind the marker, as
that of another interpreter may; then the target is run through the shell although its first line is
not the marker. -/
theorem marked_exactly_iff (unnamed : ¬ScriptNamed path) (detects : settings.detectShebang = true)
    (listed : settings.searchList? environment = some list)
    (found : onList tree list settings.toolName = some shell)
    (holds : tree.read path = .ok content) :
    (interpreter? tree settings environment path = some shell ↔ marker <+: firstLine content) ∧
      (interpreter? tree settings environment path = none ↔ ¬marker <+: firstLine content) ∧
      (((interpreter? tree settings environment path).isSome = true ↔
          firstLine content = marker) ↔
        ∀ more, firstLine content = marker ++ more → more = []) := by
  rw [interpreter?_of_unnamed unnamed detects listed found holds]
  by_cases starts : marker <+: firstLine content
  · have marked := startsWithMarker_iff.2 starts
    obtain ⟨rest, parts⟩ := starts
    rw [← parts]
    refine ⟨by simp [marked], by simp [marked], ?_⟩
    simp [marked]
  · have unmarked := mt startsWithMarker_iff.1 starts
    refine ⟨by simp [unmarked, starts], by simp [unmarked, starts], ?_⟩
    have differs : firstLine content ≠ marker := fun same => starts (same ▸ List.prefix_rfl)
    have never (more : Bytes) : firstLine content ≠ marker ++ more :=
      fun same => starts ⟨more, same.symm⟩
    simp [unmarked, differs, never]

end Triggers

/-- A shell and a target with the given content, in one directory. -/
def beside (content : Bytes) : FileTree where
  entries :=
    [([Utf8.encode "b"], .directory 0o755),
      ([Utf8.encode "b", Utf8.encode "sh.exe"], .file [] 0o755),
      ([Utf8.encode "b", Utf8.encode "cc"], .file content 0o755)]

/-- Settings that search this directory and look for marks. -/
def looking : Settings where
  path := some "/b"
  temporaryDir := Utf8.encode "/tmp"
  detectShebang := true
  toolName := Settings.defaultToolName

/-- The script of another interpreter, whose name begins as the shell's does. -/
def otherScript : Bytes := Utf8.encode "#!/bin/shfoo\nexit 1\n"

theorem marked_exactly_iff_longer :
    let path := Utf8.encode "/b/cc"
    let tree := beside otherScript
    ¬ScriptNamed path ∧ looking.detectShebang = true ∧
      looking.searchList? (fun _ => none) = some "/b" ∧
      onList tree "/b" looking.toolName = some (Utf8.encode "/b/sh.exe") ∧
      tree.read path = .ok otherScript ∧
      interpreter? tree looking (fun _ => none) path = some (Utf8.encode "/b/sh.exe") ∧
      ¬((interpreter? tree looking (fun _ => none) path).isSome = true ↔
        firstLine otherScript = marker) := by
  intro path tree
  have unnamed : ¬ScriptNamed path := by
    rw [← hasExtension_iff]
    decide
  have listed : looking.searchList? (fun _ => none) = some "/b" := by decide
  have found : onList tree "/b" looking.toolName = some (Utf8.encode "/b/sh.exe") := by
    decide +kernel
  have holds : tree.read path = .ok otherScript := by decide +kernel
  obtain ⟨through, -, exact⟩ := marked_exactly_iff unnamed rfl listed found holds
  refine ⟨unnamed, rfl, listed, found, holds, through.2 (by decide), fun same => ?_⟩
  -- The line goes on behind the marker.
  have ends := exact.1 same (Utf8.encode "foo") (by decide)
  cases ends

/-- A target is run through the shell although its first line names another interpreter. -/
theorem longer_line_is_marked :
    (beside otherScript).read (Utf8.encode "/b/cc") = .ok otherScript ∧
      firstLine otherScript = Utf8.encode "#!/bin/shfoo" ∧ firstLine otherScript ≠ marker ∧
      interpreter? (beside otherScript) looking (fun _ => none) (Utf8.encode "/b/cc") =
        some (Utf8.encode "/b/sh.exe") := by
  decide +kernel

end ScriptShell

end CompilerLauncher
