import CompilerLauncher.Proofs.ApplicationPath
import CompilerLauncher.Proofs.ScriptDetection
import CompilerLauncher.Proofs.Utf8Pieces

/-!
# One suffix is enough

A program is started under its own path if the path has one of the extensions that can be started,
in whatever letters, and otherwise with the usual extension behind it. The path that comes of it has
such an extension, so that nothing is added a second time (`application_settled`).

Two tests look at extensions. The one for scripts knows the letters a to z only; the one for what can
be started makes a text small by the rules of all scripts of the world. What these rules do is
described by `Lowering`, and for the extensions in question they come to the same
(`lower_lossy_eq_iff`).
-/

namespace CompilerLauncher

namespace CommandLine

open Utf8 (encode lossy)

/-! ## Small letters -/

/-- The sign for kelvin, a capital letter whose small form is the letter k. -/
def kelvinSign : Char := '\u212A'

/-- The function makes a text small: each of the first 128 characters as usual; and of any other
character, except the sign for kelvin, something stays that is not one of them. -/
structure Lowering (lower : String → String) : Prop where
  ascii : ∀ text : String, (∀ character ∈ text.toList, character.toNat < 0x80) →
    lower text = text.map Char.toLower
  beyond : ∀ text : String, ∀ character ∈ text.toList, 0x80 ≤ character.toNat →
    character ≠ kelvinSign → ∃ small ∈ (lower text).toList, 0x80 ≤ small.toNat
  kelvin : ∀ text : String, kelvinSign ∈ text.toList → 'k' ∈ (lower text).toList

/-- A character of the first 128 is spelled by one byte. -/
theorem utf8EncodeChar_ascii {character : Char} (small : character.toNat < 0x80) :
    String.utf8EncodeChar character = [UInt8.ofNat character.toNat] := by
  rw [Utf8.utf8EncodeChar_eq]
  exact if_pos (Nat.le_of_lt_succ small)

theorem toLower_ascii : ∀ number < 0x80, (Char.ofNat number).toLower.toNat < 0x80 ∧
    UInt8.ofNat (Char.ofNat number).toLower.toNat = Path.lowerByte (UInt8.ofNat number) := by
  decide

/-- The spelling of a small text. -/
theorem encode_map_toLower {text : String}
    (ascii : ∀ character ∈ text.toList, character.toNat < 0x80) :
    encode (text.map Char.toLower) = (encode text).map Path.lowerByte := by
  rw [encode, encode, String.toList_map, List.flatMap_map, List.map_flatMap]
  refine List.flatMap_congr fun character member => ?_
  have small := ascii character member
  obtain ⟨lowered, byte⟩ := toLower_ascii character.toNat small
  rw [Char.ofNat_toNat] at lowered byte
  rw [utf8EncodeChar_ascii small, utf8EncodeChar_ascii lowered, byte]
  rfl

/-- Bytes of the first 128 are read as that many characters of the first 128. -/
theorem ascii_lossy {bytes : Bytes} (small : ∀ byte ∈ bytes, byte.toNat < 0x80) :
    ∀ character ∈ (lossy bytes).toList, character.toNat < 0x80 := by
  induction bytes with
  | nil => exact nofun
  | cons byte rest ih =>
    obtain ⟨first, later⟩ := List.forall_mem_cons.1 small
    rw [Utf8.lossy_cons_ascii first, String.toList_append, String.toList_ofList]
    refine List.forall_mem_cons.2 ⟨?_, ih later⟩
    rcases Utf8.toNat_ofNat_or byte.toNat with own | zero <;> omega

theorem small_of_lowerByte {byte : UInt8} (small : (Path.lowerByte byte).toNat < 0x80) :
    byte.toNat < 0x80 := by
  unfold Path.lowerByte at small
  split at small
  · rename_i capital
    have most : byte.toNat ≤ 90 := UInt8.le_iff_toNat_le.1 capital.2
    omega
  · exact small

/-- A text of the first 128 characters without the letter k is what an extension becomes as a text
exactly if it is what it becomes byte by byte. -/
theorem lower_lossy_eq_iff {lower : String → String} (lowering : Lowering lower)
    {extension : String} (ascii : ∀ character ∈ extension.toList, character.toNat < 0x80)
    (absent : 'k' ∉ extension.toList) (found : Bytes) :
    lower (lossy found) = extension ↔ found.map Path.lowerByte = encode extension := by
  constructor
  · intro same
    have read : ∀ character ∈ (lossy found).toList, character.toNat < 0x80 := by
      intro character member
      by_contra large
      by_cases sign : character = kelvinSign
      · exact absent (same ▸ lowering.kelvin _ (sign ▸ member))
      · obtain ⟨rest, kept, beyond⟩ :=
          lowering.beyond _ character member (Nat.not_lt.1 large) sign
        exact absurd (ascii rest (same ▸ kept)) (Nat.not_lt.2 beyond)
    have whole : encode (lossy found) = found :=
      Utf8.encode_lossy_of_notMem fun member => absurd (read _ member) (by decide)
    rw [← same, lowering.ascii _ read, encode_map_toLower read, whole]
  · intro same
    have small : ∀ byte ∈ found, byte.toNat < 0x80 := by
      intro byte member
      have lowered : Path.lowerByte byte ∈ encode extension :=
        same ▸ List.mem_map_of_mem member
      obtain ⟨character, listed, spelled⟩ := List.mem_flatMap.1 lowered
      have few := ascii character listed
      rw [utf8EncodeChar_ascii few, List.mem_singleton] at spelled
      refine small_of_lowerByte ?_
      rw [spelled, Utf8.toNat_ofNat_of_lt (by omega)]
      exact few
    have read := ascii_lossy small
    have whole : encode (lossy found) = found :=
      Utf8.encode_lossy_of_notMem fun member => absurd (read _ member) (by decide)
    have spelled : encode (lower (lossy found)) = encode extension := by
      rw [lowering.ascii _ read, encode_map_toLower read, whole, same]
    rw [← Utf8.lossy_encode (lower _), spelled, Utf8.lossy_encode]

/-! ## Paths that can be started -/

/-- The path has an extension that can be started, when it is made small. -/
def Startable (lower : String → String) (path : String) : Prop :=
  ∃ found, Path.extension? (encode path) = some found ∧ lower (lossy found) ∈ startable

theorem letters_startable : ∀ extension ∈ startable,
    (∀ character ∈ extension.toList, character.toNat < 0x80) ∧ 'k' ∉ extension.toList := by
  have letters : ∀ extension ∈ startable,
      extension.toList.all (·.toNat < 0x80) = true ∧ 'k' ∉ extension.toList := by
    decide
  intro extension member
  obtain ⟨ascii, absent⟩ := letters extension member
  exact ⟨by simpa using ascii, absent⟩

theorem startable_iff {lower : String → String} (lowering : Lowering lower) {path : String} :
    Startable lower path ↔ startable.any (Path.hasExtension (encode path)) = true := by
  have each (extension : String) (member : extension ∈ startable) (found : Bytes) :
      lower (lossy found) = extension ↔ found.map Path.lowerByte = encode extension := by
    obtain ⟨ascii, absent⟩ := letters_startable extension member
    exact lower_lossy_eq_iff lowering ascii absent found
  simp only [List.any_eq_true, Path.hasExtension, Option.any_eq_true, beq_iff_eq]
  constructor
  · rintro ⟨found, has, member⟩
    exact ⟨_, member, found, has, (each _ member found).1 rfl⟩
  · rintro ⟨extension, member, found, has, same⟩
    exact ⟨found, has, (each extension member found).2 same ▸ member⟩

section Suffix

variable {lower : String → String} {path : String}

/-- A path that does not end in a slash ends in a byte of a name. -/
theorem exists_last (named : path ≠ "") (openEnded : path.toList.getLast? ≠ some '/') :
    ∃ front last, encode path = front ++ [last] ∧ last ≠ Path.slash := by
  have nonempty : encode path ≠ [] := by
    intro empty
    apply named
    rw [← Utf8.lossy_encode path, empty]
    rfl
  refine ⟨_, _, (List.dropLast_append_getLast nonempty).symm, fun slash => openEnded ?_⟩
  have spelled := List.dropLast_append_getLast nonempty
  rw [slash] at spelled
  have small : Path.slash.toNat < 0x80 := by decide
  rw [← Utf8.lossy_encode path, ← spelled, Utf8.lossy_append _ small, Utf8.lossy_cons_ascii small]
  simp
  decide

/-- The path with the usual extension behind it has that extension. -/
theorem extension?_suffixed (named : path ≠ "") (openEnded : path.toList.getLast? ≠ some '/') :
    Path.extension? (encode (path ++ ".exe")) = some (encode "exe") := by
  obtain ⟨front, last, spelled, differs⟩ := exists_last named openEnded
  have bytes : encode (path ++ ".exe") = front ++ last :: Path.dot :: encode "exe" := by
    rw [Utf8.encode_append, spelled, List.append_assoc]
    rfl
  rw [bytes]
  exact Path.extension?_append (by decide) (by decide) rfl differs front

theorem startable_suffixed (lowering : Lowering lower) (named : path ≠ "")
    (openEnded : path.toList.getLast? ≠ some '/') : Startable lower (path ++ ".exe") := by
  refine ⟨_, extension?_suffixed named openEnded, ?_⟩
  obtain ⟨ascii, absent⟩ := letters_startable "exe" (by decide)
  have small : lower (lossy (encode "exe")) = "exe" :=
    (lower_lossy_eq_iff lowering ascii absent _).2 (by decide)
  rw [small]
  decide

theorem application_of_startable (lowering : Lowering lower) (startable : Startable lower path) :
    application path = path := by
  rw [application, if_pos ((startable_iff lowering).1 startable)]

theorem application_of_not_startable (lowering : Lowering lower)
    (unstartable : ¬Startable lower path) : application path = path ++ ".exe" := by
  rw [application, if_neg (mt (startable_iff lowering).2 unstartable)]

/-- A script by its name can be started. -/
theorem startable_of_script (lowering : Lowering lower)
    (script : ScriptShell.hasExtension (encode path) = true) : Startable lower path :=
  (startable_iff lowering).2 (List.any_eq_true.2 ⟨"sh", by decide, script⟩)

/-- **The application's path is settled by one suffix.** It begins with the path and has an extension
that can be started; the suffix is added exactly if the path has none, and never a second time. In
particular a script keeps its name. -/
theorem application_settled (lowering : Lowering lower) (named : path ≠ "")
    (openEnded : path.toList.getLast? ≠ some '/') :
    let result := application path
    path.toList <+: result.toList ∧ Startable lower result ∧ application result = result ∧
      (result ≠ path ↔ ¬Startable lower path) ∧ (result ≠ path → result = path ++ ".exe") ∧
      (ScriptShell.hasExtension (encode path) = true → result = path) := by
  intro result
  by_cases startable : Startable lower path
  · have own : result = path := application_of_startable lowering startable
    rw [own]
    refine ⟨List.prefix_rfl, startable, own, ?_, fun changed => absurd rfl changed, fun _ => rfl⟩
    simpa using startable
  · have suffixed : result = path ++ ".exe" := application_of_not_startable lowering startable
    have ends : Startable lower result := suffixed ▸ startable_suffixed lowering named openEnded
    have changed : result ≠ path := fun same => startable (same ▸ ends)
    refine ⟨?_, ends, application_of_startable lowering ends, ?_, fun _ => suffixed, ?_⟩
    · rw [suffixed, String.toList_append]
      exact List.prefix_append _ _
    · exact iff_of_true changed startable
    · exact fun script => absurd (startable_of_script lowering script) startable

end Suffix

/-- The letters a to z made small, and the sign for kelvin. -/
def smallForm (text : String) : String :=
  text.map fun character => if character = kelvinSign then 'k' else character.toLower

theorem toLower_of_beyond {character : Char} (beyond : 0x80 ≤ character.toNat) :
    character.toLower = character := by
  refine dif_neg ?_
  rintro ⟨-, small⟩
  have most : character.toNat ≤ 90 := small
  omega

theorem lowering_smallForm : Lowering smallForm := by
  refine ⟨fun text ascii => ?_, fun text character member beyond other => ?_,
    fun text member => ?_⟩
  · apply String.toList_injective
    rw [smallForm, String.toList_map, String.toList_map]
    refine List.map_congr_left fun character member => if_neg ?_
    rintro rfl
    exact absurd (ascii _ member) (by decide)
  · refine ⟨character, ?_, beyond⟩
    rw [smallForm, String.toList_map]
    refine List.mem_map.2 ⟨character, member, ?_⟩
    rw [if_neg other, toLower_of_beyond beyond]
  · rw [smallForm, String.toList_map]
    exact List.mem_map.2 ⟨kelvinSign, member, if_pos rfl⟩

/-- A hidden file has no extension, even if it is called like one. -/
theorem application_settled_hidden :
    let path := "C:/tools/v1.2/.sh"
    Lowering smallForm ∧ path ≠ "" ∧ path.toList.getLast? ≠ some '/' ∧
      ¬Startable smallForm path ∧ application path = "C:/tools/v1.2/.sh.exe" ∧
      application (application path) = application path := by
  intro path
  have named : path ≠ "" := by decide
  have openEnded : path.toList.getLast? ≠ some '/' := by decide
  have unstartable : ¬Startable smallForm path := by
    rw [startable_iff lowering_smallForm]
    decide
  obtain ⟨-, -, settled, changed, suffixed, -⟩ :=
    application_settled lowering_smallForm named openEnded
  exact ⟨lowering_smallForm, named, openEnded, unstartable, suffixed (changed.2 unstartable),
    settled⟩

end CommandLine

end CompilerLauncher
