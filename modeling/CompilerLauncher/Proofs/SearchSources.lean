import CompilerLauncher.Proofs.SearchOrder
import CompilerLauncher.Proofs.Utf8Lossy

/-!
# Where the search list comes from

A list that is configured is read leniently. Since a separator is read as itself and is read out of
nothing else, the entries of what is read are the entries of the list, each of them read on its own
(`splitOn_asRead`). The list that the environment offers is taken only if it is a text as a whole. So
the two sources mean the same for every text, and for any other list the environment's is no list at
all, whatever its other entries are.
-/

namespace CompilerLauncher

namespace Search

open Utf8 (encode lossy decode?)

/-! ## Entries read one by one -/

/-- An entry of a search list as it is read: its own bytes if they spell a text. -/
def asRead (entry : Bytes) : Bytes :=
  encode (lossy entry)

theorem asRead_eq_nil_iff {entry : Bytes} : asRead entry = [] ↔ entry = [] := by
  constructor
  · intro empty
    have read : lossy (asRead entry) = lossy entry := Utf8.lossy_encode _
    rw [empty] at read
    exact Utf8.lossy_eq_empty_iff.1 read.symm
  · rintro rfl
    rfl

/-- A separator is read as itself, and each side of it on its own. -/
theorem asRead_append_separator (front rest : Bytes) :
    asRead (front ++ separator :: rest) = asRead front ++ separator :: asRead rest := by
  have small : separator.toNat < 0x80 := by decide
  have written : encode (String.ofList [Char.ofNat separator.toNat]) = [separator] := by decide
  rw [asRead, Utf8.lossy_append front small, Utf8.lossy_cons_ascii small, Utf8.encode_append,
    Utf8.encode_append, written]
  rfl

theorem separator_notMem_asRead {entry : Bytes} (absent : separator ∉ entry) :
    separator ∉ asRead entry := by
  intro member
  have read := Utf8.mem_of_mem_encode (by decide) member
  obtain ⟨byte, listed, same⟩ := Utf8.exists_byte_of_mem_lossy (by decide) read
  have separator_ : byte = separator := UInt8.toNat_inj.1 same
  exact absent (separator_ ▸ listed)

/-- **The entries of a list that is read are the entries of the list, each of them read.** -/
theorem splitOn_asRead (list : Bytes) :
    (asRead list).splitOn separator = (list.splitOn separator).map asRead := by
  -- Each step takes off a whole entry, so the induction is on the length and not on the bytes.
  induction length : list.length using Nat.strongRecOn generalizing list with
  | _ n ih =>
    by_cases cut : separator ∈ list
    · obtain ⟨front, rest, rfl, absent⟩ := List.eq_append_cons_of_mem cut
      have shorter : rest.length < n := by
        rw [← length]
        simp
        omega
      rw [asRead_append_separator, List.splitOn_append_cons_self, List.splitOn_append_cons_self,
        List.splitOn_eq_singleton absent, List.splitOn_eq_singleton (separator_notMem_asRead absent),
        ih _ shorter rest rfl]
      rfl
    · rw [List.splitOn_eq_singleton cut, List.splitOn_eq_singleton (separator_notMem_asRead cut)]
      rfl

section Entries

variable {tree : FileTree} {exclude : Option Bytes} {toolName : String} {name list found : Bytes}

/-- A list that is read leniently gives the first acceptable candidate of its entries, each of which
is read on its own. -/
theorem onList_asRead_eq_some_iff :
    onList tree name (asRead list) exclude toolName = some found ↔
      ∃ before entry after, list.splitOn separator = before ++ entry :: after ∧ entry ≠ [] ∧
        Path.join (asRead entry) name = found ∧ Acceptable tree exclude toolName found ∧
        ∀ earlier ∈ before, earlier ≠ [] →
          ¬Acceptable tree exclude toolName (Path.join (asRead earlier) name) := by
  rw [onList_eq_some_iff, splitOn_asRead]
  constructor
  · rintro ⟨_, _, _, cut, nonempty, same, acceptable, rejected⟩
    obtain ⟨before, onward, parts, rfl, later⟩ := List.map_eq_append_iff.1 cut
    obtain ⟨entry, after, rfl, rfl, rfl⟩ := List.map_eq_cons_iff.1 later
    refine ⟨before, entry, after, parts, mt asRead_eq_nil_iff.2 nonempty, same, acceptable, ?_⟩
    intro earlier member named
    exact rejected _ (List.mem_map_of_mem member) (mt asRead_eq_nil_iff.1 named)
  · rintro ⟨before, entry, after, parts, nonempty, same, acceptable, rejected⟩
    refine ⟨before.map asRead, asRead entry, after.map asRead, by simp [parts],
      mt asRead_eq_nil_iff.1 nonempty, same, acceptable, ?_⟩
    intro read member named
    obtain ⟨earlier, listed, rfl⟩ := List.mem_map.1 member
    exact rejected earlier listed (mt asRead_eq_nil_iff.2 named)

theorem onList_asRead_eq_none_iff :
    onList tree name (asRead list) exclude toolName = none ↔
      ∀ entry ∈ list.splitOn separator, entry ≠ [] →
        ¬Acceptable tree exclude toolName (Path.join (asRead entry) name) := by
  rw [onList_eq_none_iff, splitOn_asRead]
  simp only [List.forall_mem_map, ne_eq, asRead_eq_nil_iff]

end Entries

/-! ## The two sources -/

variable {tree : FileTree} {settings : Settings} {name list : Bytes} {exclude : Option Bytes}
  {toolName : String}

/-- A search with the text that a list is read as. -/
theorem bind_onList (text : String) :
    ((some text).filter (· != "")).bind (fun found => onList tree name (encode found) exclude toolName) =
      onList tree name (encode text) exclude toolName := by
  by_cases empty : text = ""
  · subst empty
    rfl
  · simp [Option.filter, empty]

/-- With no configured list the environment's is searched if it is a text. -/
theorem program?_inherited {environment : Environment}
    (unset : settings.path.filter (· != "") = none) (given : environment "PATH" = some list)
    (relative : Path.isAbsolute name = false) :
    program? tree settings environment name exclude =
      if (decode? list).isSome then onList tree name (asRead list) exclude settings.toolName
      else none := by
  rw [program?, relative, if_neg (by simp), Settings.searchList?, unset]
  dsimp only
  rw [given, Option.bind_some]
  cases spelled : decode? list with
  | none => rfl
  | some text =>
    rw [bind_onList, asRead, Utf8.lossy_of_decode? spelled]
    rfl

/-- A configured list is searched whatever its bytes are. -/
theorem program?_configured {overrides environment : Environment}
    (overridden : overrides Settings.pathVariable = some list) (absent : environment "PATH" = none)
    (relative : Path.isAbsolute name = false) :
    program? tree (settings.override overrides) environment name exclude =
      onList tree name (asRead list) exclude settings.toolName := by
  have path : (settings.override overrides).path = some (lossy list) := by
    rw [Settings.override, overridden]
  have sought : ((settings.override overrides).searchList? environment) =
      (some (lossy list)).filter (· != "") := by
    rw [Settings.searchList?, path, absent]
    cases (some (lossy list)).filter (· != "") <;> rfl
  rw [program?, relative, if_neg (by simp), sought, Settings.toolName_override, bind_onList]
  rfl

/-- **A name stands for the same program under an inherited and under a configured list exactly if the
list is a text, or no search is made or comes to anything.** The configured list gives the first
acceptable candidate of its entries, of which each is read on its own; the inherited one gives
nothing as soon as one byte of it spells no text. -/
theorem sources_agree_iff (tree : FileTree) (name : Bytes) (exclude : Option Bytes)
    {inherited overrides bare : Environment} (unset : settings.path.filter (· != "") = none)
    (given : inherited "PATH" = some list)
    (overridden : overrides Settings.pathVariable = some list) (absent : bare "PATH" = none) :
    (program? tree settings inherited name exclude =
        program? tree (settings.override overrides) bare name exclude ↔
      Path.isAbsolute name = true ∨ (decode? list).isSome = true ∨
        ∀ entry ∈ list.splitOn separator, entry ≠ [] →
          ¬Acceptable tree exclude settings.toolName (Path.join (asRead entry) name)) ∧
    (Path.isAbsolute name = false →
      (decode? list = none → program? tree settings inherited name exclude = none) ∧
      ∀ found, program? tree (settings.override overrides) bare name exclude = some found ↔
        ∃ before entry after, list.splitOn separator = before ++ entry :: after ∧ entry ≠ [] ∧
          Path.join (asRead entry) name = found ∧
          Acceptable tree exclude settings.toolName found ∧
          ∀ earlier ∈ before, earlier ≠ [] →
            ¬Acceptable tree exclude settings.toolName (Path.join (asRead earlier) name)) := by
  cases absolute : Path.isAbsolute name with
  | true => simp [program?, absolute]
  | false =>
    rw [program?_inherited unset given absolute, program?_configured overridden absent absolute]
    refine ⟨?_, fun _ => ⟨fun unread => by simp [unread], fun found => onList_asRead_eq_some_iff⟩⟩
    rw [← onList_asRead_eq_none_iff]
    cases decode? list with
    | some text => simp
    | none => simp [eq_comm]

/-- The environment that holds one variable. -/
def offering (key : String) (value : Bytes) : Environment :=
  fun sought => if sought = key then some value else none

/-- The first entry spells no text, and the second is the directory of a compiler. -/
def mixedList : Bytes := encode "/" ++ 0xFF :: encode ":/b"

/-- Settings without a list of their own. -/
def unlisted : Settings := { temporaryDir := encode "/tmp", toolName := Settings.defaultToolName }

/-- A directory with a compiler. -/
def stocked : FileTree :=
  { entries := [([encode "b"], .directory 0o755), ([encode "b", encode "cc"], .file [] 0o755)] }

/-- With such a list the two sources differ, and it is the inherited one that gives nothing. -/
theorem sources_agree_iff_mixed :
    unlisted.path.filter (· != "") = none ∧ offering "PATH" mixedList "PATH" = some mixedList ∧
      offering Settings.pathVariable mixedList Settings.pathVariable = some mixedList ∧
      offering "HOME" [] "PATH" = none ∧
      program? stocked unlisted (offering "PATH" mixedList) (encode "cc") none = none ∧
      program? stocked unlisted (offering "PATH" mixedList) (encode "cc") none ≠
        program? stocked (unlisted.override (offering Settings.pathVariable mixedList))
          (offering "HOME" []) (encode "cc") none := by
  have unset : unlisted.path.filter (· != "") = none := rfl
  have given : offering "PATH" mixedList "PATH" = some mixedList := rfl
  have overridden : offering Settings.pathVariable mixedList Settings.pathVariable =
      some mixedList := rfl
  have absent : offering "HOME" [] "PATH" = none := rfl
  have relative : Path.isAbsolute (encode "cc") = false := by decide
  have unread : decode? mixedList = none := by decide +kernel
  have found : onList stocked (encode "cc") (asRead mixedList) none unlisted.toolName ≠ none := by
    decide +kernel
  obtain ⟨agree, search⟩ := sources_agree_iff stocked (encode "cc") none unset given overridden absent
  refine ⟨unset, given, overridden, absent, (search relative).1 unread, fun same => ?_⟩
  rcases agree.1 same with absolute | text | nothing
  · rw [relative] at absolute
    cases absolute
  · rw [unread] at text
    cases text
  · exact found (onList_asRead_eq_none_iff.2 nothing)

/-- One entry that spells no text hides the compiler of another one, if the list is inherited. -/
theorem unreadable_entry_hides_others :
    unlisted.path = none ∧
      program? stocked unlisted (offering "PATH" mixedList) (encode "cc") none = none ∧
      program? stocked (unlisted.override (offering Settings.pathVariable mixedList))
        (offering "HOME" []) (encode "cc") none = some (encode "/b/cc") := by
  refine ⟨rfl, ?_, ?_⟩
  · decide +kernel
  · decide +kernel

end Search

end CompilerLauncher
