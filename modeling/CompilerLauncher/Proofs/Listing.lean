import Mathlib.Data.List.Basic

/-!
# Lists of entries

A table of descriptors and a tree of files are lists of entries by key, of which the first one of a
key is the one that counts. What is left out of such a list is missed by its own key only.
-/

namespace CompilerLauncher

namespace Listing

variable {Key Value : Type} [BEq Key] [LawfulBEq Key]

/-- A key whose entries are all kept has the same first entry. -/
theorem lookup_filter {key : Key} {keeps : Key × Value → Bool}
    (kept : ∀ value, keeps (key, value) = true) (entries : List (Key × Value)) :
    (entries.filter keeps).lookup key = entries.lookup key := by
  induction entries with
  | nil => rfl
  | cons entry rest ih =>
    obtain ⟨other, value⟩ := entry
    by_cases same : key = other
    · subst same
      simp [kept]
    · have unequal : (key == other) = false := beq_eq_false_iff_ne.2 same
      by_cases stays : keeps (other, value) = true
      · rw [List.filter_cons_of_pos stays, List.lookup_cons, List.lookup_cons, unequal, ih]
      · rw [List.filter_cons_of_neg stays, List.lookup_cons, unequal, ih]

/-- A key that is looked up with success is one of the list's keys. -/
theorem mem_keys_of_lookup {key : Key} {entries : List (Key × Value)}
    (found : entries.lookup key ≠ none) : key ∈ entries.map Prod.fst := by
  by_contra absent
  apply found
  rw [List.lookup_eq_none_iff]
  intro entry member
  rw [bne_iff_ne]
  rintro rfl
  exact absent (List.mem_map_of_mem member)

end Listing

end CompilerLauncher
