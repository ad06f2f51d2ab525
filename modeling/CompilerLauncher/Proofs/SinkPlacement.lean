import CompilerLauncher.Launch.Forked
import CompilerLauncher.Proofs.Listing
import Mathlib.Data.List.Nodup
import Mathlib.Data.List.Perm.Subperm

/-!
# Where a child's output goes

Each step of an installation reads the table that the step before it has left, so each step is said
by what it does to every number: closing (`lookup_close`), duplicating (`lookup_duplicate`) and
moving (`lookup_move`). A move loses what stood on its target. That hurts only where the errors'
file stands on the number meant for the output; it is then duplicated first, to a number on which
nothing stands (`lookup_free`).

An installation so changes no number but its two targets and its two sources (`lookup_install`), and
the child finds each file on the descriptor that it writes to (`childOf_streams`).
-/

namespace CompilerLauncher

/-- A descriptor that stays open when the image is replaced. -/
def Descriptor.kept (descriptor : Descriptor) : Descriptor :=
  { descriptor with closesOnReplace := false }

@[simp] theorem Descriptor.kept_kept (descriptor : Descriptor) :
    descriptor.kept.kept = descriptor.kept := rfl

namespace Descriptors

/-! ## One step -/

section Step

variable (table : Descriptors)

theorem lookup_close (number other : Nat) :
    (table.close number).lookup other =
      if other = number then none else table.lookup other := by
  by_cases same : other = number
  · subst same
    rw [if_pos rfl, close, List.lookup_eq_none_iff]
    intro entry member
    have differs := (List.mem_filter.1 member).2
    rw [bne_iff_ne] at differs ⊢
    exact Ne.symm differs
  · rw [if_neg same, close]
    have stays : ∀ descriptor : Descriptor, ((other, descriptor).1 != number) = true :=
      fun _ => bne_iff_ne.2 same
    exact Listing.lookup_filter stays table

theorem lookup_set (number : Nat) (descriptor : Descriptor) (other : Nat) :
    (table.set number descriptor).lookup other =
      if other = number then some descriptor else table.lookup other := by
  by_cases same : other = number
  · subst same
    rw [if_pos rfl, set, List.lookup_cons_self]
  · have unequal : (other == number) = false := beq_eq_false_iff_ne.2 same
    rw [if_neg same, set, List.lookup_cons, unequal]
    exact (table.lookup_close number other).trans (if_neg same)

variable {table} {source : Nat} {descriptor : Descriptor}

theorem lookup_duplicate (stands : table.lookup source = some descriptor) (target other : Nat) :
    (table.duplicate source target).lookup other =
      if other = target then some descriptor.kept else table.lookup other := by
  rw [duplicate, stands]
  exact table.lookup_set target descriptor.kept other

/-- A move to where the descriptor stands already leaves it there. -/
theorem lookup_move (stands : table.lookup source = some descriptor) (target other : Nat) :
    (table.move source target).lookup other =
      if other = target then some descriptor.kept
      else if other = source then none
      else table.lookup other := by
  rw [move]
  by_cases stays : source = target
  · subst stays
    rw [if_pos rfl, lookup_duplicate stands]
    by_cases same : other = source
    · rw [if_pos same, if_pos same]
    · rw [if_neg same, if_neg same, if_neg same]
  · rw [if_neg stays, lookup_close, lookup_duplicate stands]
    by_cases same : other = source
    · subst same
      rw [if_pos rfl, if_neg stays, if_pos rfl]
    · rw [if_neg same, if_neg same]

end Step

/-! ## A number that is not in use -/

/-- The numbers that are tried for a free one: one more than the table has entries. -/
def tried (table : Descriptors) (least : Nat) : List Nat :=
  (List.range (table.length + 1)).map (least + ·)

theorem nodup_tried (table : Descriptors) (least : Nat) : (table.tried least).Nodup :=
  List.nodup_range.map fun _ _ => Nat.add_left_cancel

/-- They cannot all be in use. -/
theorem exists_tried (table : Descriptors) (least : Nat) :
    ∃ number ∈ table.tried least, table.lookup number = none := by
  by_contra used
  push Not at used
  have listed : table.tried least ⊆ table.map Prod.fst := by
    intro number member
    exact Listing.mem_keys_of_lookup (used number member)
  have fewer := (table.nodup_tried least).length_le_of_subset listed
  rw [tried, List.length_map, List.length_map, List.length_range] at fewer
  omega

theorem lookup_free (table : Descriptors) (least : Nat) :
    least ≤ table.free least ∧ table.lookup (table.free least) = none := by
  cases found : (table.tried least).find? fun number => (table.lookup number).isNone with
  | none =>
    obtain ⟨number, member, unused⟩ := table.exists_tried least
    have used := List.find?_eq_none.1 found number member
    simp [unused] at used
  | some number =>
    have answer : table.free least = number := by
      rw [free]
      change Option.getD ((table.tried least).find? _) least = number
      rw [found]
      rfl
    rw [answer]
    have unused := List.find?_some found
    obtain ⟨offset, -, rfl⟩ := List.mem_map.1 (List.mem_of_find?_eq_some found)
    exact ⟨Nat.le_add_right least offset, Option.isNone_iff_eq_none.1 unused⟩

/-! ## The installation -/

section Installation

variable {table : Descriptors} {out err outTarget errTarget : Nat} {outFile errFile : Descriptor}

/-- The two targets get the two files, and the sources are closed unless they are targets. -/
theorem lookup_install (outStands : table.lookup out = some outFile)
    (errStands : table.lookup err = some errFile) (apart : out ≠ err)
    (targets : outTarget ≠ errTarget) (number : Nat) :
    (table.install out err outTarget errTarget).lookup number =
      if number = outTarget then some outFile.kept
      else if number = errTarget then some errFile.kept
      else if number = out ∨ number = err then none
      else table.lookup number := by
  rw [install]
  by_cases clobbers : err = outTarget
  · -- The errors' file is on its way by a number that no other step touches.
    obtain ⟨above, unused⟩ := table.lookup_free (max outTarget errTarget + 1)
    rw [if_pos clobbers]
    dsimp only
    generalize table.free (max outTarget errTarget + 1) = spare at above unused
    have spare_out : spare ≠ out := by
      rintro rfl
      rw [unused] at outStands
      cases outStands
    have spare_target : spare ≠ outTarget := by omega
    have out_moves : (table.duplicate err spare).lookup out = some outFile := by
      rw [lookup_duplicate errStands, if_neg spare_out.symm, outStands]
    have err_moves : ((table.duplicate err spare).move out outTarget).lookup spare =
        some errFile.kept := by
      rw [lookup_move out_moves, if_neg spare_target, if_neg spare_out,
        lookup_duplicate errStands, if_pos rfl]
    have spare_second : spare ≠ errTarget := by omega
    rw [lookup_move err_moves, lookup_move out_moves, lookup_duplicate errStands,
      Descriptor.kept_kept]
    by_cases passing : number = spare
    · subst passing
      simp [spare_out, spare_target, spare_second, clobbers, unused]
    · grind
  · rw [if_neg clobbers]
    have err_moves : (table.move out outTarget).lookup err = some errFile := by
      rw [lookup_move outStands, if_neg clobbers, if_neg apart.symm, errStands]
    rw [lookup_move err_moves, lookup_move outStands]
    grind

/-- Wherever the two files stand before, each is on its own target afterwards and outlives the
replacement of the image, no source stays open beside a target, and nothing else has changed. -/
theorem install_places_files (outStands : table.lookup out = some outFile)
    (errStands : table.lookup err = some errFile) (apart : out ≠ err)
    (targets : outTarget ≠ errTarget) :
    let installed := table.install out err outTarget errTarget
    installed.lookup outTarget = some ⟨outFile.file, false⟩ ∧
      installed.lookup errTarget = some ⟨errFile.file, false⟩ ∧
      (∀ source, source = out ∨ source = err → source ≠ outTarget → source ≠ errTarget →
        installed.lookup source = none) ∧
      ∀ number, number ≠ out → number ≠ err → number ≠ outTarget → number ≠ errTarget →
        installed.lookup number = table.lookup number := by
  have installed := lookup_install outStands errStands apart targets
  refine ⟨?_, ?_, ?_, ?_⟩
  · rw [installed, if_pos rfl]
    rfl
  · rw [installed, if_neg targets.symm, if_pos rfl]
    rfl
  · intro source moved first second
    rw [installed, if_neg first, if_neg second, if_pos moved]
  · intro number other another first second
    have stays : ¬(number = out ∨ number = err) := by
      rintro (same | same)
      · exact other same
      · exact another same
    rw [installed, if_neg first, if_neg second, if_neg stays]

/-- The two files stand on each other's targets, and the next number up is taken. -/
def swapped : Descriptors := [(0, ⟨3, false⟩), (1, ⟨9, true⟩), (2, ⟨8, true⟩), (3, ⟨4, true⟩)]

theorem install_places_files_swapped :
    swapped.lookup 2 = some ⟨8, true⟩ ∧ swapped.lookup 1 = some ⟨9, true⟩ ∧
      let installed := swapped.install 2 1 output errors
      installed.lookup output = some ⟨8, false⟩ ∧ installed.lookup errors = some ⟨9, false⟩ ∧
        installed.lookup 3 = some ⟨4, true⟩ ∧ installed.lookup 4 = none := by
  have outStands : swapped.lookup 2 = some ⟨8, true⟩ := rfl
  have errStands : swapped.lookup 1 = some ⟨9, true⟩ := rfl
  obtain ⟨first, second, -, others⟩ :=
    install_places_files outStands errStands (by decide) (show output ≠ errors by decide)
  refine ⟨outStands, errStands, first, second, ?_, ?_⟩
  · exact others 3 (by decide) (by decide) (by decide) (by decide)
  · exact others 4 (by decide) (by decide) (by decide) (by decide)

end Installation

/-- What stays open is still there after the image has been replaced. -/
theorem lookup_replaced {table : Descriptors} {number : Nat} {descriptor : Descriptor}
    (stands : table.lookup number = some descriptor) (stays : descriptor.closesOnReplace = false) :
    table.replaced.lookup number = some descriptor := by
  induction table with
  | nil => cases stands
  | cons entry rest ih =>
    obtain ⟨other, listed⟩ := entry
    rw [List.lookup_cons] at stands
    by_cases same : number = other
    · subst same
      rw [beq_self_eq_true] at stands
      cases stands
      simp [replaced, stays]
    · have unequal : (number == other) = false := beq_eq_false_iff_ne.2 same
      rw [unequal] at stands
      have later := ih stands
      by_cases closes : listed.closesOnReplace = true
      · simpa [replaced, closes] using later
      · simpa [replaced, closes, List.lookup_cons, unequal] using later

end Descriptors

namespace Forked

/-- The child of a launch with two files writes its output to the one and its errors to the other.
-/
theorem childOf_streams {descriptors : Descriptors} {out err : Nat} {outFile errFile : Descriptor}
    (outStands : descriptors.lookup out = some outFile)
    (errStands : descriptors.lookup err = some errFile) (apart : out ≠ err) (state : State)
    (arguments : List Bytes) :
    let child := childOf state arguments descriptors (some (out, err))
    child.descriptors.lookup Descriptors.output = some outFile.kept ∧
      child.descriptors.lookup Descriptors.errors = some errFile.kept := by
  have targets : Descriptors.output ≠ Descriptors.errors := by decide
  have installed := Descriptors.lookup_install outStands errStands apart targets
  constructor
  · exact Descriptors.lookup_replaced ((installed _).trans (if_pos rfl)) rfl
  · exact Descriptors.lookup_replaced
      ((installed _).trans ((if_neg targets.symm).trans (if_pos rfl))) rfl

end Forked

end CompilerLauncher
