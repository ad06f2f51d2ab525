import CompilerLauncher.Proofs.LineScanning

/-!
# Mappings written line by line

A mapping whose keys and values fit a line can be written with one entry on each line. Its lines are
made into tokens (`tokens?_writtenMapping`), and these into events (`events?_tokens`), so that what is
read is a flat document with the entries that were written, in order (`isFlat_writtenMapping`).
-/

namespace CompilerLauncher

namespace Yaml

section Mapping

variable {entries : List Assignment}

/-- A character of lines that end in line feeds. -/
def isLined (character : Char) : Bool :=
  isInline character || character == '\n'

theorem isLined_of_mem_writtenMapping (fits : ∀ entry ∈ entries, entry.FitsLine) :
    ∀ character ∈ writtenMapping entries, isLined character = true := by
  intro character member
  obtain ⟨entry, listed, here⟩ := List.mem_flatMap.1 member
  have key := (fits entry listed).key.inline character
  have value := (fits entry listed).value.inline character
  simp only [Assignment.written, List.mem_append, List.mem_cons, List.not_mem_nil, or_false] at here
  rcases here with inKey | rfl | rfl | inValue | rfl
  · simp [isLined, key inKey]
  · decide
  · decide
  · simp [isLined, value inValue]
  · decide

theorem isAllowed_of_isLined {character : Char} (lined : isLined character = true) :
    isAllowed character = true := by
  simp only [isLined, isInline, Bool.or_eq_true, Bool.and_eq_true, beq_iff_eq] at lined
  rcases lined with inline | rfl
  · exact inline.1.1
  · decide

/-- Lines that end in line feeds are normal. -/
theorem normalize_of_isLined {text : List Char}
    (lined : ∀ character ∈ text, isLined character = true) : normalize text = text := by
  induction text with
  | nil => rfl
  | cons character text ih =>
    obtain ⟨first, later⟩ := List.forall_mem_cons.1 lined
    have kept : (if isLineFeed character then '\n' else character) = character := by
      simp only [isLined, isInline, Bool.or_eq_true, Bool.and_eq_true, Bool.not_eq_true',
        beq_iff_eq] at first
      rcases first with inline | rfl
      · simp [inline.1.2]
      · rfl
    have other : character ≠ '\r' := by
      rintro rfl
      exact absurd first (by decide)
    rw [normalize, kept, ih later]
    exact fun _ same => absurd same other

theorem length_writtenMapping (fits : ∀ entry ∈ entries, entry.FitsLine) :
    5 * entries.length ≤ (writtenMapping entries).length := by
  induction entries with
  | nil => exact Nat.le_refl 0
  | cons entry entries ih =>
    obtain ⟨first, later⟩ := List.forall_mem_cons.1 fits
    have key := List.length_pos_iff.2 first.key.written_ne_nil
    have value := List.length_pos_iff.2 first.value.written_ne_nil
    have rest := ih later
    rw [writtenMapping] at rest ⊢
    simp only [List.flatMap_cons, Assignment.written, List.length_append, List.length_cons,
      List.length_nil]
    omega

/-- The tokens of a mapping that is written line by line. -/
theorem tokens?_writtenMapping (filled : entries ≠ []) (fits : ∀ entry ∈ entries, entry.FitsLine) :
    tokens? (String.ofList (writtenMapping entries)) =
      some (.blockMappingStart :: (entries.flatMap Assignment.tokens ++ [.blockEnd])) := by
  have lined := isLined_of_mem_writtenMapping fits
  have allowed : (writtenMapping entries).all isAllowed = true :=
    List.all_eq_true.2 fun character member => isAllowed_of_isLined (lined character member)
  have long := length_writtenMapping fits
  obtain ⟨entry, more, rfl⟩ := List.exists_cons_of_ne_nil filled
  obtain ⟨first, later⟩ := List.forall_mem_cons.1 fits
  rw [List.length_cons] at long
  obtain ⟨fuel, enough⟩ : ∃ fuel, (writtenMapping (entry :: more)).length + 1 =
      3 * more.length + fuel + 5 :=
    ⟨(writtenMapping (entry :: more)).length + 1 - (3 * more.length + 5), by omega⟩
  obtain ⟨next, start, taken⟩ := Scanner.run_line first (.inl rfl)
    (show ({} : Position).column = 0 from rfl) (Scanner.beginsLine_writtenMapping later)
  have whole : writtenMapping (entry :: more) = entry.written ++ writtenMapping more := rfl
  have lines := Scanner.run_lines fuel (entry.tokens.reverse ++ [.blockMappingStart]) later start
  have scanned := (taken (3 * more.length + fuel) []).trans lines
  rw [tokens?, String.toList_ofList, if_pos allowed, normalize_of_isLined lined]
  dsimp only
  rw [enough, whole]
  refine scanned.trans ?_
  simp

namespace Parse

/-- The grammar takes an entry. -/
theorem run_entry {entry : Assignment} (untagged : entry.1.tag = none ∧ entry.2.tag = none)
    (fuel : Nat) (backward : List Event) (tokens : List Token) (goals : List Goal)
    (handles : Handles) :
    run (fuel + 4) backward ⟨entry.tokens ++ tokens, .blockMapping :: goals, handles⟩ =
      run fuel (entry.events.reverse ++ backward) ⟨tokens, .blockMapping :: goals, handles⟩ := by
  obtain ⟨⟨keyStyle, _, keyText⟩, ⟨valueStyle, _, valueText⟩⟩ := entry
  obtain ⟨rfl, rfl⟩ := untagged
  rfl

/-- The grammar takes the entries of a mapping. -/
theorem run_entries (untagged : ∀ entry ∈ entries, entry.1.tag = none ∧ entry.2.tag = none)
    (fuel : Nat) (backward : List Event) (tokens : List Token) (goals : List Goal)
    (handles : Handles) :
    run (4 * entries.length + fuel) backward
        ⟨entries.flatMap Assignment.tokens ++ tokens, .blockMapping :: goals, handles⟩ =
      run fuel ((entries.flatMap Assignment.events).reverse ++ backward)
        ⟨tokens, .blockMapping :: goals, handles⟩ := by
  induction entries generalizing backward with
  | nil => simp
  | cons entry entries ih =>
    obtain ⟨first, later⟩ := List.forall_mem_cons.1 untagged
    have fuelled : 4 * (entry :: entries).length + fuel = 4 * entries.length + fuel + 4 := by
      rw [List.length_cons]
      omega
    rw [fuelled, List.flatMap_cons, List.append_assoc, run_entry first, ih later,
      List.flatMap_cons, List.reverse_append, List.append_assoc]

end Parse

theorem length_flatMap_tokens (entries : List Assignment) :
    (entries.flatMap Assignment.tokens).length = 4 * entries.length := by
  induction entries with
  | nil => rfl
  | cons entry entries ih =>
    rw [List.flatMap_cons, List.length_append, ih, List.length_cons, Assignment.tokens]
    simp only [List.length_cons, List.length_nil]
    omega

/-- The events of the tokens. -/
theorem events?_tokens (untagged : ∀ entry ∈ entries, entry.1.tag = none ∧ entry.2.tag = none) :
    events? (.blockMappingStart :: (entries.flatMap Assignment.tokens ++ [.blockEnd])) =
      some (flatEvents entries) := by
  have fuelled : 6 * ((.blockMappingStart :: (entries.flatMap Assignment.tokens ++
      [.blockEnd])).length + 2) = 4 * entries.length + (20 * entries.length + 22) + 2 := by
    simp only [List.length_cons, List.length_append, List.length_nil, length_flatMap_tokens]
    omega
  have taken := Parse.run_entries untagged (20 * entries.length + 22)
    [.mappingStart none, .documentStart] [.blockEnd] [.documentClose] Parse.usualHandles
  have closed : Parse.run (20 * entries.length + 22)
      ((entries.flatMap Assignment.events).reverse ++ [.mappingStart none, .documentStart])
      ⟨[.blockEnd], [.blockMapping, .documentClose], Parse.usualHandles⟩ =
      some (.documentEnd :: .mappingEnd :: ((entries.flatMap Assignment.events).reverse ++
        [.mappingStart none, .documentStart])).reverse := rfl
  -- The first two goals begin the document and the mapping.
  rw [events?, fuelled]
  refine Eq.trans rfl (taken.trans (closed.trans ?_))
  simp [flatEvents]

/-- **A mapping that is written line by line is read as a flat document of its entries.** -/
theorem isFlat_writtenMapping (filled : entries ≠ []) (fits : ∀ entry ∈ entries, entry.FitsLine) :
    IsFlat (String.ofList (writtenMapping entries)) entries := by
  have simple : ∀ entry ∈ entries, entry.1.IsSimple ∧ entry.2.IsSimple := fun entry listed =>
    ⟨(fits entry listed).key.isSimple, (fits entry listed).value.isSimple⟩
  refine ⟨?_, simple⟩
  rw [tokens?_writtenMapping filled fits]
  exact events?_tokens fun entry listed =>
    ⟨(simple entry listed).1.untagged, (simple entry listed).2.untagged⟩

end Mapping

end Yaml

end CompilerLauncher
