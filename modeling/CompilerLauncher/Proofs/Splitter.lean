import Mathlib.Data.List.Basic

/-!
# Splitters

A text is split into arguments by a machine that is either between two arguments or in the state of
the one that it reads, and that learns from each character whether the argument goes on. This module
is about any such machine: what it does with a text continued by another one, and what a line gives
whose parts are joined by single spaces.

`Splitter.Reads` is the case in which a text is all within one argument; `Splitter.ClosedBy` says
that a separator after a text ends whatever the text left unfinished. A line of parts that are
closed by a space gives what its parts give one by one (`Splitter.pieces_intercalate`).
-/

namespace CompilerLauncher

/-- How a text is split: the characters between arguments, the state at the start of an argument,
the state after one more character unless that ends the argument, and the argument of a state. -/
structure Splitter (State : Type) where
  separates : Char → Bool
  start : State
  next? : State → Char → Option State
  text : State → List Char

namespace Splitter

variable {State : Type} (splitter : Splitter State)

/-- The state after one more character; none stands between two arguments. -/
def advance : Option State → Char → Option State
  | none, character =>
    if splitter.separates character then none else splitter.next? splitter.start character
  | some state, character => splitter.next? state character

/-- The argument that a character ends, if it ends one. -/
def ended : Option State → Char → List (List Char)
  | none, _ => []
  | some state, character =>
    if (splitter.next? state character).isNone then [splitter.text state] else []

/-- The state after a text. -/
def after (state : Option State) (text : List Char) : Option State :=
  text.foldl splitter.advance state

/-- The arguments that end within a text. -/
def completed : Option State → List Char → List (List Char)
  | _, [] => []
  | state, character :: rest =>
    splitter.ended state character ++ completed (splitter.advance state character) rest

/-- The arguments of a text, the one that its end cuts off included. -/
def pieces (state : Option State) (text : List Char) : List (List Char) :=
  splitter.completed state text ++ ((splitter.after state text).map splitter.text).toList

/-! ## Texts one after the other -/

@[simp] theorem after_nil (state : Option State) : splitter.after state [] = state := rfl

@[simp] theorem after_cons (state : Option State) (character : Char) (rest : List Char) :
    splitter.after state (character :: rest) =
      splitter.after (splitter.advance state character) rest := rfl

@[simp] theorem completed_nil (state : Option State) : splitter.completed state [] = [] := rfl

theorem completed_cons (state : Option State) (character : Char) (rest : List Char) :
    splitter.completed state (character :: rest) =
      splitter.ended state character ++
        splitter.completed (splitter.advance state character) rest := rfl

theorem after_append (state : Option State) (left right : List Char) :
    splitter.after state (left ++ right) = splitter.after (splitter.after state left) right :=
  List.foldl_append

theorem completed_append (state : Option State) (left right : List Char) :
    splitter.completed state (left ++ right) =
      splitter.completed state left ++ splitter.completed (splitter.after state left) right := by
  induction left generalizing state with
  | nil => rfl
  | cons character left ih =>
    rw [List.cons_append, completed_cons, completed_cons, ih, List.append_assoc, after_cons]

/-- What a text begins with keeps its finished arguments, whatever follows. -/
theorem pieces_append (state : Option State) (left right : List Char) :
    splitter.pieces state (left ++ right) =
      splitter.completed state left ++ splitter.pieces (splitter.after state left) right := by
  rw [pieces, pieces, completed_append, after_append, List.append_assoc]

theorem pieces_cons (state : Option State) (character : Char) (rest : List Char) :
    splitter.pieces state (character :: rest) =
      splitter.ended state character ++
        splitter.pieces (splitter.advance state character) rest := by
  rw [pieces, pieces, completed_cons, after_cons, List.append_assoc]

/-! ## Texts within one argument -/

/-- The whole text belongs to one argument, which is in the given state after it. -/
structure Reads (before : Option State) (text : List Char) (last : State) : Prop where
  completed : splitter.completed before text = []
  after : splitter.after before text = some last

variable {splitter}

theorem Reads.nil (state : State) : splitter.Reads (some state) [] state := ⟨rfl, rfl⟩

theorem Reads.cons {state next last : State} {character : Char} {rest : List Char}
    (step : splitter.next? state character = some next)
    (reads : splitter.Reads (some next) rest last) :
    splitter.Reads (some state) (character :: rest) last where
  completed := by simp [completed_cons, ended, advance, step, reads.completed]
  after := by simp [advance, step, reads.after]

/-- An argument begins in the start state, with a character that does not separate. -/
theorem Reads.of_start {last : State} {character : Char} {rest : List Char}
    (separates : splitter.separates character = false)
    (reads : splitter.Reads (some splitter.start) (character :: rest) last) :
    splitter.Reads none (character :: rest) last where
  completed := by
    have both := reads.completed
    rw [completed_cons] at both
    simpa [completed_cons, ended, advance, separates] using (List.append_eq_nil_iff.1 both).2
  after := by simpa [advance, separates] using reads.after

theorem Reads.append {before : Option State} {middle last : State} {left right : List Char}
    (first : splitter.Reads before left middle)
    (second : splitter.Reads (some middle) right last) :
    splitter.Reads before (left ++ right) last where
  completed := by
    rw [completed_append, first.completed, first.after, second.completed, List.append_nil]
  after := by rw [after_append, first.after, second.after]

/-- A text within one argument gives that argument. -/
theorem Reads.pieces {before : Option State} {text : List Char} {last : State}
    (reads : splitter.Reads before text last) :
    splitter.pieces before text = [splitter.text last] := by
  rw [Splitter.pieces, reads.completed, reads.after]
  rfl

/-! ## Separated texts -/

/-- The separator ends the argument that the text leaves unfinished, if it leaves one. -/
def ClosedBy (splitter : Splitter State) (text : List Char) (separator : Char) : Prop :=
  ∀ last, splitter.after none text = some last → splitter.next? last separator = none

theorem Reads.closedBy {text : List Char} {last : State} {separator : Char}
    (reads : splitter.Reads none text last) (ends : splitter.next? last separator = none) :
    splitter.ClosedBy text separator := by
  intro other found
  rw [reads.after] at found
  cases found
  exact ends

/-- Two texts with a separator between them are split one by one. -/
theorem pieces_append_separator {left right : List Char} {separator : Char}
    (separates : splitter.separates separator = true) (closed : splitter.ClosedBy left separator) :
    splitter.pieces none (left ++ separator :: right) =
      splitter.pieces none left ++ splitter.pieces none right := by
  rw [pieces_append, pieces_cons]
  cases found : splitter.after none left with
  | none => simp [pieces, found, ended, advance, separates]
  | some last => simp [pieces, found, ended, advance, closed last found]

/-- A line whose parts are joined by a separator gives what its parts give, if the separator ends
each of them. -/
theorem pieces_intercalate {separator : Char} (separates : splitter.separates separator = true)
    (parts : List (List Char)) (closed : ∀ part ∈ parts, splitter.ClosedBy part separator) :
    splitter.pieces none ([separator].intercalate parts) =
      parts.flatMap (splitter.pieces none) := by
  induction parts with
  | nil => rfl
  | cons part parts ih =>
    have closedPart := closed part List.mem_cons_self
    have closedRest := fun other member => closed other (List.mem_cons_of_mem _ member)
    cases parts with
    | nil => simp
    | cons next parts =>
      rw [List.intercalate_cons_cons, List.append_assoc, List.singleton_append,
        pieces_append_separator separates closedPart, ih closedRest]
      rfl

/-- A line gives what its parts give, if the separator ends all of them but the last. -/
theorem pieces_intercalate_concat {separator : Char}
    (separates : splitter.separates separator = true) (parts : List (List Char))
    (closed : ∀ part ∈ parts, splitter.ClosedBy part separator) (last : List Char) :
    splitter.pieces none ([separator].intercalate (parts ++ [last])) =
      parts.flatMap (splitter.pieces none) ++ splitter.pieces none last := by
  induction parts with
  | nil => simp
  | cons part parts ih =>
    obtain ⟨closedPart, closedRest⟩ := List.forall_mem_cons.1 closed
    have nonempty : parts ++ [last] ≠ [] := by simp
    rw [List.cons_append, List.intercalate_cons_of_ne_nil nonempty, List.append_assoc,
      List.singleton_append, pieces_append_separator separates closedPart, ih closedRest,
      List.flatMap_cons, List.append_assoc]

/-- A line of arguments that are each written so that they are read back, after parts that stand as
they are. -/
theorem pieces_line {α : Type} (write value : α → List Char) {separator : Char}
    (separates : splitter.separates separator = true) {lead : List (List Char)}
    (lead_closed : ∀ part ∈ lead, splitter.ClosedBy part separator)
    (written : ∀ argument, splitter.pieces none (write argument) = [value argument])
    (closed : ∀ argument, splitter.ClosedBy (write argument) separator) (arguments : List α) :
    splitter.pieces none ([separator].intercalate (lead ++ arguments.map write)) =
      lead.flatMap (splitter.pieces none) ++ arguments.map value := by
  have each : (arguments.map write).flatMap (splitter.pieces none) = arguments.map value := by
    rw [List.flatMap_map, List.map_eq_flatMap]
    simp only [written]
  rw [pieces_intercalate separates, List.flatMap_append, each]
  intro part member
  rcases List.mem_append.1 member with member | member
  · exact lead_closed part member
  · obtain ⟨argument, -, rfl⟩ := List.mem_map.1 member
    exact closed argument

end Splitter

end CompilerLauncher
