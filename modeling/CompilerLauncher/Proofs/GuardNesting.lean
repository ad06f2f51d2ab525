import CompilerLauncher.Signal
import Mathlib.Data.List.Induction

/-!
# Guards that overlap

A guard puts back the mask that it found, not the change that it made, so what a drop does depends on
all that has happened since the first guard. Still there are only two masks that a thread can come
to, the one that it had before any guard and that one with the termination signals
(`Guards.Between.after`).

If each drop is of the youngest guard alive (`Nested`), the guards alive are a stack: the oldest
remembers the thread's own mask, and every other one the guarded mask (`Stacked`). So the
termination signals are held back exactly as long as a guard is alive (`mask_brackets_guards`).
-/

namespace CompilerLauncher

/-- What is done with guards: one is created, or the one of a number is dropped. -/
inductive GuardChange
  | create
  | drop (number : Nat)
  deriving DecidableEq, Repr

namespace Guards

/-- The guards after a change. -/
def change (guards : Guards) : GuardChange → Guards
  | .create => guards.create
  | .drop number => guards.drop number

/-- The guards after all changes. -/
def after (guards : Guards) (changes : List GuardChange) : Guards :=
  changes.foldl change guards

/-- A thread with no guard yet. -/
def unguarded (mask : SignalMask) : Guards := { mask }

/-- The guard of the number has been created and not dropped yet. -/
def Lives (guards : Guards) (number : Nat) : Prop :=
  ∃ found, guards.remembered[number]? = some (some found)

variable {mask : SignalMask} {guards : Guards} {number : Nat}

theorem after_concat (guards : Guards) (changes : List GuardChange) (last : GuardChange) :
    guards.after (changes ++ [last]) = (guards.after changes).change last := by
  rw [after, List.foldl_append]
  rfl

/-- A guard that is alive puts back what it remembers. -/
theorem drop_of_lives {found : SignalMask} (lives : guards.remembered[number]? = some (some found)) :
    guards.drop number = ⟨found, guards.remembered.set number none⟩ := by
  rw [drop, lives]

theorem drop_of_not_lives (dead : ¬guards.Lives number) : guards.drop number = guards := by
  rw [drop]
  split
  · rename_i found lives
    exact absurd ⟨found, lives⟩ dead
  · rfl

/-! ## Any order -/

/-- The mask is the thread's own, or that one with the termination signals. -/
def OwnOrGuarded (mask current : SignalMask) : Prop :=
  current = mask ∨ current = mask.guarded

theorem OwnOrGuarded.guarded {current : SignalMask} (either : OwnOrGuarded mask current) :
    OwnOrGuarded mask current.guarded := by
  rcases either with rfl | rfl
  · exact .inr rfl
  · exact .inr (SignalMask.guarded_guarded mask)

/-- Signals that do not ask for termination are as they were. -/
theorem OwnOrGuarded.eq_of_notMem {current : SignalMask} (either : OwnOrGuarded mask current)
    {signal : Signal} (other : signal ∉ Signal.termination) : current signal = mask signal := by
  rcases either with rfl | rfl
  · rfl
  · simp [SignalMask.guarded, other]

/-- The mask in force is one of the two, and so are all that guards remember. -/
structure Between (mask : SignalMask) (guards : Guards) : Prop where
  current : OwnOrGuarded mask guards.mask
  remembered : ∀ found, some found ∈ guards.remembered → OwnOrGuarded mask found

theorem Between.change (between : Between mask guards) (change : GuardChange) :
    Between mask (guards.change change) := by
  cases change with
  | create =>
    refine ⟨between.current.guarded, ?_⟩
    intro found member
    rcases List.mem_append.1 member with earlier | new
    · exact between.remembered found earlier
    · rw [List.mem_singleton, Option.some.injEq] at new
      rw [new]
      exact between.current
  | drop number =>
    by_cases lives : guards.Lives number
    · obtain ⟨found, here⟩ := lives
      have dropped : guards.change (.drop number) = ⟨found, guards.remembered.set number none⟩ :=
        drop_of_lives here
      rw [dropped]
      refine ⟨between.remembered found (List.mem_of_getElem? here), ?_⟩
      intro other member
      rcases List.mem_or_eq_of_mem_set member with kept | new
      · exact between.remembered other kept
      · cases new
    · have same : guards.change (.drop number) = guards := drop_of_not_lives lives
      rwa [same]

theorem Between.after (between : Between mask guards) (changes : List GuardChange) :
    Between mask (guards.after changes) := by
  induction changes generalizing guards with
  | nil => exact between
  | cons change rest ih => exact ih (between.change change)

/-! ## Proper nesting -/

/-- The changes are properly nested: each drop is of the youngest guard alive. Behind them so many
guards have been created, and those of the listed numbers are alive, the youngest first. -/
inductive Nested : List GuardChange → Nat → List Nat → Prop
  | start : Nested [] 0 []
  | create {changes : List GuardChange} {created : Nat} {alive : List Nat}
    (nested : Nested changes created alive) :
    Nested (changes ++ [.create]) (created + 1) (created :: alive)
  | drop {changes : List GuardChange} {created youngest : Nat} {alive : List Nat}
    (nested : Nested changes created (youngest :: alive)) :
    Nested (changes ++ [.drop youngest]) created alive

/-- The first changes of nested ones are nested. -/
theorem Nested.of_append {first later : List GuardChange} {created : Nat} {alive : List Nat}
    (nested : Nested (first ++ later) created alive) :
    ∃ created alive, Nested first created alive := by
  induction later using List.reverseRecOn generalizing created alive with
  | nil =>
    rw [List.append_nil] at nested
    exact ⟨created, alive, nested⟩
  | append_singleton later last ih =>
    rw [← List.append_assoc] at nested
    generalize whole : first ++ later ++ [last] = changes at nested
    cases nested with
    | start => simp at whole
    | create nested | drop nested =>
      obtain ⟨rfl, -⟩ := List.append_inj' whole rfl
      exact ih nested

/-- A stack of guards on a thread's own mask: the mask in force, what the guards remember, and the
numbers of those that are alive. -/
inductive Stacked (mask : SignalMask) : SignalMask → List (Option SignalMask) → List Nat → Prop
  | bare : Stacked mask mask [] []
  | living {current : SignalMask} {remembered : List (Option SignalMask)} {alive : List Nat}
    (below : Stacked mask current remembered alive) :
    Stacked mask current.guarded (remembered ++ [some current]) (remembered.length :: alive)
  | dropped {current : SignalMask} {remembered : List (Option SignalMask)} {alive : List Nat}
    (below : Stacked mask current remembered alive) :
    Stacked mask current (remembered ++ [none]) alive

section Stacked

variable {current : SignalMask} {remembered : List (Option SignalMask)} {alive : List Nat}

/-- The termination signals are held back exactly if a guard is alive. -/
theorem Stacked.mask_eq (stacked : Stacked mask current remembered alive) :
    current = if alive = [] then mask else mask.guarded := by
  induction stacked with
  | bare => rfl
  | @living current _ alive _ ih =>
    rw [if_neg (List.cons_ne_nil _ _), ih]
    split
    · rfl
    · exact SignalMask.guarded_guarded mask
  | dropped _ ih => exact ih

theorem Stacked.lives_iff (stacked : Stacked mask current remembered alive) :
    (∃ found, remembered[number]? = some (some found)) ↔ number ∈ alive := by
  induction stacked with
  | bare => simp
  | @living current remembered alive _ ih =>
    rw [List.mem_cons, ← ih, List.getElem?_append]
    split
    · rename_i below
      simp [Nat.ne_of_lt below]
    · rename_i beyond
      have none : remembered[number]? = none := List.getElem?_eq_none (Nat.not_lt.1 beyond)
      rw [none]
      by_cases last : number = remembered.length
      · simp [last]
      · have past : number - remembered.length ≠ 0 := by omega
        simp [last, past]
  | @dropped current remembered alive _ ih =>
    rw [← ih, List.getElem?_append]
    split
    · rfl
    · rename_i beyond
      have none : remembered[number]? = none := List.getElem?_eq_none (Nat.not_lt.1 beyond)
      simp [none, List.getElem?_singleton]

/-- The youngest guard alive puts back the mask that was in force below it. -/
theorem Stacked.drop (stacked : Stacked mask current remembered (number :: alive)) :
    ∃ found, remembered[number]? = some (some found) ∧
      Stacked mask found (remembered.set number none) alive := by
  generalize listed : number :: alive = whole at stacked
  induction stacked with
  | bare => cases listed
  | @living current remembered _ below _ =>
    cases listed
    refine ⟨current, List.getElem?_concat_length, ?_⟩
    rw [List.set_append_right _ _ (Nat.le_refl _), Nat.sub_self]
    exact .dropped below
  | @dropped current remembered _ below ih =>
    obtain ⟨found, here, stacked⟩ := ih listed
    have short : number < remembered.length := (List.getElem?_eq_some_iff.1 here).1
    refine ⟨found, ?_, ?_⟩
    · rw [List.getElem?_append_left short, here]
    · rw [List.set_append_left _ _ short]
      exact .dropped stacked

end Stacked

/-- Nested changes leave a stack of guards. -/
theorem Nested.stacked {changes : List GuardChange} {created : Nat} {alive : List Nat}
    (nested : Nested changes created alive) (mask : SignalMask) :
    let guards := (unguarded mask).after changes
    guards.remembered.length = created ∧
      Stacked mask guards.mask guards.remembered alive := by
  induction nested with
  | start => exact ⟨rfl, .bare⟩
  | @create changes created alive _ ih =>
    obtain ⟨count, stacked⟩ := ih
    rw [after_concat]
    refine ⟨?_, ?_⟩
    · rw [← count]
      exact List.length_append
    · rw [← count]
      exact .living stacked
  | @drop changes created youngest alive _ ih =>
    obtain ⟨count, stacked⟩ := ih
    obtain ⟨found, here, rest⟩ := stacked.drop
    have dropped : ((unguarded mask).after changes).change (.drop youngest) =
        ⟨found, ((unguarded mask).after changes).remembered.set youngest none⟩ := drop_of_lives here
    rw [after_concat, dropped]
    exact ⟨(List.length_set ..).trans count, rest⟩

/-- **As long as guards are properly nested, the termination signals are added to the thread's own
mask exactly while one of them is alive.** In whatever order guards are created and dropped, the mask
is always the thread's own or that one with the termination signals, and no other signal is
touched. -/
theorem mask_brackets_guards (mask : SignalMask) :
    (∀ changes created alive, Nested changes created alive →
      (∀ number, ((unguarded mask).after changes).Lives number ↔ number ∈ alive) ∧
        ∀ done rest, changes = done ++ rest →
          let guards := (unguarded mask).after done
          ((∃ number, guards.Lives number) → guards.mask = mask.guarded) ∧
            ((∀ number, ¬guards.Lives number) → guards.mask = mask)) ∧
      ∀ changes,
        let guards := (unguarded mask).after changes
        (guards.mask = mask ∨ guards.mask = mask.guarded) ∧
          ∀ signal, signal ∉ Signal.termination → guards.mask signal = mask signal := by
  constructor
  · intro changes created alive nested
    refine ⟨fun number => (nested.stacked mask).2.lives_iff, ?_⟩
    rintro done rest rfl guards
    obtain ⟨_, alive, nested⟩ := nested.of_append
    obtain ⟨-, stacked⟩ := nested.stacked mask
    have current := stacked.mask_eq
    constructor
    · rintro ⟨number, lives⟩
      have member := stacked.lives_iff.1 lives
      rwa [if_neg (List.ne_nil_of_mem member)] at current
    · intro none
      have bare : alive = [] :=
        List.eq_nil_iff_forall_not_mem.2 fun number member =>
          none number (stacked.lives_iff.2 member)
      rwa [if_pos bare] at current
  · intro changes guards
    have start : Between mask (unguarded mask) :=
      ⟨.inl rfl, fun found member => absurd member List.not_mem_nil⟩
    have between := start.after changes
    exact ⟨between.current, fun signal other => between.current.eq_of_notMem other⟩

/-- Two guards, one within the other, and then a third; the thread itself holds back one of the
termination signals and another one. -/
theorem mask_brackets_guards_reopened :
    let mask := SignalMask.ofList [Signal.terminate, Signal.user1]
    let closed : List GuardChange := [.create, .create, .drop 1, .drop 0]
    let reopened := closed ++ [.create]
    Nested closed 2 [] ∧ Nested reopened 3 [2] ∧
      (∀ number, ¬((unguarded mask).after closed).Lives number) ∧
      ((unguarded mask).after closed).mask = mask ∧
      ((unguarded mask).after reopened).Lives 2 ∧
      ((unguarded mask).after reopened).mask = mask.guarded ∧
      ((unguarded mask).after reopened).mask Signal.user1 = true := by
  intro mask closed reopened
  have nested : Nested closed 2 [] := .drop (.drop (.create (.create .start)))
  have open_ : Nested reopened 3 [2] := .create nested
  obtain ⟨brackets, either⟩ := mask_brackets_guards mask
  obtain ⟨none, closes⟩ := brackets closed 2 [] nested
  obtain ⟨one, reopens⟩ := brackets reopened 3 [2] open_
  have dead : ∀ number, ¬((unguarded mask).after closed).Lives number :=
    fun number lives => List.not_mem_nil ((none number).1 lives)
  have lives : ((unguarded mask).after reopened).Lives 2 := (one 2).2 (.head _)
  exact ⟨nested, open_, dead, (closes closed [] rfl).2 dead, lives,
    (reopens reopened [] rfl).1 ⟨2, lives⟩, (either reopened).2 Signal.user1 (by decide)⟩

end Guards

end CompilerLauncher
