import CompilerLauncher.Yaml.Document

/-!
# Documents that are one flat mapping

A flat document is one mapping whose keys and values are scalars that are written plainly or in
quotes, without anchors, aliases or tags. `IsFlat` says so by the events that its text gives, so that
comments, indentation and the ways to break lines make no difference. What such a document holds are
its entries, in order (`document?_of_isFlat`).
-/

namespace CompilerLauncher

namespace Yaml

/-- A key and its value. -/
abbrev Assignment := Scalar × Scalar

/-- A scalar without a tag that is written plainly or in quotes. -/
structure Scalar.IsSimple (scalar : Scalar) : Prop where
  untagged : scalar.tag = none
  inline : scalar.style = .plain ∨ scalar.style = .singleQuoted ∨ scalar.style = .doubleQuoted

instance (scalar : Scalar) : Decidable scalar.IsSimple :=
  decidable_of_iff (scalar.tag = none ∧ (scalar.style = .plain ∨ scalar.style = .singleQuoted ∨
      scalar.style = .doubleQuoted))
    ⟨fun simple => ⟨simple.1, simple.2⟩, fun simple => ⟨simple.untagged, simple.inline⟩⟩

/-- The events of an entry. -/
def Assignment.events (entry : Assignment) : List Event :=
  [.scalar none entry.1, .scalar none entry.2]

/-- The events of a document that is one mapping of scalars. -/
def flatEvents (entries : List Assignment) : List Event :=
  .documentStart :: .mappingStart none ::
    (entries.flatMap Assignment.events ++ [.mappingEnd, .documentEnd])

/-- The text is a document that is one mapping with the given entries. -/
structure IsFlat (text : String) (entries : List Assignment) : Prop where
  reads : (tokens? text).bind events? = some (flatEvents entries)
  simple : ∀ entry ∈ entries, entry.1.IsSimple ∧ entry.2.IsSimple

/-- The two nodes of an entry. -/
def Assignment.values (entry : Assignment) : List Value :=
  [.scalar entry.1, .scalar entry.2]

/-- The entry as a pair of nodes. -/
def Assignment.pair (entry : Assignment) : Value × Value :=
  (.scalar entry.1, .scalar entry.2)

section Entries

variable {entries : List Assignment}

theorem items_entries (entries : List Assignment) (rest : List Event) (anchors : Anchors) :
    items (entries.flatMap Assignment.events ++ rest) anchors =
      (items rest anchors).map fun (later, final) =>
        ((entries.flatMap Assignment.values).map .leaf ++ later, final) := by
  induction entries with
  | nil => simp
  | cons entry entries ih =>
    simp only [List.flatMap_cons, Assignment.events, Assignment.values, List.cons_append,
      List.nil_append, items, Anchors.set, ih]
    cases items rest anchors <;> rfl

theorem items_flatEvents (entries : List Assignment) :
    items (flatEvents entries) {} =
      some (.open true :: ((entries.flatMap Assignment.values).map .leaf ++ [.close]), {}) := by
  rw [flatEvents, items, items, Anchors.set, items_entries]
  rfl

theorem children_leaves (values : List Value) :
    children 0 (values.map .leaf ++ [.close]) = values := by
  induction values with
  | nil => rfl
  | cons value values ih => rw [List.map_cons, List.cons_append, children, ih]

theorem pairs_values (entries : List Assignment) :
    pairs (entries.flatMap Assignment.values) = entries.map Assignment.pair := by
  induction entries with
  | nil => rfl
  | cons entry entries ih =>
    rw [List.flatMap_cons, List.map_cons, ← ih]
    rfl

/-- A flat document holds its entries and sets no anchor. -/
theorem document?_of_isFlat {text : String} (flat : IsFlat text entries) :
    document? text = some { content := .mapping (entries.map Assignment.pair) } := by
  obtain ⟨tokens, made, grouped⟩ := Option.bind_eq_some_iff.1 flat.reads
  simp only [document?, made, grouped, items_flatEvents, Option.bind_eq_bind, Option.bind_some,
    Content.ofItems, children_leaves, pairs_values]
  rfl

end Entries

end Yaml

end CompilerLauncher
