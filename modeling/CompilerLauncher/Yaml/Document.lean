import CompilerLauncher.Yaml.Event

/-!
A document as a reader of a flat mapping needs it: the keys and values of the outermost mapping,
with what each anchor stands for.

Anchors are numbered by how many different names there are when one is set, so a name that is set
again may share its number with the next new one; what was set last under a number is what the
number stands for. An alias must come after the anchor that it names.
-/

namespace CompilerLauncher

namespace Yaml

/-- A node as far as it is looked at: a scalar, some collection, or an alias by its number. -/
inductive Value
  | scalar (scalar : Scalar)
  | collection
  | alias (number : Nat)
  deriving DecidableEq, Repr

/-- A step through a document. -/
inductive Item
  | leaf (value : Value)
  | open (isMapping : Bool)
  | close
  deriving DecidableEq, Repr

/-- What a document holds outermost. -/
inductive Content
  | nothing
  | single (value : Value)
  | mapping (entries : List (Value × Value))
  deriving DecidableEq, Repr

/-- A document: its content, and what the numbers of anchors stand for, the newest first. -/
structure Document where
  content : Content
  anchors : List (Nat × Value) := []
  deriving DecidableEq, Repr

/-- The anchors set so far: the number of each name, the value of each number, and how many
different names there are. -/
structure Anchors where
  numbers : List (String × Nat) := []
  values : List (Nat × Value) := []
  size : Nat := 0

namespace Anchors

/-- Sets an anchor, if there is one to set. -/
def set (anchors : Anchors) (name : Option String) (value : Value) : Anchors :=
  match name with
  | none => anchors
  | some name =>
    let number := anchors.size
    let isNew := (anchors.numbers.lookup name).isNone
    { numbers := (name, number) :: anchors.numbers
      values := (number, value) :: anchors.values
      size := if isNew then number + 1 else number }

end Anchors

/-- The steps of a stream that holds one document at most. -/
def items : List Event → Anchors → Option (List Item × Anchors)
  | [], anchors => some ([], anchors)
  | .documentStart :: rest, anchors => items rest anchors
  | .documentEnd :: rest, anchors => if rest = [] then some ([], anchors) else none
  | .alias name :: rest, anchors => do
    let number ← anchors.numbers.lookup name
    let (later, anchors) ← items rest anchors
    return (.leaf (.alias number) :: later, anchors)
  | .scalar anchor scalar :: rest, anchors => do
    let (later, anchors) ← items rest (anchors.set anchor (.scalar scalar))
    return (.leaf (.scalar scalar) :: later, anchors)
  | .sequenceStart anchor :: rest, anchors => do
    let (later, anchors) ← items rest (anchors.set anchor .collection)
    return (.open false :: later, anchors)
  | .mappingStart anchor :: rest, anchors => do
    let (later, anchors) ← items rest (anchors.set anchor .collection)
    return (.open true :: later, anchors)
  | .sequenceEnd :: rest, anchors
  | .mappingEnd :: rest, anchors => do
    let (later, anchors) ← items rest anchors
    return (.close :: later, anchors)

/-- The nodes of a collection whose start has been passed; `depth` collections inside it are open.
-/
def children : Nat → List Item → List Value
  | _, [] => []
  | 0, .leaf value :: rest => value :: children 0 rest
  | 0, .open _ :: rest => .collection :: children 1 rest
  | 0, .close :: _ => []
  | depth + 1, .leaf _ :: rest => children (depth + 1) rest
  | depth + 1, .open _ :: rest => children (depth + 2) rest
  | depth + 1, .close :: rest => children depth rest

/-- Keys and values that alternate, as pairs. -/
def pairs : List Value → List (Value × Value)
  | key :: value :: rest => (key, value) :: pairs rest
  | _ => []

/-- What a document's steps hold outermost. -/
def Content.ofItems : List Item → Content
  | .open true :: rest => .mapping (pairs (children 0 rest))
  | .leaf value :: _ => .single value
  | .open false :: _ => .single .collection
  | .close :: _ | [] => .nothing

/-- The document that a text holds. A text that holds none is a document without content; more than
one, or text that is no document, is none. -/
def document? (text : String) : Option Document := do
  let tokens ← tokens? text
  let events ← events? tokens
  let (steps, anchors) ← items events {}
  return ⟨Content.ofItems steps, anchors.values⟩

/-- The scalar that a value is or stands for. -/
def Document.scalar? (document : Document) : Value → Option Scalar
  | .scalar scalar => some scalar
  | .collection => none
  | .alias number =>
    match document.anchors.lookup number with
    | some (.scalar scalar) => some scalar
    | _ => none

/-! ## Reading scalars -/

/-- A tag of the common types. -/
def commonTag (name : String) : Bytes :=
  Utf8.encode s!"tag:yaml.org,2002:{name}"

/-- The spellings of the null value. -/
def nullTexts : List String := ["null", "Null", "NULL", "~"]

/-- A scalar where null may stand: null is nothing, everything else is its text. A scalar that is
tagged as null must be spelled like it. -/
def optionalText? (scalar : Scalar) : Option (Option String) :=
  if scalar.style ≠ .plain then some (some scalar.text)
  else
    match scalar.tag with
    | some tag =>
      if tag = commonTag "null" then
        if nullTexts.contains scalar.text then some none else none
      else some (some scalar.text)
    | none =>
      if scalar.text = "" ∨ nullTexts.contains scalar.text then some none
      else some (some scalar.text)

/-- The truth value of a text. -/
def truth? (text : String) : Option Bool :=
  if ["true", "True", "TRUE"].contains text then some true
  else if ["false", "False", "FALSE"].contains text then some false
  else none

/-- The truth value of a scalar, which must be plain, or literal and tagged as a truth value. -/
def truthOf? (scalar : Scalar) : Option Bool :=
  match scalar.style with
  | .plain => truth? scalar.text
  | .literal => if scalar.tag = some (commonTag "bool") then truth? scalar.text else none
  | _ => none

/-- The content is a scalar that says nothing. -/
def Scalar.isEmpty (scalar : Scalar) : Bool :=
  scalar.style == .plain && scalar.text == ""

end Yaml

end CompilerLauncher
