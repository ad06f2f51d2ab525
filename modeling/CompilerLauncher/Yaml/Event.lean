import CompilerLauncher.Yaml.Scanner

/-!
From tokens to events: the grammar of documents.

The grammar is a list of goals, the first of which is due next. A goal looks at the next token, may
take it, may produce events, and is replaced by the goals that remain of it. Where a node is left
out an empty scalar stands for it.
-/

namespace CompilerLauncher

namespace Yaml

/-- A scalar as it stands in a document: its style, its tag if it has one, and its text. -/
structure Scalar where
  style : Style := .plain
  tag : Option Bytes := none
  text : String := ""
  deriving DecidableEq, Repr

/-- What happens on the way through a stream of documents. A node that carries an anchor names
it. -/
inductive Event
  | documentStart
  | documentEnd
  | alias (name : String)
  | scalar (anchor : Option String) (scalar : Scalar)
  | sequenceStart (anchor : Option String)
  | sequenceEnd
  | mappingStart (anchor : Option String)
  | mappingEnd
  deriving DecidableEq, Repr

/-- What is due in a stream of documents. -/
inductive Goal
  | documents (first : Bool)
  | documentContent
  | documentClose
  | node (inBlock mayIndentless : Bool)
  | blockSequence
  | indentlessSequence
  | blockMapping
  | blockValue
  | flowSequence (first : Bool)
  | flowPairKey
  | flowPairValue
  | flowPairEnd
  | flowMapping (first : Bool)
  | flowValue
  | flowNoValue
  deriving DecidableEq, Repr

/-- The handles for tags that are known, with what they stand for. -/
abbrev Handles := List (Bytes × Bytes)

/-- What is left to do: the tokens, the goals and the handles of the current document. -/
structure Parse where
  tokens : List Token
  goals : List Goal
  handles : Handles := []

/-- The events of a step, and what is left to do then. -/
abbrev Step := Option (List Event × Parse)

namespace Parse

/-- The event of a node that is left out. -/
def absent : Event := .scalar none {}

/-- The handles that every document knows. -/
def usualHandles : Handles :=
  [([bang], [bang]), ([bang, bang], Utf8.encode "tag:yaml.org,2002:")]

/-- A step without events. -/
def quietly (tokens : List Token) (goals : List Goal) (handles : Handles) : Step :=
  some ([], ⟨tokens, goals, handles⟩)

/-! ## Documents -/

/-- The directives before a document: whether a version was given, and the handles. -/
def directives : Bool → Handles → List Token → Option (Handles × List Token)
  | versioned, handles, .version major minor :: rest =>
    if versioned || major != 1 || !(minor == 1 || minor == 2) then none
    else directives true handles rest
  | versioned, handles, .handle handle start :: rest =>
    if (handles.lookup handle).isSome then none
    else directives versioned (handles ++ [(handle, start)]) rest
  | _, handles, rest => some (handles, rest)

/-- A token that may not begin a document without the mark that begins one. -/
def needsMark : Token → Bool
  | .version .. | .handle .. | .documentStart => true
  | _ => false

/-- A token that ends a document's content. -/
def endsContent : Token → Bool
  | .version .. | .handle .. | .documentStart | .documentEnd => true
  | _ => false

/-- Whether the next token passes the test, the end of the tokens included. -/
def nextIs (test : Token → Bool) : List Token → Bool
  | [] => true
  | token :: _ => test token

/-- Whether the next token is one of those listed. -/
def isNext (tokens : List Token) (listed : List Token) : Bool :=
  tokens.head?.any listed.contains

/-- Starts the next document, or ends the stream. Only the first document may do without a mark. -/
def startDocument (first : Bool) (tokens : List Token) (goals : List Goal) : Step :=
  let tokens := if first then tokens else tokens.dropWhile (· == .documentEnd)
  match tokens with
  | [] => quietly [] goals []
  | token :: _ =>
    if first && !needsMark token then
      some ([.documentStart],
        ⟨tokens, .node true false :: .documentClose :: goals, usualHandles⟩)
    else
      match directives false [] tokens with
      | some (handles, .documentStart :: rest) =>
        some ([.documentStart],
          ⟨rest, .documentContent :: .documentClose :: goals, handles ++ usualHandles⟩)
      | _ => none

/-! ## Nodes -/

/-- The bytes of a tag or of a part of one that count: a zero byte, which only an escape can put
there, ends it. -/
def untilZero (bytes : Bytes) : Bytes :=
  bytes.takeWhile (· != 0)

/-- A tag in full: the handle replaced by what it stands for. -/
def fullTag (handles : Handles) (handle suffix : Bytes) : Option Bytes :=
  if handle = [] then some (untilZero suffix)
  else (handles.lookup handle).map fun start => untilZero start ++ untilZero suffix

/-- What may stand before a node: an anchor and a tag, in either order. -/
structure Properties where
  anchor : Option String := none
  tag : Option Bytes := none

/-- Reads what stands before a node. -/
def properties (handles : Handles) : List Token → Option (Properties × List Token)
  | .anchor name :: .tag handle suffix :: rest
  | .tag handle suffix :: .anchor name :: rest =>
    (fullTag handles handle suffix).map fun tag => (⟨some name, some tag⟩, rest)
  | .anchor name :: rest => some (⟨some name, none⟩, rest)
  | .tag handle suffix :: rest =>
    (fullTag handles handle suffix).map fun tag => (⟨none, some tag⟩, rest)
  | rest => some ({}, rest)

/-- Reads a node. -/
def node (inBlock mayIndentless : Bool) (parse : Parse) (goals : List Goal) : Step :=
  match parse.tokens with
  | .alias name :: rest => some ([.alias name], ⟨rest, goals, parse.handles⟩)
  | tokens => do
    let (found, tokens) ← properties parse.handles tokens
    let go (event : Event) (rest : List Token) (goals : List Goal) : Step :=
      some ([event], ⟨rest, goals, parse.handles⟩)
    match tokens, inBlock with
    | .blockEntry :: _, _ =>
      if mayIndentless then
        go (.sequenceStart found.anchor) tokens (.indentlessSequence :: goals)
      else left found go tokens
    | .scalar style text :: rest, _ =>
      go (.scalar found.anchor ⟨style, found.tag, text⟩) rest goals
    | .flowSequenceStart :: rest, _ =>
      go (.sequenceStart found.anchor) rest (.flowSequence true :: goals)
    | .flowMappingStart :: rest, _ =>
      go (.mappingStart found.anchor) rest (.flowMapping true :: goals)
    | .blockSequenceStart :: rest, true =>
      go (.sequenceStart found.anchor) rest (.blockSequence :: goals)
    | .blockMappingStart :: rest, true =>
      go (.mappingStart found.anchor) rest (.blockMapping :: goals)
    | tokens, _ => left found go tokens
where
  /-- Only a node with an anchor or a tag may be left out here. -/
  left (found : Properties) (go : Event → List Token → List Goal → Step)
      (tokens : List Token) : Step :=
    if found.anchor.isSome || found.tag.isSome then
      go (.scalar found.anchor ⟨.plain, found.tag, ""⟩) tokens goals
    else none

/-! ## Collections -/

/-- Goes on with a node, unless one of the listed tokens shows that it is left out. -/
def nodeUnless (listed : List Token) (goal : Goal) (after : Goal) (tokens : List Token)
    (goals : List Goal) (handles : Handles) : Step :=
  if isNext tokens listed then some ([absent], ⟨tokens, after :: goals, handles⟩)
  else quietly tokens (goal :: after :: goals) handles

/-- The next entry of a flow collection, behind the separator that is due before all but the
first. -/
def behindSeparator (first : Bool) (close : Token) (tokens : List Token) : Option (List Token) :=
  if first || isNext tokens [close] then some tokens
  else
    match tokens with
    | .flowEntry :: rest => some rest
    | _ => none

/-- Performs the goal that is due. -/
def perform (parse : Parse) (goal : Goal) (goals : List Goal) : Step :=
  let handles := parse.handles
  match goal, parse.tokens with
  | .documents first, tokens => startDocument first tokens goals
  | .documentContent, tokens =>
    if nextIs endsContent tokens then some ([absent], ⟨tokens, goals, handles⟩)
    else quietly tokens (.node true false :: goals) handles
  | .documentClose, .documentEnd :: rest =>
    some ([.documentEnd], ⟨rest, .documents false :: goals, []⟩)
  | .documentClose, tokens => some ([.documentEnd], ⟨tokens, .documents false :: goals, []⟩)
  | .node inBlock mayIndentless, _ => node inBlock mayIndentless parse goals
  | .blockSequence, .blockEntry :: rest =>
    nodeUnless [.blockEntry, .blockEnd] (.node true false) .blockSequence rest goals handles
  | .blockSequence, .blockEnd :: rest => some ([.sequenceEnd], ⟨rest, goals, handles⟩)
  | .blockSequence, _ => none
  | .indentlessSequence, .blockEntry :: rest =>
    nodeUnless [.blockEntry, .key, .value, .blockEnd] (.node true false) .indentlessSequence rest
      goals handles
  | .indentlessSequence, tokens => some ([.sequenceEnd], ⟨tokens, goals, handles⟩)
  | .blockMapping, .key :: rest =>
    nodeUnless [.key, .value, .blockEnd] (.node true true) .blockValue rest goals handles
  | .blockMapping, .blockEnd :: rest => some ([.mappingEnd], ⟨rest, goals, handles⟩)
  | .blockMapping, _ => none
  | .blockValue, .value :: rest =>
    nodeUnless [.key, .value, .blockEnd] (.node true true) .blockMapping rest goals handles
  | .blockValue, tokens => some ([absent], ⟨tokens, .blockMapping :: goals, handles⟩)
  | .flowSequence first, tokens => do
    match ← behindSeparator first .flowSequenceEnd tokens with
    | .flowSequenceEnd :: rest => some ([.sequenceEnd], ⟨rest, goals, handles⟩)
    | .key :: rest =>
      some ([.mappingStart none], ⟨rest, .flowPairKey :: .flowSequence false :: goals, handles⟩)
    | tokens => quietly tokens (.node false false :: .flowSequence false :: goals) handles
  | .flowPairKey, tokens =>
    if isNext tokens [.value, .flowEntry, .flowSequenceEnd] then
      some ([absent], ⟨tokens.tail, .flowPairValue :: goals, handles⟩)
    else quietly tokens (.node false false :: .flowPairValue :: goals) handles
  | .flowPairValue, .value :: rest =>
    nodeUnless [.flowEntry, .flowSequenceEnd] (.node false false) .flowPairEnd rest goals handles
  | .flowPairValue, tokens => some ([absent], ⟨tokens, .flowPairEnd :: goals, handles⟩)
  | .flowPairEnd, tokens => some ([.mappingEnd], ⟨tokens, goals, handles⟩)
  | .flowMapping first, tokens => do
    match ← behindSeparator first .flowMappingEnd tokens with
    | .flowMappingEnd :: rest => some ([.mappingEnd], ⟨rest, goals, handles⟩)
    | .key :: rest =>
      nodeUnless [.value, .flowEntry, .flowMappingEnd] (.node false false) .flowValue rest goals
        handles
    | tokens => quietly tokens (.node false false :: .flowNoValue :: goals) handles
  | .flowValue, .value :: rest =>
    nodeUnless [.flowEntry, .flowMappingEnd] (.node false false) (.flowMapping false) rest goals
      handles
  | .flowValue, tokens => some ([absent], ⟨tokens, .flowMapping false :: goals, handles⟩)
  | .flowNoValue, tokens => some ([absent], ⟨tokens, .flowMapping false :: goals, handles⟩)

/-- Performs goals until none is left, at most as many as `fuel`. The events are held newest
first. -/
def run : Nat → List Event → Parse → Option (List Event)
  | 0, _, _ => none
  | fuel + 1, backward, parse =>
    match parse.goals with
    | [] => some backward.reverse
    | goal :: goals =>
      match parse.perform goal goals with
      | some (events, next) => run fuel (events.reverse ++ backward) next
      | none => none

end Parse

/-- The events of a stream of tokens, if the grammar allows it. Between two tokens that are taken no
more than six goals are performed. -/
def events? (tokens : List Token) : Option (List Event) :=
  Parse.run (6 * (tokens.length + 2)) [] ⟨tokens, [.documents true], []⟩

end Yaml

end CompilerLauncher
