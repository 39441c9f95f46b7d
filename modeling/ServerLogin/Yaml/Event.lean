import ServerLogin.Yaml.Token.Lexer

/-!
From tokens to events.  The events of a document list its nodes in order, with a
start and an end for every collection.  The grammar is a stack machine: what is
expected next is on top of the stack.
-/

namespace ServerLogin.Yaml

/-- A scalar with its tag, if it has one. -/
structure Scalar where
  text : String
  style : Style
  tag : Option String
deriving DecidableEq, Repr

/-- The events of a document.  Nodes may carry an anchor. -/
inductive Event
  | alias (name : String)
  | scalar (anchor : Option String) (scalar : Scalar)
  | sequenceStart (anchor : Option String)
  | mappingStart (anchor : Option String)
  | collectionEnd
  | documentEnd
deriving DecidableEq, Repr

/-- What is expected next. -/
inductive Expectation
  | firstDocument
  | document
  | documentContent
  | documentEnd
  | blockNode
  | blockSequenceEntry
  | indentlessEntry
  | blockMappingKey
  | blockMappingValue
  | flowSequenceEntry (first : Bool)
  | pairKey
  | pairValue
  | pairEnd
  | flowMappingKey (first : Bool)
  | flowMappingValue
  | flowMappingNoValue
deriving DecidableEq, Repr

/-- Where the grammar stands. -/
structure Grammar where
  tokens : List Token
  stack : List Expectation := [.firstDocument]
  /-- What tag handles stand for. -/
  handles : List (String × String) := []
  events : Array Event := #[]

namespace Grammar

/-- The handles that need no directive. -/
def usualHandles : List (String × String) :=
  [("!", "!"), ("!!", "tag:yaml.org,2002:")]

def emit (g : Grammar) (event : Event) : Grammar :=
  { g with events := g.events.push event }

def drop (g : Grammar) (count : Nat) : Grammar :=
  { g with tokens := g.tokens.drop count }

def expect (g : Grammar) (e : Expectation) : Grammar := { g with stack := e :: g.stack }

/-- A value that is left out. -/
def emptyScalar (anchor tag : Option String) : Event := .scalar anchor ⟨"", .plain, tag⟩

def emitEmpty (g : Grammar) : Grammar := g.emit (emptyScalar none none)

/-- Read the anchor and the tag of a node, in either order. -/
def properties (g : Grammar) : Option String × Option (String × String) × Grammar :=
  match g.tokens with
  | .anchor a :: .tag handle suffix :: _ => (some a, some (handle, suffix), g.drop 2)
  | .anchor a :: _ => (some a, none, g.drop 1)
  | .tag handle suffix :: .anchor a :: _ => (some a, some (handle, suffix), g.drop 2)
  | .tag handle suffix :: _ => (none, some (handle, suffix), g.drop 1)
  | _ => (none, none, g)

/-- The full form of a tag. -/
def fullTag (g : Grammar) : Option (String × String) → Except YamlFault (Option String)
  | none => .ok none
  | some ("", suffix) => .ok (some suffix)
  | some (handle, suffix) =>
    match g.handles.lookup handle with
    | some start => .ok (some (start ++ suffix))
    | none => .error .malformedStructure

/-- Read the start of a node.  Block collections are only allowed outside
brackets, and a sequence without indentation only as a value. -/
def node (block indentless : Bool) (g : Grammar) : Except YamlFault Grammar :=
  match g.tokens with
  | .alias name :: _ => .ok ((g.drop 1).emit (.alias name))
  | _ => do
    let (anchor, tag, g) := g.properties
    let bare := anchor.isNone && tag.isNone
    let tag ← g.fullTag tag
    match g.tokens with
    | .scalar text style :: _ => return (g.drop 1).emit (.scalar anchor ⟨text, style, tag⟩)
    | .flowSequenceStart :: _ =>
      return ((g.drop 1).emit (.sequenceStart anchor)).expect (.flowSequenceEntry true)
    | .flowMappingStart :: _ =>
      return ((g.drop 1).emit (.mappingStart anchor)).expect (.flowMappingKey true)
    | token :: _ =>
      if indentless && token == .blockEntry then
        return (g.emit (.sequenceStart anchor)).expect .indentlessEntry
      else if block && token == .blockSequenceStart then
        return ((g.drop 1).emit (.sequenceStart anchor)).expect .blockSequenceEntry
      else if block && token == .blockMappingStart then
        return ((g.drop 1).emit (.mappingStart anchor)).expect .blockMappingKey
      else if bare then throw .malformedStructure
      else return g.emit (emptyScalar anchor tag)
    | [] => throw .malformedStructure

/-- Read a node, unless one of the given tokens shows that it is left out. -/
def nodeUnless (stops : List Token) (block indentless : Bool) (g : Grammar) :
    Except YamlFault Grammar :=
  if g.tokens.head?.any stops.contains then .ok g.emitEmpty else g.node block indentless

def directives (version : Bool) (handles : List (String × String)) :
    List Token → Except YamlFault (List (String × String) × List Token)
  | .versionDirective major minor :: rest =>
    if version || major ≠ 1 || (minor ≠ 1 && minor ≠ 2) then .error .malformedStructure
    else directives true handles rest
  | .tagDirective handle start :: rest =>
    if (handles.lookup handle).isSome then .error .malformedStructure
    else directives version ((handle, start) :: handles) rest
  | rest => .ok (handles ++ usualHandles, rest)

/-- Read a document that begins with directives or with its mark. -/
def explicitDocument (g : Grammar) : Except YamlFault Grammar := do
  let (handles, tokens) ← directives false [] g.tokens
  match tokens with
  | .documentStart :: rest =>
    return { g with
      tokens := rest, handles := handles, stack := [.documentContent, .documentEnd] }
  | _ => throw .malformedStructure

/-- Whether a token begins a document that is marked. -/
def startsDocument : Token → Bool
  | .versionDirective _ _ => true
  | .tagDirective _ _ => true
  | .documentStart => true
  | _ => false

/-- Read what is expected; `g` no longer has it on its stack. -/
def meet (g : Grammar) : Expectation → Except YamlFault Grammar
  | .firstDocument =>
    match g.tokens with
    | [] => .error .malformedStructure
    | token :: _ =>
      if token == .streamEnd then .ok { g with stack := [] }
      else if startsDocument token then g.explicitDocument
      else .ok { g with handles := usualHandles, stack := [.blockNode, .documentEnd] }
  | .document =>
    let g := { g with tokens := g.tokens.dropWhile (· == Token.documentEnd) }
    if g.tokens.head? == some Token.streamEnd then .ok { g with stack := [] }
    else g.explicitDocument
  | .documentContent =>
    if g.tokens.head?.any fun t =>
        startsDocument t || t == Token.documentEnd || t == Token.streamEnd then
      .ok g.emitEmpty
    else g.node true false
  | .documentEnd =>
    let g := { g with tokens :=
      (if g.tokens.head? == some Token.documentEnd then g.tokens.drop 1 else g.tokens) }
    .ok ((g.emit .documentEnd).expect .document)
  | .blockNode => g.node true false
  | .blockSequenceEntry =>
    match g.tokens with
    | .blockEntry :: _ =>
      ((g.drop 1).expect .blockSequenceEntry).nodeUnless [.blockEntry, .blockEnd] true false
    | .blockEnd :: _ => .ok ((g.drop 1).emit .collectionEnd)
    | _ => .error .malformedStructure
  | .indentlessEntry =>
    match g.tokens with
    | .blockEntry :: _ =>
      ((g.drop 1).expect .indentlessEntry).nodeUnless
        [.blockEntry, .key, .value, .blockEnd] true false
    | _ => .ok (g.emit .collectionEnd)
  | .blockMappingKey =>
    match g.tokens with
    | .key :: _ =>
      ((g.drop 1).expect .blockMappingValue).nodeUnless [.key, .value, .blockEnd] true true
    | .blockEnd :: _ => .ok ((g.drop 1).emit .collectionEnd)
    | _ => .error .malformedStructure
  | .blockMappingValue =>
    match g.tokens with
    | .value :: _ =>
      ((g.drop 1).expect .blockMappingKey).nodeUnless [.key, .value, .blockEnd] true true
    | _ => .ok (g.expect .blockMappingKey).emitEmpty
  | .flowSequenceEntry first =>
    match g.tokens with
    | .flowSequenceEnd :: _ => .ok ((g.drop 1).emit .collectionEnd)
    | tokens =>
      match (if first then some g else match tokens with
        | .flowEntry :: _ => some (g.drop 1)
        | _ => none) with
      | none => .error .malformedStructure
      | some g =>
        match g.tokens with
        | .key :: _ => .ok (((g.drop 1).emit (.mappingStart none)).expect .pairKey)
        | .flowSequenceEnd :: _ => .ok ((g.drop 1).emit .collectionEnd)
        | _ => (g.expect (.flowSequenceEntry false)).node false false
  | .pairKey =>
    if g.tokens.head?.any [Token.value, .flowEntry, .flowSequenceEnd].contains then
      .ok ((g.drop 1).expect .pairValue).emitEmpty
    else (g.expect .pairValue).node false false
  | .pairValue =>
    match g.tokens with
    | .value :: _ =>
      ((g.drop 1).expect .pairEnd).nodeUnless [.flowEntry, .flowSequenceEnd] false false
    | _ => .ok (g.expect .pairEnd).emitEmpty
  | .pairEnd => .ok ((g.emit .collectionEnd).expect (.flowSequenceEntry false))
  | .flowMappingKey first =>
    match g.tokens with
    | .flowMappingEnd :: _ => .ok ((g.drop 1).emit .collectionEnd)
    | tokens =>
      match (if first then some g else match tokens with
        | .flowEntry :: _ => some (g.drop 1)
        | _ => none) with
      | none => .error .malformedStructure
      | some g =>
        match g.tokens with
        | .key :: _ =>
          ((g.drop 1).expect .flowMappingValue).nodeUnless
            [.value, .flowEntry, .flowMappingEnd] false false
        | .flowMappingEnd :: _ => .ok ((g.drop 1).emit .collectionEnd)
        | _ => (g.expect .flowMappingNoValue).node false false
  | .flowMappingValue =>
    match g.tokens with
    | .value :: _ =>
      ((g.drop 1).expect (.flowMappingKey false)).nodeUnless
        [.flowEntry, .flowMappingEnd] false false
    | _ => .ok (g.expect (.flowMappingKey false)).emitEmpty
  | .flowMappingNoValue => .ok (g.expect (.flowMappingKey false)).emitEmpty

/-- Meet expectations until none is left. -/
def run : Nat → Grammar → Except YamlFault (Array Event)
  | 0, _ => .error .malformedStructure
  | steps + 1, g =>
    match g.stack with
    | [] => .ok g.events
    | e :: stack => do run steps (← { g with stack := stack }.meet e)

end Grammar

/-- The events of all documents in a text.  No more than a few expectations are met
between two tokens. -/
def Event.read (text : String) : Except YamlFault (Array Event) := do
  let tokens ← Lexer.read text
  Grammar.run (8 * tokens.size + 16) { tokens := tokens.toList }

end ServerLogin.Yaml
