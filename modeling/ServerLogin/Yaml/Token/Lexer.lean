import ServerLogin.Yaml.Token.Block
import ServerLogin.Yaml.Token.Plain
import ServerLogin.Yaml.Token.Quoted
import ServerLogin.Yaml.Token.Tag

/-!
From characters to tokens.  Indentation becomes tokens that open and close block
collections.  Whether a node is the key of a mapping shows only at the colon
behind it: where a key could start, the place is remembered, and at the colon a
key token is put in front of the node.
-/

namespace ServerLogin.Yaml

/-- A place where a key may have started. -/
structure KeyStart where
  /-- Whether nothing but a key may stand there. -/
  required : Bool
  /-- How many tokens come before it. -/
  tokens : Nat
  position : Position

/-- Where the lexer stands. -/
structure Lexer where
  cursor : Cursor
  tokens : Array Token := #[]
  /-- The columns of the open block collections, innermost first. -/
  indents : List Nat := []
  /-- Whether a key may start here. -/
  keyAllowed : Bool := true
  /-- The open key start of the block level and of each bracket, innermost first;
  there is one more than brackets are open. -/
  keys : List (Option KeyStart) := [none]

namespace Lexer

/-- Whether a bracket is open. -/
def inFlow (l : Lexer) : Bool := 1 < l.keys.length

def push (l : Lexer) (token : Token) : Lexer := { l with tokens := l.tokens.push token }

/-- Put a token behind the first `count` ones. -/
def insert (l : Lexer) (count : Nat) (token : Token) : Lexer :=
  { l with tokens :=
      l.tokens.extract 0 count ++ #[token] ++ l.tokens.extract count l.tokens.size }

def skip (l : Lexer) (count : Nat) : Lexer := { l with cursor := l.cursor.along count }

/-- Pass over blanks, comments and line breaks.  A tab counts as blank only where
no key may start. -/
def skipGap (flow keyAllowed comment : Bool) (p : Position) : List Char → Bool × Cursor
  | [] => (keyAllowed, ⟨p, []⟩)
  | '\r' :: '\n' :: rest => skipGap flow (keyAllowed || !flow) false (p.nextLine 2) rest
  | c :: rest =>
    if isBreak c then skipGap flow (keyAllowed || !flow) false (p.nextLine 1) rest
    else if comment || c == '#' then skipGap flow keyAllowed true p.next rest
    else if c == ' ' || (c == '\t' && (flow || !keyAllowed))
        || (c.toNat == 0xFEFF && p.column == 0) then
      skipGap flow keyAllowed false p.next rest
    else (keyAllowed, ⟨p, c :: rest⟩)

/-- Forget key starts that lie on an earlier line or too far back. -/
def dropStale (l : Lexer) : Except YamlFault Lexer := do
  let now := l.cursor.position
  let keys ← l.keys.mapM fun key? =>
    match key? with
    | none => .ok none
    | some key =>
      if key.position.line < now.line || key.position.index + 1024 < now.index then
        if key.required then .error .malformedToken else .ok none
      else .ok (some key)
  return { l with keys := keys }

/-- Forget the innermost key start, which must not be a required one. -/
def dropKey (l : Lexer) : Except YamlFault Lexer :=
  match l.keys with
  | some key :: outer =>
    if key.required then .error .malformedToken else .ok { l with keys := none :: outer }
  | _ => .ok l

/-- Remember that a key may start here. -/
def saveKey (l : Lexer) : Except YamlFault Lexer := do
  if !l.keyAllowed then return l
  let required := !l.inFlow && l.indents.head? == some l.cursor.position.column
  let l ← l.dropKey
  return { l with keys := some ⟨required, l.tokens.size, l.cursor.position⟩ :: l.keys.drop 1 }

/-- Open a block collection behind the first `count` tokens, if `column` lies
further in than the open ones. -/
def openBlock (l : Lexer) (column count : Nat) (token : Token) : Lexer :=
  let deeper := match l.indents with
    | [] => true
    | indent :: _ => indent < column
  if l.inFlow || !deeper then l
  else { l.insert count token with indents := column :: l.indents }

/-- Close the block collections that lie further in than `column`; all of them at
the end. -/
def closeBlocks (l : Lexer) (column : Option Nat) : Lexer :=
  if l.inFlow then l
  else
    let deeper (indent : Nat) : Bool := match column with
      | none => true
      | some column => column < indent
    { l with
      tokens := l.tokens ++ Array.replicate (l.indents.takeWhile deeper).length Token.blockEnd
      indents := l.indents.dropWhile deeper }

def documentMark (l : Lexer) (token : Token) : Except YamlFault Lexer := do
  let l ← (l.closeBlocks none).dropKey
  return ({ l with keyAllowed := false }.push token).skip 3

def openFlow (l : Lexer) (token : Token) : Except YamlFault Lexer := do
  let l ← l.saveKey
  return ({ l with keys := none :: l.keys, keyAllowed := true }.push token).skip 1

def closeFlow (l : Lexer) (token : Token) : Except YamlFault Lexer := do
  let l ← l.dropKey
  let keys := if l.inFlow then l.keys.drop 1 else l.keys
  return ({ l with keys := keys, keyAllowed := false }.push token).skip 1

def blockEntry (l : Lexer) : Except YamlFault Lexer := do
  if !l.inFlow && !l.keyAllowed then throw .malformedToken
  let l := l.openBlock l.cursor.position.column l.tokens.size .blockSequenceStart
  let l ← l.dropKey
  return ({ l with keyAllowed := true }.push .blockEntry).skip 1

/-- Read the mark of a key that is spelled out. -/
def explicitKey (l : Lexer) : Except YamlFault Lexer := do
  if !l.inFlow && !l.keyAllowed then throw .malformedToken
  let l := l.openBlock l.cursor.position.column l.tokens.size .blockMappingStart
  let l ← l.dropKey
  return ({ l with keyAllowed := !l.inFlow }.push .key).skip 1

/-- Read the colon in front of a value. -/
def mappingValue (l : Lexer) : Except YamlFault Lexer := do
  match l.keys with
  | some key :: outer =>
    let l := (l.insert key.tokens .key).openBlock key.position.column key.tokens .blockMappingStart
    return ({ l with keys := none :: outer, keyAllowed := false }.push .value).skip 1
  | _ =>
    if !l.inFlow && !l.keyAllowed then throw .malformedToken
    let l := l.openBlock l.cursor.position.column l.tokens.size .blockMappingStart
    return ({ l with keyAllowed := !l.inFlow }.push .value).skip 1

/-- Whether a plain scalar may start with these characters. -/
def startsPlain (flow : Bool) : List Char → Bool
  | [] => false
  | c :: rest =>
    if c == '-' then !rest.head?.any isBlank
    else if c == '?' || c == ':' then !flow && !atGap rest
    else !isBlank c && !isBreak c && !",[]\x7b\x7d#&*!|>\x27\"%@\x60".toList.contains c

/-- Read a scalar that may be a key. -/
def plainScalar (l : Lexer) : Except YamlFault Lexer := do
  let l ← l.saveKey
  let indent := match l.indents with
    | [] => 0
    | indent :: _ => indent + 1
  let scalar ← PlainScalar.read l.inFlow indent l.cursor
  return { l with cursor := scalar.next, keyAllowed := scalar.brokenOff }.push
    (.scalar (String.ofList scalar.text) .plain)

def quotedScalar (l : Lexer) (single : Bool) : Except YamlFault Lexer := do
  let l ← l.saveKey
  let (text, cursor) ← readQuotedScalar single l.cursor
  return { l with cursor := cursor, keyAllowed := false }.push
    (.scalar (String.ofList text) (if single then .singleQuoted else .doubleQuoted))

def blockScalar (l : Lexer) (folded : Bool) : Except YamlFault Lexer := do
  let l ← l.dropKey
  let (text, cursor) ← readBlockScalar folded l.indents.head? l.cursor
  return { l with cursor := cursor, keyAllowed := true }.push
    (.scalar (String.ofList text) (if folded then .folded else .literal))

def anchor (l : Lexer) (token : String → Token) : Except YamlFault Lexer := do
  let l ← l.saveKey
  let (name, cursor) ← readAnchor l.cursor
  return { l with cursor := cursor, keyAllowed := false }.push (token name)

def tag (l : Lexer) : Except YamlFault Lexer := do
  let l ← l.saveKey
  let (token, cursor) ← readTag l.inFlow l.cursor
  return { l with cursor := cursor, keyAllowed := false }.push token

def directive (l : Lexer) : Except YamlFault Lexer := do
  let l ← (l.closeBlocks none).dropKey
  let (token, cursor) ← readDirective l.cursor
  return { l with cursor := cursor, keyAllowed := false }.push token

def token (l : Lexer) (c : Char) (rest : List Char) : Except YamlFault Lexer :=
  let flow := l.inFlow
  let atStart := l.cursor.position.column == 0
  if atStart && c == '%' then l.directive
  else if atStart && atDocumentMark (c :: rest) then
    l.documentMark (if c == '-' then .documentStart else .documentEnd)
  else match c with
    | '[' => l.openFlow .flowSequenceStart
    | '\x7b' => l.openFlow .flowMappingStart
    | ']' => l.closeFlow .flowSequenceEnd
    | '\x7d' => l.closeFlow .flowMappingEnd
    | ',' => do
      let l ← l.dropKey
      return ({ l with keyAllowed := true }.push .flowEntry).skip 1
    | '*' => l.anchor .alias
    | '&' => l.anchor .anchor
    | '!' => l.tag
    | '\x27' => l.quotedScalar true
    | '"' => l.quotedScalar false
    | _ =>
      if c == '-' && atGap rest then l.blockEntry
      else if c == '?' && (flow || atGap rest) then l.explicitKey
      else if c == ':' && (flow || atGap rest) then l.mappingValue
      else if (c == '|' || c == '>') && !flow then l.blockScalar (c == '>')
      else if startsPlain flow (c :: rest) then l.plainScalar
      else .error .malformedToken

/-- Close everything at the end of the text. -/
def finish (l : Lexer) : Except YamlFault (Array Token) := do
  let l ← (l.closeBlocks none).dropKey
  return l.tokens.push .streamEnd

/-- Read tokens up to the end; each takes at least one character. -/
def run : Nat → Lexer → Except YamlFault (Array Token)
  | 0, _ => .error .malformedToken
  | steps + 1, l => do
    let (keyAllowed, cursor) :=
      skipGap l.inFlow l.keyAllowed false l.cursor.position l.cursor.rest
    let l ← { l with keyAllowed := keyAllowed, cursor := cursor }.dropStale
    let l := l.closeBlocks (some cursor.position.column)
    match cursor.rest with
    | [] => l.finish
    | c :: rest => run steps (← l.token c rest)

def read (text : String) : Except YamlFault (Array Token) :=
  let cs := text.toList
  if cs.all isAllowed then run (cs.length + 1) { cursor := ⟨{}, cs⟩ }
  else .error .forbiddenCharacter

end Lexer

end ServerLogin.Yaml
