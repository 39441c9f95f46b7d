import ServerLogin.Text.Digit
import ServerLogin.Yaml.Token.Basic

/-!
Block scalars: the more indented lines behind `|` or `>`.  The header may fix
the indentation and what becomes of the line breaks at the end.
-/

namespace ServerLogin.Yaml

/-- What becomes of the line breaks at the end of a block scalar. -/
inductive Chomping
  | strip
  | clip
  | keep
deriving DecidableEq, Repr

/-- The breaks that are kept of those at the end, in reverse. -/
def Chomping.tail (chomping : Chomping) (lineBreak emptyLines : List Char) : List Char :=
  match chomping with
  | .strip => []
  | .clip => lineBreak
  | .keep => emptyLines ++ lineBreak

/-- The header of a block scalar. -/
structure BlockHeader where
  chomping : Chomping := .clip
  /-- Columns beyond the surrounding indentation, when they are written. -/
  increment : Option Nat := none

def chomping? : List Char → Option Chomping
  | '+' :: _ => some .keep
  | '-' :: _ => some .strip
  | _ => none

def digit? (cs : List Char) : Except YamlFault (Option Nat) :=
  match cs with
  | c :: _ =>
    if c == '0' then .error .malformedToken
    else if c.isDigit then .ok (some (Text.ofDigits 10 [c]))
    else .ok none
  | [] => .ok none

/-- Read the indicators of a header, in either order. -/
def readIndicators (c : Cursor) : Except YamlFault (BlockHeader × Cursor) :=
  match chomping? c.rest with
  | some chomping => do
    let c := c.along 1
    match ← digit? c.rest with
    | some n => .ok (⟨chomping, some n⟩, c.along 1)
    | none => .ok (⟨chomping, none⟩, c)
  | none => do
    match ← digit? c.rest with
    | none => .ok ({}, c)
    | some n =>
      let c := c.along 1
      match chomping? c.rest with
      | some chomping => .ok (⟨chomping, some n⟩, c.along 1)
      | none => .ok (⟨.clip, some n⟩, c)

def readHeader (c : Cursor) : Except YamlFault (BlockHeader × Cursor) := do
  let (header, c) ← readIndicators c
  let c := c.skipWhile isBlank
  let c := if c.rest.head? == some '#' then c.skipWhile (!isBreak ·) else c
  if atBreak c.rest then .ok (header, c.skipBreak) else .error .malformedToken

/-- The empty lines before a line with text. -/
structure Margin where
  /-- The breaks, in reverse. -/
  breaks : List Char
  /-- The widest indentation seen. -/
  widest : Nat
  next : Cursor

/-- Read indentation and empty lines.  While the indentation is not known, all
spaces belong to it. -/
def readMargin (indent : Option Nat) (breaks : List Char) (widest : Nat) (p : Position) :
    List Char → Except YamlFault Margin
  | [] => .ok ⟨breaks, max widest p.column, ⟨p, []⟩⟩
  | '\r' :: '\n' :: rest =>
    readMargin indent ('\n' :: breaks) (max widest p.column) (p.nextLine 2) rest
  | c :: rest =>
    let within := match indent with
      | none => true
      | some n => p.column < n
    if c == ' ' && within then readMargin indent breaks widest p.next rest
    else if c == '\t' && within then .error .malformedToken
    else if isBreak c then
      readMargin indent (normalBreak c :: breaks) (max widest p.column) (p.nextLine 1) rest
    else .ok ⟨breaks, max widest p.column, ⟨p, c :: rest⟩⟩

/-- The text read so far and the breaks behind it, all in reverse. -/
structure BlockText where
  text : List Char := []
  /-- The break that ended the last line. -/
  lineBreak : List Char := []
  /-- The breaks of the empty lines behind it. -/
  emptyLines : List Char := []
  /-- Whether the last line began with a blank. -/
  blankStart : Bool := false

/-- Add a line.  Between two lines that do not begin with a blank a folded scalar
has a space in place of the break. -/
def BlockText.addLine (folded : Bool) (t : BlockText) (line : List Char) : List Char :=
  let blankStart := line.head?.any isBlank
  let joint :=
    if folded && t.lineBreak == ['\n'] && !t.blankStart && !blankStart then
      (if t.emptyLines.isEmpty then [' '] else [])
    else t.lineBreak
  line.reverse ++ (t.emptyLines ++ (joint ++ t.text))

/-- Read lines of the given indentation. -/
def readLines (folded : Bool) (indent : Nat) :
    Nat → BlockText → Cursor → Except YamlFault (BlockText × Cursor)
  | 0, t, c => .ok (t, c)
  | steps + 1, t, c =>
    if c.position.column != indent || c.rest.isEmpty then .ok (t, c)
    else do
      let line := c.rest.takeWhile (!isBreak ·)
      let atEnd := c.along line.length
      let lineBreak := match atEnd.rest with
        | [] => []
        | b :: _ => [normalBreak b]
      let next := atEnd.skipBreak
      let margin ← readMargin (some indent) [] 0 next.position next.rest
      readLines folded indent steps
        { text := t.addLine folded line, lineBreak := lineBreak, emptyLines := margin.breaks,
          blankStart := line.head?.any isBlank } margin.next

/-- Read a block scalar, from its mark on.  `outer` is the indentation around it,
none at the top level. -/
def readBlockScalar (folded : Bool) (outer : Option Nat) (c : Cursor) :
    Except YamlFault (List Char × Cursor) := do
  let (header, c) ← readHeader (c.along 1)
  let written := header.increment.map fun n => outer.getD 0 + n
  let margin ← readMargin written [] 0 c.position c.rest
  let least := match outer with
    | none => 1
    | some n => max 1 (n + 1)
  let indent := written.getD (max margin.widest least)
  let (t, c) ← readLines folded indent (margin.next.rest.length + 1)
    { emptyLines := margin.breaks } margin.next
  .ok ((header.chomping.tail t.lineBreak t.emptyLines ++ t.text).reverse, c)

end ServerLogin.Yaml
