/-!
The characters of a document: which may occur at all, which break a line, and
where in the text a reader stands.
-/

namespace ServerLogin.Yaml

def isAllowed (c : Char) : Bool :=
  let n := c.toNat
  n == 0x9 || n == 0xA || n == 0xD || (0x20 ≤ n && n ≤ 0x7E) || n == 0x85
    || (0xA0 ≤ n && n ≤ 0xFFFD) || 0x10000 ≤ n

/-- Whether a character breaks a line. -/
def isBreak (c : Char) : Bool :=
  c == '\n' || c == '\r' || c.toNat == 0x85 || c.toNat == 0x2028 || c.toNat == 0x2029

/-- A line break as it counts in a scalar: the line and paragraph separators stay
what they are. -/
def normalBreak (c : Char) : Char :=
  if c.toNat == 0x2028 || c.toNat == 0x2029 then c else '\n'

/-- Whether a character is a space or a tab. -/
def isBlank (c : Char) : Bool := c == ' ' || c == '\t'

/-- Whether a text is at its end or at a space, a tab or a line break. -/
def atGap : List Char → Bool
  | [] => true
  | c :: _ => isBlank c || isBreak c

/-- Whether a text is at its end or at a line break. -/
def atBreak : List Char → Bool
  | [] => true
  | c :: _ => isBreak c

/-- The characters of anchors, directives and tag handles. -/
def isNameChar (c : Char) : Bool := c.isAlphanum || c == '_' || c == '-'

/-- Whether a text begins with the mark that starts or ends a document. -/
def atDocumentMark (cs : List Char) : Bool :=
  match cs with
  | '-' :: '-' :: '-' :: rest => atGap rest
  | '.' :: '.' :: '.' :: rest => atGap rest
  | _ => false

structure Position where
  index : Nat := 0
  line : Nat := 0
  column : Nat := 0
deriving DecidableEq, Repr

/-- Behind some characters of the same line. -/
def Position.along (p : Position) (count : Nat) : Position :=
  { p with index := p.index + count, column := p.column + count }

def Position.next (p : Position) : Position := p.along 1

/-- At the start of the next line, behind a break of `width` characters. -/
def Position.nextLine (p : Position) (width : Nat) : Position :=
  { index := p.index + width, line := p.line + 1, column := 0 }

/-- A text that is partly read. -/
structure Cursor where
  position : Position
  rest : List Char

def Cursor.along (c : Cursor) (count : Nat) : Cursor :=
  ⟨c.position.along count, c.rest.drop count⟩

/-- Behind the characters of this line that satisfy a condition. -/
def Cursor.skipWhile (c : Cursor) (p : Char → Bool) : Cursor :=
  c.along (c.rest.takeWhile p).length

/-- Behind a line break, if there is one. -/
def Cursor.skipBreak (c : Cursor) : Cursor :=
  match c.rest with
  | '\r' :: '\n' :: rest => ⟨c.position.nextLine 2, rest⟩
  | b :: rest => if isBreak b then ⟨c.position.nextLine 1, rest⟩ else c
  | [] => c

end ServerLogin.Yaml
