import ServerLogin.Yaml.Token.Basic

/-!
Gaps inside scalars of several lines.  A run of spaces within a line is kept; a
line break is folded into a space, and of several breaks all but the first are
kept.
-/

namespace ServerLogin.Yaml

/-- Blanks and line breaks between two words of a scalar, both in reverse. -/
structure Gap where
  /-- The blanks before the first break. -/
  blanks : List Char := []
  /-- The breaks. -/
  breaks : List Char := []
  /-- Whether the first break was escaped, and so counts for nothing. -/
  escaped : Bool := false

namespace Gap

/-- Whether the gap reaches into another line. -/
def hasBreak (g : Gap) : Bool := g.escaped || !g.breaks.isEmpty

def text (g : Gap) : List Char :=
  if g.escaped then g.breaks.reverse
  else match g.breaks.reverse with
    | [] => g.blanks.reverse
    | first :: more =>
      if first = '\n' then (if more.isEmpty then [' '] else more) else first :: more

/-- Read a gap.  Indentation is not part of it; a tab among the first `indent`
columns of a line is refused. -/
def read (indent : Nat) (g : Gap) (p : Position) : List Char → Except YamlFault (Gap × Cursor)
  | '\r' :: '\n' :: rest =>
    read indent { g with breaks := '\n' :: g.breaks } (p.nextLine 2) rest
  | c :: rest =>
    if isBreak c then
      read indent { g with breaks := normalBreak c :: g.breaks } (p.nextLine 1) rest
    else if !isBlank c then .ok (g, ⟨p, c :: rest⟩)
    else if !g.hasBreak then read indent { g with blanks := c :: g.blanks } p.next rest
    else if c == '\t' && p.column < indent then .error .malformedToken
    else read indent g p.next rest
  | [] => .ok (g, ⟨p, []⟩)

end Gap

end ServerLogin.Yaml
