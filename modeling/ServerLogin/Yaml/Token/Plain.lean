import ServerLogin.Yaml.Token.Gap

/-!
Plain scalars: text without quotes.  It ends before a comment, a document mark,
a less indented line, or a character that has a meaning of its own where it
stands.
-/

namespace ServerLogin.Yaml

/-- Characters that end a plain scalar between brackets. -/
def isFlowMark (c : Char) : Bool :=
  c == ',' || c == '[' || c == ']' || c == '\x7b' || c == '\x7d'

/-- Read a word: characters up to a gap or to one that ends the scalar. -/
def readWord (flow : Bool) (word : List Char) :
    List Char → Except YamlFault (List Char × List Char)
  | [] => .ok (word, [])
  | c :: rest =>
    if isBlank c || isBreak c then .ok (word, c :: rest)
    else if flow && c == ':' && (rest.head?.any fun d => isFlowMark d || d == '?') then
      .error .malformedToken
    else if (c == ':' && atGap rest) || (flow && isFlowMark c) then .ok (word, c :: rest)
    else readWord flow (c :: word) rest

/-- A plain scalar, where it ends, and whether a line break follows it. -/
structure PlainScalar where
  text : List Char
  next : Cursor
  brokenOff : Bool

/-- Read words and the gaps between them.  `text` is what was read so far, in
reverse, and `gap` the gap before the next word. -/
def readPlain (flow : Bool) (indent : Nat) :
    Nat → List Char → Gap → Cursor → Except YamlFault PlainScalar
  | 0, text, gap, c => .ok ⟨text.reverse, c, gap.hasBreak⟩
  | steps + 1, text, gap, c =>
    if (c.position.column == 0 && atDocumentMark c.rest) || c.rest.head? == some '#' then
      .ok ⟨text.reverse, c, gap.hasBreak⟩
    else do
      let (word, rest) ← readWord flow [] c.rest
      let text := if word.isEmpty then text else word ++ gap.text.reverse ++ text
      let gap := if word.isEmpty then gap else {}
      let c : Cursor := ⟨c.position.along word.length, rest⟩
      if rest.isEmpty || !atGap rest then .ok ⟨text.reverse, c, gap.hasBreak⟩
      else
        let (gap, c) ← gap.read indent c.position c.rest
        if !flow && c.position.column < indent then .ok ⟨text.reverse, c, gap.hasBreak⟩
        else readPlain flow indent steps text gap c

/-- Read a plain scalar.  Outside brackets its lines are indented by at least
`indent` columns. -/
def PlainScalar.read (flow : Bool) (indent : Nat) (c : Cursor) : Except YamlFault PlainScalar :=
  readPlain flow indent (c.rest.length + 1) [] {} c

end ServerLogin.Yaml
