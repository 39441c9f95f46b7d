import ServerLogin.Text.Digit
import ServerLogin.Yaml.Token.Basic

/-!
Tags, anchors and directives.  A tag is written in full between angle brackets,
or as a handle that a directive explains followed by a suffix.
-/

namespace ServerLogin.Yaml

open ServerLogin.Text

/-- Characters of a tag that need no escape. -/
private def isTagChar (verbatim : Bool) (c : Char) : Bool :=
  isNameChar c || ";/?:@&=+$.%!~*'()".toList.contains c
    || (verbatim && (c == ',' || c == '[' || c == ']'))

/-- How many bytes follow the first one of a character. -/
private def followers? (n : Nat) : Option Nat :=
  if n < 0x80 then some 0
  else if n / 32 = 6 then some 1
  else if n / 16 = 14 then some 2
  else if n / 8 = 30 then some 3
  else none

/-- Read the text of a tag.  Escaped bytes have to make up whole characters;
`due` counts the bytes that are missing.  The result is in reverse. -/
private def readTagText (verbatim : Bool) (due : Nat) (text : List Char) :
    List Char → Except YamlFault (List Char × List Char)
  | '%' :: a :: b :: rest =>
    if !isHex a || !isHex b then .error .malformedToken
    else
      let n := ofDigits 16 [a, b]
      if due = 0 then
        match followers? n with
        | none => .error .malformedToken
        | some more =>
          readTagText verbatim more ((if more = 0 then Char.ofNat n else '\ufffd') :: text) rest
      else if n / 64 = 2 then readTagText verbatim (due - 1) text rest
      else .error .malformedToken
  | cs =>
    match cs with
    | c :: rest =>
      if due ≠ 0 then .error .malformedToken
      else if c == '%' then .error .malformedToken
      else if isTagChar verbatim c then readTagText verbatim 0 (c :: text) rest
      else .ok (text, cs)
    | [] => if due = 0 then .ok (text, []) else .error .malformedToken

/-- Behind a piece of a line. -/
private def Cursor.upTo (c : Cursor) (rest : List Char) : Cursor :=
  c.along (c.rest.length - rest.length)

/-- Read the text of a tag, which must not be empty unless something of it has
been read before. -/
private def tagText (verbatim : Bool) (before : List Char) (c : Cursor) :
    Except YamlFault (String × Cursor) := do
  let (text, rest) ← readTagText verbatim 0 [] c.rest
  if text.isEmpty && before.isEmpty then throw .malformedToken
  return (String.ofList (before.drop 1 ++ text.reverse), c.upTo rest)

/-- Read a handle: an exclamation mark, name characters, and perhaps a second
mark. -/
private def readHandle (c : Cursor) : Except YamlFault (List Char × Cursor) :=
  match c.rest with
  | '!' :: rest =>
    let name := rest.takeWhile isNameChar
    match rest.drop name.length with
    | '!' :: _ => .ok ('!' :: name ++ ['!'], c.along (name.length + 2))
    | _ => .ok ('!' :: name, c.along (name.length + 1))
  | _ => .error .malformedToken

/-- Whether a handle has both of its marks. -/
private def isWholeHandle (handle : List Char) : Bool :=
  2 ≤ handle.length && handle.getLast? == some '!'

def readTag (flow : Bool) (c : Cursor) : Except YamlFault (Token × Cursor) := do
  let (handle, suffix, c) ← (match c.rest with
    | '!' :: '<' :: _ => do
      let (text, c) ← tagText true [] (c.along 2)
      if c.rest.head? != some '>' then throw .malformedToken
      return ("", text, c.along 1)
    | _ => do
      let (handle, c) ← readHandle c
      if isWholeHandle handle then
        let (text, c) ← tagText false [] c
        return (String.ofList handle, text, c)
      else
        let (text, c) ← tagText false handle c
        if text.isEmpty then return ("", "!", c) else return ("!", text, c) :
    Except YamlFault (String × String × Cursor))
  if atGap c.rest || (flow && c.rest.head? == some ',') then return (.tag handle suffix, c)
  else throw .malformedToken

/-- Read the name of an anchor or an alias, from its mark on. -/
def readAnchor (c : Cursor) : Except YamlFault (String × Cursor) :=
  let c := c.along 1
  let name := c.rest.takeWhile isNameChar
  let c := c.along name.length
  let ends := atGap c.rest || (c.rest.head?.any fun d => "?:,]\x7d%@\x60".toList.contains d)
  if name.isEmpty || !ends then .error .malformedToken else .ok (String.ofList name, c)

/-- Read a number of a version, of at most nine digits. -/
private def readVersionNumber (c : Cursor) : Except YamlFault (Nat × Cursor) :=
  let digits := c.rest.takeWhile Char.isDigit
  if digits.isEmpty || 9 < digits.length then .error .malformedToken
  else .ok (ofDigits 10 digits, c.along digits.length)

/-- Read what follows the name of a directive. -/
private def readDirectiveValue (name : List Char) (c : Cursor) :
    Except YamlFault (Token × Cursor) := do
  if name = "YAML".toList then
    let (major, c) ← readVersionNumber (c.skipWhile isBlank)
    if c.rest.head? != some '.' then throw .malformedToken
    let (minor, c) ← readVersionNumber (c.along 1)
    return (.versionDirective major minor, c)
  else if name = "TAG".toList then
    let (handle, c) ← readHandle (c.skipWhile isBlank)
    if !isWholeHandle handle && handle != ['!'] then throw .malformedToken
    if !c.rest.head?.any isBlank then throw .malformedToken
    let (start, c) ← tagText true [] (c.skipWhile isBlank)
    if !atGap c.rest then throw .malformedToken
    return (.tagDirective (String.ofList handle) start, c)
  else throw .malformedToken

/-- Read a directive, up to the end of its line. -/
def readDirective (c : Cursor) : Except YamlFault (Token × Cursor) := do
  let c := c.along 1
  let name := c.rest.takeWhile isNameChar
  let c := c.along name.length
  if name.isEmpty || !atGap c.rest then throw .malformedToken
  let (token, c) ← readDirectiveValue name c
  let c := c.skipWhile isBlank
  let c := if c.rest.head? == some '#' then c.skipWhile (!isBreak ·) else c
  if !atBreak c.rest then throw .malformedToken
  return (token, c.skipBreak)

end ServerLogin.Yaml
