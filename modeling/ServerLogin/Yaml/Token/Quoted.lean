import ServerLogin.Text.Digit
import ServerLogin.Yaml.Token.Gap

/-!
Quoted scalars.  Between single quotes only the quote itself is written twice;
between double quotes a backslash begins an escape.
-/

namespace ServerLogin.Yaml

open ServerLogin.Text

/-- The character a short escape stands for. -/
def shortEscape? : Char → Option Char
  | '0' => some '\x00'
  | 'a' => some '\x07'
  | 'b' => some '\x08'
  | 't' => some '\t'
  | '\t' => some '\t'
  | 'n' => some '\n'
  | 'v' => some '\x0b'
  | 'f' => some '\x0c'
  | 'r' => some '\r'
  | 'e' => some '\x1b'
  | ' ' => some ' '
  | '"' => some '"'
  | '/' => some '/'
  | '\\' => some '\\'
  | 'N' => some '\u0085'
  | '_' => some '\u00a0'
  | 'L' => some '\u2028'
  | 'P' => some '\u2029'
  | _ => none

/-- How many hexadecimal digits an escape by code point takes. -/
def codeLength? : Char → Option Nat
  | 'x' => some 2
  | 'u' => some 4
  | 'U' => some 8
  | _ => none

/-- The character an escape by code point stands for. -/
def coded? (digits : List Char) : Option Char :=
  let n := ofDigits 16 digits
  if digits.all isHex && (n < 0xD800 || (0xDFFF < n && n ≤ 0x10FFFF)) then some (Char.ofNat n)
  else none

/-- Where a word of a quoted scalar ends. -/
inductive WordEnd
  | quote
  | gap
  | escapedBreak

/-- Read a word between single quotes, up to a gap or the closing quote.  `word`
is in reverse. -/
def readSingle (word : List Char) (p : Position) :
    List Char → List Char × WordEnd × Cursor
  | [] => (word, .gap, ⟨p, []⟩)
  | '\x27' :: '\x27' :: rest => readSingle ('\x27' :: word) (p.along 2) rest
  | '\x27' :: rest => (word, .quote, ⟨p.next, rest⟩)
  | c :: rest =>
    if isBlank c || isBreak c then (word, .gap, ⟨p, c :: rest⟩)
    else readSingle (c :: word) p.next rest

/-- Read a word between double quotes, up to a gap, an escaped line break or the
closing quote.  `skip` counts the digits of an escape that is already read. -/
def readDouble (word : List Char) (skip : Nat) (p : Position) :
    List Char → Except YamlFault (List Char × WordEnd × Cursor)
  | [] => .ok (word, .gap, ⟨p, []⟩)
  | c :: rest =>
    match skip with
    | skip + 1 => readDouble word skip p.next rest
    | 0 =>
      if isBlank c || isBreak c then .ok (word, .gap, ⟨p, c :: rest⟩)
      else if c == '"' then .ok (word, .quote, ⟨p.next, rest⟩)
      else if c != '\\' then readDouble (c :: word) 0 p.next rest
      else match rest with
        | [] => .error .malformedToken
        | e :: more =>
          if isBreak e then .ok (word, .escapedBreak, Cursor.skipBreak ⟨p.next, e :: more⟩)
          else match shortEscape? e with
            | some d => readDouble (d :: word) 1 p.next rest
            | none =>
              match codeLength? e with
              | none => .error .malformedToken
              | some length =>
                if more.length < length then .error .malformedToken
                else match coded? (more.take length) with
                  | some d => readDouble (d :: word) (length + 1) p.next rest
                  | none => .error .malformedToken

/-- Read words and gaps up to the closing quote.  `text` is in reverse. -/
def readQuoted (single : Bool) :
    Nat → List Char → Cursor → Except YamlFault (List Char × Cursor)
  | 0, _, _ => .error .malformedToken
  | steps + 1, text, c =>
    if (c.position.column == 0 && atDocumentMark c.rest) || c.rest.isEmpty then
      .error .malformedToken
    else do
      let (word, ending, c) ←
        if single then .ok (readSingle [] c.position c.rest)
        else readDouble [] 0 c.position c.rest
      let text := word ++ text
      match ending with
      | .quote => .ok (text.reverse, c)
      | .gap =>
        let (gap, c) ← Gap.read 0 {} c.position c.rest
        readQuoted single steps (gap.text.reverse ++ text) c
      | .escapedBreak =>
        if c.rest.head? == some '"' then .ok (text.reverse, c.along 1)
        else
          let (gap, c) ← Gap.read 0 { escaped := true } c.position c.rest
          readQuoted single steps (gap.text.reverse ++ text) c

/-- Read a quoted scalar, from its opening quote on. -/
def readQuotedScalar (single : Bool) (c : Cursor) : Except YamlFault (List Char × Cursor) :=
  readQuoted single (c.rest.length + 1) [] (c.along 1)

end ServerLogin.Yaml
