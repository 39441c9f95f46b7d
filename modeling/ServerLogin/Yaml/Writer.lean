import ServerLogin.Yaml.Value

/-!
Writing a mapping of scalars, one field a line.  A text is written plainly when
it reads back as the same text; else it is quoted, and a text of several lines
becomes a literal block where that is possible.
-/

namespace ServerLogin.Yaml

open ServerLogin.Text

/-- Whether a character needs no escape. -/
def isShowable (c : Char) : Bool :=
  let n := c.toNat
  n == 0xA || (0x20 ≤ n && n ≤ 0x7E) || (0xA0 ≤ n && n ≤ 0xFFFD && n != 0xFEFF) || 0x10000 ≤ n

/-- Whether `p` holds of two neighbouring characters somewhere. -/
def hasPair (p : Char → Char → Bool) : List Char → Bool
  | a :: b :: rest => p a b || hasPair p (b :: rest)
  | _ => false

/-- Whether a text begins as something other than a plain scalar. -/
def startsOtherwise : List Char → Bool
  | [] => false
  | c :: rest =>
    "#,[]\x7b\x7d&*!|>\x27\"%@\x60".toList.contains c
      || ((c == '?' || c == ':' || c == '-') && atGap rest)
      || ['-', '-', '-'].isPrefixOf (c :: rest) || ['.', '.', '.'].isPrefixOf (c :: rest)

/-- Whether a colon in front of a gap, or a number sign behind one, would end a
plain scalar. -/
def hasMark (cs : List Char) : Bool :=
  hasPair (fun a b => (a == ':' && (isBlank b || isBreak b))
    || ((isBlank a || isBreak a) && b == '#')) cs
    || cs.getLast? == some ':'

/-- Whether a text can be written on several lines at all: every character shows,
and no space stands before a line break. -/
def isLegible (cs : List Char) : Bool :=
  cs.all isShowable && !hasPair (fun a b => a == ' ' && isBreak b) cs

def fitsPlain (cs : List Char) : Bool :=
  isLegible cs && !cs.any isBreak && cs.head? != some ' ' && cs.getLast? != some ' '
    && !startsOtherwise cs && !hasMark cs

def fitsSingle (cs : List Char) : Bool :=
  isLegible cs && !hasPair (fun a b => isBreak a && b == ' ') cs

def fitsLiteral (cs : List Char) : Bool :=
  isLegible cs && cs.getLast? != some ' '

/-- Whether a text would be read as something else than text. -/
def isOtherKind (text : String) : Bool :=
  text.isEmpty || isNull text || (bool? text).isSome || isPaddedNumber text
    || (match integer? text with
      | some n => -170141183460469231731687303715884105728 ≤ n
        && n < 340282366920938463463374607431768211456
      | none => false)
    || (number? text).isSome

/-- How a text is written. -/
def styleOf (text : String) : Style :=
  let cs := text.toList
  if cs.contains '\n' then (if fitsLiteral cs then .literal else .doubleQuoted)
  else if !isOtherKind text && fitsPlain cs then .plain
  else if fitsSingle cs then .singleQuoted
  else .doubleQuoted

/-- Lines within a scalar are indented by two columns. -/
def margin : List Char := [' ', ' ']

/-- Characters between single quotes.  After line breaks the next character, or
the closing quote, is indented. -/
def singleBody (afterBreak : Bool) : List Char → List Char
  | [] => if afterBreak then margin else []
  | c :: rest =>
    if isBreak c then c :: singleBody true rest
    else (if afterBreak then margin else []) ++
      (if c == '\x27' then [c, c] else [c]) ++ singleBody false rest

/-- The lines of a literal block; empty lines are not indented. -/
def literalBody (afterBreak : Bool) : List Char → List Char
  | [] => []
  | c :: rest =>
    if isBreak c then c :: literalBody true rest
    else (if afterBreak then margin else []) ++ c :: literalBody false rest

/-- The header of a literal block: the indentation when the text begins with a
space or a break, then what becomes of the breaks at its end. -/
def literalHints (cs : List Char) : List Char :=
  let indent := if cs.head?.any fun c => c == ' ' || isBreak c then ['2'] else []
  let chomping := match cs.reverse with
    | [] => ['-']
    | [last] => if isBreak last then ['+'] else ['-']
    | last :: before :: _ =>
      if !isBreak last then ['-'] else if isBreak before then ['+'] else []
  indent ++ chomping

/-- The digits of a code point, filled up to a width. -/
def paddedHex (width n : Nat) : List Char :=
  let digits := (hexadecimal n).map upperAscii
  List.replicate (width - digits.length) '0' ++ digits

def doubleChar (c : Char) : List Char :=
  if isShowable c && !isBreak c && c != '"' && c != '\\' then [c]
  else '\\' :: match c with
    | '\x00' => ['0']
    | '\x07' => ['a']
    | '\x08' => ['b']
    | '\t' => ['t']
    | '\n' => ['n']
    | '\x0b' => ['v']
    | '\x0c' => ['f']
    | '\r' => ['r']
    | '\x1b' => ['e']
    | '"' => ['"']
    | '\\' => ['\\']
    | '\u0085' => ['N']
    | '\u2028' => ['L']
    | '\u2029' => ['P']
    | c =>
      if c.toNat ≤ 0xFF then 'x' :: paddedHex 2 c.toNat
      else if c.toNat ≤ 0xFFFF then 'u' :: paddedHex 4 c.toNat
      else 'U' :: paddedHex 8 c.toNat

/-- A text as the value of a field, with the line break behind it. -/
def writeText (text : String) : String :=
  let cs := text.toList
  String.ofList (match styleOf text with
    | .literal =>
      '|' :: literalHints cs ++ '\n' :: literalBody true cs
        ++ (if cs.getLast?.any isBreak then [] else ['\n'])
    | .singleQuoted => '\x27' :: singleBody false cs ++ ['\x27', '\n']
    | .doubleQuoted => '"' :: cs.flatMap doubleChar ++ ['"', '\n']
    | _ => cs ++ ['\n'])

/-- What a field is written from. -/
inductive Content
  | text (s : String)
  | bool (b : Bool)
  | integer (n : Int)
  | number (x : Number.Single)
deriving DecidableEq

/-- The written form of a value, with the line break behind it. -/
def Content.write : Content → String
  | .text s => writeText s
  | .bool b => (if b then "true" else "false") ++ "\n"
  | .integer n => Number.integerText n ++ "\n"
  | .number x => x.text .document ++ "\n"

def writeFields (fields : List (String × Content)) : String :=
  String.join (fields.map fun (key, content) => key ++ ": " ++ content.write)

end ServerLogin.Yaml
