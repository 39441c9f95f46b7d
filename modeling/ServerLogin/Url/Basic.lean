import ServerLogin.Url.Host

/-!
URLs, as far as a server address needs them: the scheme, the host and the port
written in the authority.  `Url.read` accepts what a browser accepts; paths,
queries and credentials are passed over, except where they decide whether the
text is a URL at all.
-/

namespace ServerLogin

open ServerLogin.Text ServerLogin.Url

/-- A URL, reduced to what addresses a server. -/
structure Url where
  /-- The scheme in lower case. -/
  scheme : String
  host : Option Host
  /-- The port spelled in the text, even when it is the usual one. -/
  writtenPort : Option UInt16
deriving DecidableEq

namespace Url

/-- The kinds of scheme, which differ in how the text behind them is read. -/
inductive Kind
  | web
  | file
  | plain
deriving DecidableEq, Repr

def kindOf (scheme : String) : Kind :=
  if ["http", "https", "ws", "wss", "ftp"].contains scheme then .web
  else if scheme = "file" then .file
  else .plain

/-- The port a scheme uses when none is written. -/
def usualPort? (scheme : String) : Option UInt16 :=
  if scheme = "http" ∨ scheme = "ws" then some 80
  else if scheme = "https" ∨ scheme = "wss" then some 443
  else if scheme = "ftp" then some 21
  else none

/-- The port, unless it is the usual one of the scheme. -/
def port (url : Url) : Option UInt16 :=
  if url.writtenPort = usualPort? url.scheme then none else url.writtenPort

/-- The host as text, empty when there is none. -/
def hostText (url : Url) : String :=
  match url.host with
  | some host => host.text
  | none => ""

/-- Whether a character is passed over at the ends of a URL. -/
def isMargin (c : Char) : Bool := c.toNat ≤ 0x20

/-- Whether a character counts inside a URL. -/
def isSignificant (c : Char) : Bool := c ≠ '\t' ∧ c ≠ '\n' ∧ c ≠ '\r'

/-- The characters of a URL that count: control characters and spaces at the
ends, and tabs and line breaks anywhere, are passed over. -/
def significant (s : String) : List Char :=
  ((s.toList.dropWhile isMargin).reverse.dropWhile isMargin).reverse.filter isSignificant

def isSchemeChar (c : Char) : Bool := c.isAlphanum || c == '+' || c == '-' || c == '.'

/-- The scheme in lower case, and what follows its colon. -/
def splitScheme? (cs : List Char) : Option (String × List Char) :=
  let name := cs.takeWhile isSchemeChar
  match name.head?, cs.drop name.length with
  | some c, ':' :: rest =>
    if c.isAlpha then some (String.ofList (name.map lowerAscii), rest) else none
  | _, _ => none

/-- Whether a character ends the authority. -/
def endsAuthority (kind : Kind) (c : Char) : Bool :=
  c == '/' || c == '?' || c == '#' || (kind != .plain && c == '\\')

/-- What stands behind the last `@` of the authority, and whether the user
information before it says anything. -/
def skipUser (kind : Kind) (cs : List Char) : Except UrlFault (Bool × List Char) :=
  let authority := cs.takeWhile (!endsAuthority kind ·)
  let beyond := cs.dropWhile (!endsAuthority kind ·)
  if !authority.contains '@' then .ok (false, cs)
  else
    let host := (authority.reverse.takeWhile (· ≠ '@')).reverse
    let user := authority.take (authority.length - host.length - 1)
    if user.isEmpty then
      if host.isEmpty && !beyond.isEmpty then .error .emptyHost else .ok (false, host ++ beyond)
    else .ok (user ≠ [':'], host ++ beyond)

/-- Cut a text behind the host: at a colon outside brackets or at the end of the
authority. -/
def splitHost (kind : Kind) (bracketed : Bool) : List Char → List Char × List Char
  | [] => ([], [])
  | c :: rest =>
    if (c == ':' && !bracketed) || endsAuthority kind c then ([], c :: rest)
    else
      let (host, more) := splitHost kind (c == '[' || (bracketed && c != ']')) rest
      (c :: host, more)

/-- Read the digits of a port, up to the end of the authority. -/
def readPort (cs : List Char) : Except UrlFault (Option UInt16) :=
  let digits := cs.takeWhile Char.isDigit
  let next := (cs.dropWhile Char.isDigit).head?
  if 65535 < Nat.ofDigitChars 10 digits 0 then .error .badPort
  else if next.any fun c => c ≠ '/' && c ≠ '\\' && c ≠ '?' && c ≠ '#' then .error .badPort
  else if digits.isEmpty then .ok none
  else .ok (some (UInt16.ofNat (Nat.ofDigitChars 10 digits 0)))

/-- Read the part behind the two slashes. -/
def readAuthority (scheme : String) (kind : Kind) (cs : List Char) :
    Except UrlFault Url := do
  let (named, cs) ← skipUser kind cs
  let (name, rest) := splitHost kind false cs
  if name.isEmpty && kind == .web then throw .emptyHost
  let host ← if kind == .web then Host.read name else Host.readVerbatim name
  match rest with
  | ':' :: more =>
    if name.isEmpty then throw .emptyHost
    let port ← readPort more
    return ⟨scheme, some host, port⟩
  | _ =>
    if name.isEmpty then
      if named then throw .emptyHost else return ⟨scheme, none, none⟩
    else return ⟨scheme, some host, none⟩

/-- Whether a path segment names a drive, as in `C:` or `C|`. -/
def isDrive : List Char → Bool
  | [c, d] => c.isAlpha && (d == ':' || d == '|')
  | _ => false

/-- How many dots a path segment of nothing but dots has; a dot may be escaped. -/
def dots? : List Char → Option Nat
  | [] => some 0
  | '.' :: rest => (dots? rest).map (· + 1)
  | '%' :: '2' :: 'e' :: rest => (dots? rest).map (· + 1)
  | '%' :: '2' :: 'E' :: rest => (dots? rest).map (· + 1)
  | _ => none

/-- Whether a path begins with a drive once `.` and `..` are worked off; `depth`
counts the segments before. -/
def startsAtDrive (depth : Nat) : List (List Char) → Bool
  | [] => false
  | segment :: rest =>
    match dots? segment with
    | some 1 => startsAtDrive depth rest
    | some 2 => startsAtDrive (depth - 1) rest
    | _ => (depth == 0 && isDrive segment) || startsAtDrive (depth + 1) rest

/-- Read a `file` URL.  It has a host only behind two slashes, and none when that
host is a drive, is `localhost`, or is followed by a drive. -/
def readFile (cs : List Char) : Except UrlFault Url :=
  let slash (c : Char) : Bool := c == '/' || c == '\\'
  match cs with
  | a :: b :: rest =>
    if slash a && slash b then
      let name := rest.takeWhile (!endsAuthority .file ·)
      let path := (rest.dropWhile (!endsAuthority .file ·)).takeWhile fun c => c ≠ '?' ∧ c ≠ '#'
      if name.isEmpty || isDrive name then .ok ⟨"file", none, none⟩
      else match Host.read name with
        | .error fault => .error fault
        | .ok host =>
          if host = .domain "localhost" || startsAtDrive 0 ((path.drop 1).splitOnP slash) then
            .ok ⟨"file", none, none⟩
          else .ok ⟨"file", some host, none⟩
    else .ok ⟨"file", none, none⟩
  | _ => .ok ⟨"file", none, none⟩

def read (s : String) : Except UrlFault Url :=
  match splitScheme? (significant s) with
  | none => .error .noScheme
  | some (scheme, rest) =>
    match kindOf scheme with
    | .web => readAuthority scheme .web (rest.dropWhile fun c => c == '/' || c == '\\')
    | .file => readFile rest
    | .plain =>
      match rest with
      | '/' :: '/' :: authority => readAuthority scheme .plain authority
      | _ => .ok ⟨scheme, none, none⟩

end Url

end ServerLogin
