import ServerLogin.Text.Printable

/-!
Quoted text for messages and debug views.  A text stands between double
quotes; what would be confused with the quotes, with a line break or with the
text around it is written as an escape, so the quoted form is always one line.
-/

namespace ServerLogin.Text

private def byCodePoint (c : Char) : List Char :=
  '\\' :: 'u' :: '\x7b' :: hexadecimal c.toNat ++ ['\x7d']

/-- One character inside double quotes. -/
def escapeChar (c : Char) : List Char :=
  match c with
  | '\x00' => ['\\', '0']
  | '\t' => ['\\', 't']
  | '\r' => ['\\', 'r']
  | '\n' => ['\\', 'n']
  | '\\' => ['\\', '\\']
  | '"' => ['\\', '"']
  | c => if isExtending c || !isPrintable c then byCodePoint c else [c]

/-- One character of a file name inside double quotes: an apostrophe is escaped
as well. -/
def escapeNameChar (c : Char) : List Char :=
  if c = '\x27' then ['\\', '\x27'] else escapeChar c

def quote (s : String) : String :=
  String.ofList ('"' :: s.toList.flatMap escapeChar ++ ['"'])

def quoteName (s : String) : String :=
  String.ofList ('"' :: s.toList.flatMap escapeNameChar ++ ['"'])

end ServerLogin.Text
