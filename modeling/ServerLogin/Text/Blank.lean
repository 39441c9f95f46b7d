/-!
White space and trimming.  A blank is one of the twenty-five code points with
the Unicode property `White_Space`; `trim` removes blanks from both ends of a
text and keeps those inside it.
-/

namespace ServerLogin.Text

/-- The code points with the property `White_Space`. -/
def isBlank (c : Char) : Bool :=
  let n := c.toNat
  (0x9 ≤ n && n ≤ 0xD) || n == 0x20 || n == 0x85 || n == 0xA0 || n == 0x1680
    || (0x2000 ≤ n && n ≤ 0x200A) || n == 0x2028 || n == 0x2029 || n == 0x202F
    || n == 0x205F || n == 0x3000

/-- Remove the blanks at the end of a list of characters. -/
def trimEnd (cs : List Char) : List Char := (cs.reverse.dropWhile isBlank).reverse

def trimChars (cs : List Char) : List Char := trimEnd (cs.dropWhile isBlank)

/-- Remove the blanks at both ends of a text. -/
def trim (s : String) : String := String.ofList (trimChars s.toList)

end ServerLogin.Text
