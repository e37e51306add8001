/-!
White space: the characters with the Unicode property White_Space, and the removal of leading and
trailing white space.
-/

set_option autoImplicit false

namespace ClientGen.Text

def isBlank (char : Char) : Bool :=
  let code := char.toNat
  (0x09 ≤ code && code ≤ 0x0D) || code == 0x20 || code == 0x85 || code == 0xA0 ||
    code == 0x1680 || (0x2000 ≤ code && code ≤ 0x200A) || code == 0x2028 || code == 0x2029 ||
    code == 0x202F || code == 0x205F || code == 0x3000

def trimStart (chars : List Char) : List Char := chars.dropWhile isBlank

def trimEnd (chars : List Char) : List Char := (chars.reverse.dropWhile isBlank).reverse

/-- The characters between the leading and the trailing white space. -/
def trimChars (chars : List Char) : List Char := trimEnd (trimStart chars)

def trim (text : String) : String := String.ofList (trimChars text.toList)

end ClientGen.Text
