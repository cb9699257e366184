/-
Blank characters: those with the Unicode property White_Space. A text is
trimmed of the blanks at both ends.
-/
namespace GuidedLogin.Text

def isBlank (c : Char) : Bool :=
  let code := c.toNat
  (0x09 ≤ code && code ≤ 0x0D) || code == 0x20 || code == 0x85 || code == 0xA0 ||
    code == 0x1680 || (0x2000 ≤ code && code ≤ 0x200A) || code == 0x2028 || code == 0x2029 ||
    code == 0x202F || code == 0x205F || code == 0x3000

def stripWhile (test : Char → Bool) (chars : List Char) : List Char :=
  (((chars.dropWhile test).reverse).dropWhile test).reverse

def trimBlank (chars : List Char) : List Char := stripWhile isBlank chars

end GuidedLogin.Text
