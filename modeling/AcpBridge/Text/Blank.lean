/-!
# Blank characters

The Unicode `White_Space` property: the characters a text may be trimmed of. It holds the
ASCII blanks (tab, line feed, vertical tab, form feed, carriage return, space), the next-line
control U+0085, and the space separators of the Unicode standard together with the line and
paragraph separators. Zero-width characters (U+200B, U+FEFF) are not blank.
-/

namespace AcpBridge
namespace Text

def isBlank (c : Char) : Bool :=
  let n := c.toNat
  (0x09 ≤ n && n ≤ 0x0D) || n == 0x20 || n == 0x85 || n == 0xA0 || n == 0x1680 ||
    (0x2000 ≤ n && n ≤ 0x200A) || n == 0x2028 || n == 0x2029 || n == 0x202F ||
    n == 0x205F || n == 0x3000

def trim (s : String) : String :=
  String.ofList ((s.toList.dropWhile isBlank).reverse.dropWhile isBlank).reverse

def isBlankText (s : String) : Bool := s.toList.all isBlank

end Text
end AcpBridge
