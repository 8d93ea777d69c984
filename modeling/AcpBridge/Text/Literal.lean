import AcpBridge.Text.GraphemeExtend
import AcpBridge.Text.Unprintable

/-!
# Texts as quoted literals

Diagnostics show an offending text as a literal: between double quotes, with `\"`, `\\`,
`\t`, `\r`, `\n` and `\0` for those six characters, and `\u{…}` (lowercase hex, no padding)
for every other character that extends the grapheme before it or does not print on its own.
Every other character stands for itself.
-/

namespace AcpBridge
namespace Text

def escapedInLiteral (c : Char) : Bool := isGraphemeExtend c || isUnprintable c

def hexDigits (n : Nat) : String :=
  String.ofList (Nat.toDigits 16 n)

def literalChar (c : Char) : String :=
  if c == '"' then "\\\""
  else if c == '\\' then "\\\\"
  else if c == '\t' then "\\t"
  else if c == '\r' then "\\r"
  else if c == '\n' then "\\n"
  else if c == '\x00' then "\\0"
  else if escapedInLiteral c then "\\u" ++ "\x7b" ++ hexDigits c.toNat ++ "\x7d"
  else String.singleton c

def literal (s : String) : String :=
  "\"" ++ s.toList.foldl (fun acc c => acc ++ literalChar c) "" ++ "\""

end Text
end AcpBridge
