/-!
# Styles of terminal text

The command line's help and refusals are written with styles: headings bold and
underlined, names to type bold, the word `error` bold and red, suggestions green and the
faulty input yellow. A style is set by a control sequence before the text and cleared by
the reset sequence after it. A style with no attributes writes no sequence at all.
-/

namespace AcpBridge
namespace Terminal

/-- The roles text plays in help and refusals, each with its style. -/
inductive Style where
  | header
  | error
  | usage
  | literal
  | placeholder
  | valid
  | invalid
  deriving DecidableEq, Repr

def Style.code : Style → String
  | .header | .usage => "\x1b[1m\x1b[4m"
  | .error => "\x1b[1m\x1b[31m"
  | .literal => "\x1b[1m"
  | .placeholder => ""
  | .valid => "\x1b[32m"
  | .invalid => "\x1b[33m"

def reset : String := "\x1b[0m"

/-- Text in a style: the style's sequence, the text, then the reset; a style with no
attributes leaves the text as it is. -/
def Style.paint (s : Style) (text : String) : String :=
  if s.code.isEmpty then text else s.code ++ text ++ reset

@[simp] theorem paint_placeholder (text : String) : Style.placeholder.paint text = text := rfl

end Terminal
end AcpBridge
