import AcpBridge.Json.Print
import AcpBridge.Text.Literal

/-!
# Why JSON input is refused

Two kinds of refusal. A *syntax error* stops reading a text at a position. A *decode error*
says that a well-formed value does not have the shape a type wants: the wrong kind of
value, a number out of range, an unknown variant, a missing or repeated field. A decode
error met while reading a text carries the position where reading stood; one met while
decoding a value already in memory has none.

Each refusal has one message, given by the `message` functions here; a position is added as
`at line L column C`.
-/

namespace AcpBridge

/-- A place in a text: lines count from one, columns count the bytes since the last line
break. -/
structure Position where
  line : Nat
  column : Nat
  deriving Repr, BEq

inductive SyntaxError where
  | eofWhileParsingList
  | eofWhileParsingObject
  | eofWhileParsingString
  | eofWhileParsingValue
  | expectedColon
  | expectedListCommaOrEnd
  | expectedObjectCommaOrEnd
  | expectedSomeIdent
  | expectedSomeValue
  | invalidEscape
  | invalidNumber
  | numberOutOfRange
  | controlCharacterWhileParsingString
  | keyMustBeAString
  | loneLeadingSurrogateInHexEscape
  | trailingComma
  | trailingCharacters
  | unexpectedEndOfHexEscape
  | recursionLimitExceeded
  deriving Repr, BEq

def SyntaxError.message : SyntaxError → String
  | .eofWhileParsingList => "EOF while parsing a list"
  | .eofWhileParsingObject => "EOF while parsing an object"
  | .eofWhileParsingString => "EOF while parsing a string"
  | .eofWhileParsingValue => "EOF while parsing a value"
  | .expectedColon => "expected `:`"
  | .expectedListCommaOrEnd => "expected `,` or `]`"
  | .expectedObjectCommaOrEnd => "expected `,` or `\x7d`"
  | .expectedSomeIdent => "expected ident"
  | .expectedSomeValue => "expected value"
  | .invalidEscape => "invalid escape"
  | .invalidNumber => "invalid number"
  | .numberOutOfRange => "number out of range"
  | .controlCharacterWhileParsingString =>
    "control character (\\u0000-\\u001F) found while parsing a string"
  | .keyMustBeAString => "key must be a string"
  | .loneLeadingSurrogateInHexEscape => "lone leading surrogate in hex escape"
  | .trailingComma => "trailing comma"
  | .trailingCharacters => "trailing characters"
  | .unexpectedEndOfHexEscape => "unexpected end of hex escape"
  | .recursionLimitExceeded => "recursion limit exceeded"

inductive Unexpected where
  | bool (b : Bool)
  | unsigned (n : Nat)
  | signed (n : Int)
  | float (x : Float)
  | str (s : String)
  | null
  | seq
  | map

def Unexpected.describe : Unexpected → String
  | .bool b => "boolean `" ++ toString b ++ "`"
  | .unsigned n => "integer `" ++ toString n ++ "`"
  | .signed n => "integer `" ++ toString n ++ "`"
  | .float x => "floating point `" ++ floatText x ++ "`"
  | .str s => "string " ++ Text.literal s
  | .null => "null"
  | .seq => "sequence"
  | .map => "map"

def Number.unexpected : Number → Unexpected
  | .nat n => .unsigned n
  | .neg n => .signed n
  | .float x => .float x

def Json.unexpected : Json → Unexpected
  | .null => .null
  | .bool b => .bool b
  | .num n => n.unexpected
  | .str s => .str s
  | .arr _ => .seq
  | .obj _ => .map

/-- Why a value does not decode into a type. `expected` texts name what was wanted:
`a string`, `u64`, `struct TokenUsage`, `internally tagged enum Event`. -/
inductive DecodeError where
  | invalidType (found : Unexpected) (expected : String)
  | invalidValue (found : Unexpected) (expected : String)
  | invalidLength (length : Nat) (expected : String)
  | unknownVariant (name : String) (variants : List String)
  | missingField (name : String)
  | duplicateField (name : String)

def oneOf (names : List String) : String :=
  let q := fun (n : String) => "`" ++ n ++ "`"
  match names with
  | [a] => q a
  | [a, b] => q a ++ " or " ++ q b
  | _ => "one of " ++ ", ".intercalate (names.map q)

def DecodeError.message : DecodeError → String
  | .invalidType found expected => "invalid type: " ++ found.describe ++ ", expected " ++ expected
  | .invalidValue found expected => "invalid value: " ++ found.describe ++ ", expected " ++ expected
  | .invalidLength n expected => "invalid length " ++ toString n ++ ", expected " ++ expected
  | .unknownVariant name [] => "unknown variant `" ++ name ++ "`, there are no variants"
  | .unknownVariant name variants => "unknown variant `" ++ name ++ "`, expected " ++ oneOf variants
  | .missingField name => "missing field `" ++ name ++ "`"
  | .duplicateField name => "duplicate field `" ++ name ++ "`"

/-- Why reading a JSON text stopped. -/
inductive ReadError where
  | malformed (e : SyntaxError) (pos : Position)
  | decode (e : DecodeError) (pos : Option Position)

def Position.suffix (p : Position) : String :=
  " at line " ++ toString p.line ++ " column " ++ toString p.column

def ReadError.message : ReadError → String
  | .malformed e p => e.message ++ p.suffix
  | .decode e (some p) => e.message ++ p.suffix
  | .decode e none => e.message

end AcpBridge
