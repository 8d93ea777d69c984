import AcpBridge.Json.Basic
import AcpBridge.Decimal.Shortest

/-!
# Printing JSON

Two layouts of one document: compact (no blank anywhere) and pretty (two-space indent,
`": "` between a key and its value, `[]` and `{}` for empty containers).

Strings escape `"` and `\` and the control characters below `0x20`; seven of those have a
short escape (`\n`, `\r`, `\t`, `\b`, `\f`, and the two quotes), the rest are written
`\u00XX` with lowercase hex digits. Everything else, DEL and non-ASCII included, is written
as it is.

A float is written with its shortest digits (`Decimal.shortest`) in the layout of
`FloatStyle.json`; a value that is infinite or not a number is written `null`.
-/

namespace AcpBridge

open Decimal

/-- Where a float's text switches from positional to exponent notation, with `x` written as
`d.ddd × 10^e`. -/
structure FloatStyle where
  lowestPositional : Int
  firstExponent : Int

/-- JSON floats are positional for `-5 ≤ e < 16`: `0.00001`, `1000000000000000.0`, and
otherwise `1e-6`, `1e+16`, `1.5e+300`. A positional integer keeps `.0`; the exponent always
has a sign and no padding. -/
def FloatStyle.json : FloatStyle := ⟨-5, 16⟩

def FloatStyle.layout (style : FloatStyle) (ds : List Char) (point : Int) : String :=
  let n : Int := ds.length
  let e := point - 1
  if n ≤ point ∧ e < style.firstExponent then
    String.ofList ds ++ String.ofList (List.replicate (point - n).toNat '0') ++ ".0"
  else if 0 < point ∧ e < style.firstExponent then
    String.ofList (ds.take point.toNat) ++ "." ++ String.ofList (ds.drop point.toNat)
  else if style.lowestPositional ≤ e ∧ point ≤ 0 then
    "0." ++ String.ofList (List.replicate (-point).toNat '0') ++ String.ofList ds
  else
    let mantissa :=
      match ds with
      | [d] => String.singleton d
      | d :: rest => String.singleton d ++ "." ++ String.ofList rest
      | [] => "0"
    mantissa ++ "e" ++ (if e < 0 then "-" else "+") ++ toString e.natAbs

/-- The text of a float in a style, `null` when it is infinite or not a number. -/
def FloatStyle.text (style : FloatStyle) (x : Float) : String :=
  match classify x with
  | .notANumber | .infinite _ => "null"
  | .finite b =>
    let sign := if b.negative then "-" else ""
    if b.mantissa == 0 then sign ++ "0.0"
    else
      let s := shortest b
      let ds := Nat.toDigits 10 s.digits
      sign ++ style.layout ds (ds.length + s.exponent)

def floatText (x : Float) : String := FloatStyle.json.text x

def Number.text : Number → String
  | .nat n => toString n
  | .neg n => toString n
  | .float x => floatText x

namespace Json

def hexDigit (n : Nat) : Char :=
  if n < 10 then Char.ofNat (48 + n) else Char.ofNat (87 + n)

def escapeChar (c : Char) : String :=
  if c == '"' then "\\\""
  else if c == '\\' then "\\\\"
  else if c == '\n' then "\\n"
  else if c == '\r' then "\\r"
  else if c == '\t' then "\\t"
  else if c == '\x08' then "\\b"
  else if c == '\x0c' then "\\f"
  else if c.toNat < 0x20 then
    "\\u00" ++ String.singleton (hexDigit (c.toNat / 16)) ++ String.singleton (hexDigit (c.toNat % 16))
  else String.singleton c

def quote (s : String) : String :=
  "\"" ++ s.toList.foldl (fun acc c => acc ++ escapeChar c) "" ++ "\""

mutual
def compact : Json → String
  | .null => "null"
  | .bool b => if b then "true" else "false"
  | .num n => n.text
  | .str s => quote s
  | .arr items => "[" ++ compactItems items ++ "]"
  | .obj members => "\x7b" ++ compactMembers members ++ "\x7d"

def compactItems : List Json → String
  | [] => ""
  | [j] => compact j
  | j :: rest => compact j ++ "," ++ compactItems rest

def compactMembers : List (String × Json) → String
  | [] => ""
  | [(k, v)] => quote k ++ ":" ++ compact v
  | (k, v) :: rest => quote k ++ ":" ++ compact v ++ "," ++ compactMembers rest
end

def indent (depth : Nat) : String := String.ofList (List.replicate (2 * depth) ' ')

mutual
def pretty (depth : Nat) : Json → String
  | .arr [] => "[]"
  | .obj [] => "\x7b\x7d"
  | .arr items => "[\n" ++ prettyItems (depth + 1) items ++ "\n" ++ indent depth ++ "]"
  | .obj members => "\x7b\n" ++ prettyMembers (depth + 1) members ++ "\n" ++ indent depth ++ "\x7d"
  | j => compact j

def prettyItems (depth : Nat) : List Json → String
  | [] => ""
  | [j] => indent depth ++ pretty depth j
  | j :: rest => indent depth ++ pretty depth j ++ ",\n" ++ prettyItems depth rest

def prettyMembers (depth : Nat) : List (String × Json) → String
  | [] => ""
  | [(k, v)] => indent depth ++ quote k ++ ": " ++ pretty depth v
  | (k, v) :: rest => indent depth ++ quote k ++ ": " ++ pretty depth v ++ ",\n" ++ prettyMembers depth rest
end

def render (j : Json) : String := compact j.normalize

def renderPretty (j : Json) : String := pretty 0 j.normalize

end Json

end AcpBridge
