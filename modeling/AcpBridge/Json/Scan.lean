import AcpBridge.Json.Error

/-!
# Scanning JSON tokens

Pure scanners for the two tokens that take many characters: numbers and strings. A scanner
gets the characters after the token's first one it is handed, and answers with how many
characters it took and either the token's value or a *fault*: a syntax error and how many
bytes past the taken characters it stands (0 or 1, or 4 for a broken hex escape). Positions
count bytes, and a character that breaks a token is not taken: its fault stands one byte
into it, however many bytes it has.

Numbers follow one rule for their value: an integer that fits 64 bits is kept exactly
(negative ones from `-2^63` up, `-0` excepted); any other number is its significand
(at most 19 or 20 digits, further digits only move the decimal point) rounded to a float
and then multiplied or divided by a float power of ten. Exponents saturate at 32 bits.

Two modes scan strings and numbers. *Reading* keeps the value and refuses a lone surrogate
in a `\u` escape; *skipping* keeps nothing, lets any four hex digits stand, accepts numbers
of any size and places a control character's error before it rather than after it.
-/

namespace AcpBridge
namespace Scan

abbrev Fault := SyntaxError × Nat

abbrev Result (α : Type) := Nat × Except Fault α

def u64Limit : Nat := Nat.pow 2 64 - 1

def i32Limit : Nat := Nat.pow 2 31 - 1

def digitOf (c : Char) : Option Nat := if c.isDigit then some (c.toNat - 48) else none

/-- Digits folded into `acc` as long as the result stays at most `limit`: the result, how many
digits were taken, and the characters left. -/
def takeDigits (limit acc count : Nat) : List Char → Nat × Nat × List Char
  | c :: rest =>
    match digitOf c with
    | some d =>
      if acc * 10 + d > limit then (acc, count, c :: rest)
      else takeDigits limit (acc * 10 + d) (count + 1) rest
    | none => (acc, count, c :: rest)
  | [] => (acc, count, [])

def countDigits (cs : List Char) : Nat := (cs.takeWhile Char.isDigit).length

def pow10 (k : Nat) : Float := Float.ofScientific 1 false k

/-- `significand · 10 ^ exponent` the way numbers are read: the significand rounded to a
float, then multiplied or divided by the float `10 ^ |exponent|`. Below `10 ^ -308` it is
first divided by `1e308` as often as needed; above `10 ^ 308`, or when the product is
infinite, it is out of range (`none`), unless it is zero. -/
def fromParts (significand : Nat) (exponent : Int) : Option Float :=
  go (Float.ofNat significand) exponent
where
  go (f : Float) (e : Int) : Option Float :=
    if e.natAbs ≤ 308 then
      if 0 ≤ e then
        let g := f * pow10 e.toNat
        if g.isInf then none else some g
      else some (f / pow10 e.natAbs)
    else if f == 0 then some f
    else if h : 0 ≤ e then none
    else go (f / pow10 308) (e + 308)
  termination_by (-e).toNat
  decreasing_by omega

def clampI32 (n : Int) : Int := max (-(Int.pow 2 31)) (min (Int.pow 2 31 - 1) n)

def finish (positive : Bool) (taken significand : Nat) (exponent : Int) : Result Number :=
  match fromParts significand exponent with
  | some f => (taken, .ok (.float (if positive then f else -f)))
  | none => (taken, .error (.numberOutOfRange, 0))

/-- The exponent part, from its `e`. A 32-bit overflow of the exponent gives zero when the
exponent is negative or the significand zero, and is out of range otherwise. -/
def exponentPart (positive : Bool) (taken significand : Nat) (start : Int) (cs : List Char) :
    Result Number :=
  let cs := cs.drop 1
  let taken := taken + 1
  let (up, cs, taken) : Bool × List Char × Nat :=
    match cs with
    | '+' :: rest => (true, rest, taken + 1)
    | '-' :: rest => (false, rest, taken + 1)
    | _ => (true, cs, taken)
  match cs with
  | [] => (taken, .error (.eofWhileParsingValue, 0))
  | c :: rest =>
    match digitOf c with
    | none => (taken, .error (.invalidNumber, 1))
    | some d =>
      let (exp, k, rest') := takeDigits i32Limit d 0 rest
      let taken := taken + 1 + k
      let overflow := match rest' with
        | c' :: _ => c'.isDigit
        | [] => false
      if overflow then
        if significand != 0 && up then (taken + 1, .error (.numberOutOfRange, 0))
        else (taken + 1 + countDigits (rest'.drop 1), .ok (.float (if positive then 0.0 else -0.0)))
      else
        finish positive taken significand
          (clampI32 (if up then start + (exp : Int) else start - (exp : Int)))

def afterFraction (positive : Bool) (taken significand : Nat) (exponent : Int)
    (cs : List Char) : Result Number :=
  match cs with
  | c :: _ =>
    if c == 'e' || c == 'E' then exponentPart positive taken significand exponent cs
    else finish positive taken significand exponent
  | [] => finish positive taken significand exponent

/-- The fraction part, from its point. At least one digit must follow the point; digits
that no longer fit the significand are read and ignored. -/
def fractionPart (positive : Bool) (taken significand : Nat) (before : Int) (cs : List Char) :
    Result Number :=
  let rest := cs.drop 1
  let taken := taken + 1
  let (sig, k, rest') := takeDigits u64Limit significand 0 rest
  let exponent : Int := before - (k : Int)
  match rest' with
  | c :: _ =>
    if c.isDigit then
      let j := countDigits rest'
      afterFraction positive (taken + k + j) sig exponent (rest'.drop j)
    else if k == 0 then (taken, .error (.invalidNumber, 1))
    else afterFraction positive (taken + k) sig exponent rest'
  | [] =>
    if k == 0 then (taken, .error (.eofWhileParsingValue, 1))
    else finish positive (taken + k) sig exponent

def longInteger (positive : Bool) (taken significand : Nat) (cs : List Char) : Result Number :=
  let j := countDigits cs
  let rest := cs.drop j
  match rest with
  | c :: _ =>
    if c == '.' then fractionPart positive (taken + j) significand j rest
    else if c == 'e' || c == 'E' then exponentPart positive (taken + j) significand j rest
    else finish positive (taken + j) significand j
  | [] => finish positive (taken + j) significand j

/-- The number after its integer digits: a fraction, an exponent, or an integer. A negative
integer is exact from `-2^63` up; `-0` and anything lower is a float. -/
def afterInteger (positive : Bool) (taken significand : Nat) (cs : List Char) : Result Number :=
  match cs with
  | c :: _ =>
    if c == '.' then fractionPart positive taken significand 0 cs
    else if c == 'e' || c == 'E' then exponentPart positive taken significand 0 cs
    else (taken, .ok (integer positive significand))
  | [] => (taken, .ok (integer positive significand))
where
  integer (positive : Bool) (significand : Nat) : Number :=
    if positive then .nat significand
    else if significand == 0 then .float (-0.0)
    else if significand ≤ Nat.pow 2 63 then .neg (-(significand : Int))
    else .float (-(Float.ofNat significand))

def number (positive : Bool) (cs : List Char) : Result Number :=
  match cs with
  | [] => (0, .error (.eofWhileParsingValue, 0))
  | c :: rest =>
    if c == '0' then
      match rest with
      | d :: _ =>
        if d.isDigit then (1, .error (.invalidNumber, 1)) else afterInteger positive 1 0 rest
      | [] => afterInteger positive 1 0 []
    else
      match digitOf c with
      | some d =>
        let (sig, k, rest') := takeDigits u64Limit d 0 rest
        match rest' with
        | c' :: _ =>
          if c'.isDigit then longInteger positive (1 + k) sig rest'
          else afterInteger positive (1 + k) sig rest'
        | [] => afterInteger positive (1 + k) sig []
      | none => (0, .error (.invalidNumber, 1))

def skipExponent (taken : Nat) (cs : List Char) : Result Unit :=
  let cs := cs.drop 1
  let taken := taken + 1
  let (cs, taken) : List Char × Nat :=
    match cs with
    | c :: rest => if c == '+' || c == '-' then (rest, taken + 1) else (cs, taken)
    | [] => (cs, taken)
  match cs with
  | c :: rest =>
    if c.isDigit then (taken + 1 + countDigits rest, .ok ())
    else (taken, .error (.invalidNumber, 1))
  | [] => (taken, .error (.invalidNumber, 0))

def skipAfterInteger (taken : Nat) (cs : List Char) : Result Unit :=
  match cs with
  | c :: rest =>
    if c == '.' then
      let j := countDigits rest
      if j == 0 then (taken + 1, .error (.invalidNumber, 1))
      else
        match rest.drop j with
        | e :: _ =>
          if e == 'e' || e == 'E' then skipExponent (taken + 1 + j) (rest.drop j)
          else (taken + 1 + j, .ok ())
        | [] => (taken + 1 + j, .ok ())
    else if c == 'e' || c == 'E' then skipExponent taken cs
    else (taken, .ok ())
  | [] => (taken, .ok ())

def skipNumber (cs : List Char) : Result Unit :=
  match cs with
  | [] => (0, .error (.invalidNumber, 0))
  | c :: rest =>
    if c == '0' then
      match rest with
      | d :: _ => if d.isDigit then (1, .error (.invalidNumber, 1)) else skipAfterInteger 1 rest
      | [] => (1, .ok ())
    else if c.isDigit then
      let j := countDigits rest
      skipAfterInteger (1 + j) (rest.drop j)
    else (0, .error (.invalidNumber, 1))

def hexValue (c : Char) : Option Nat :=
  if '0' ≤ c && c ≤ '9' then some (c.toNat - 48)
  else if 'a' ≤ c && c ≤ 'f' then some (c.toNat - 87)
  else if 'A' ≤ c && c ≤ 'F' then some (c.toNat - 55)
  else none

def byteLength (cs : List Char) : Nat := cs.foldl (fun n c => n + c.utf8Size) 0

/-- Four hex digits and what follows them. Fewer than four bytes left end the string; four
bytes that are not all hex digits are an invalid escape placed after them. -/
def hex4 (cs : List Char) : Result (Nat × List Char) :=
  match cs with
  | a :: b :: c :: d :: rest =>
    match hexValue a, hexValue b, hexValue c, hexValue d with
    | some w, some x, some y, some z => (4, .ok (((w * 16 + x) * 16 + y) * 16 + z, rest))
    | _, _, _, _ => (0, .error (.invalidEscape, 4))
  | _ =>
    if byteLength cs < 4 then (cs.length, .error (.eofWhileParsingString, 0))
    else (0, .error (.invalidEscape, 4))

def pairValue (high low : Nat) : Nat := 0x10000 + (high - 0xD800) * 0x400 + (low - 0xDC00)

/-- A `\u` escape after its `u`. When reading, a trailing surrogate may not stand first and a
leading one must be followed by a `\u` escape of a trailing one. -/
def unicodeEscape (read : Bool) (cs : List Char) : Result (Char × List Char) :=
  match hex4 cs with
  | (k, .error f) => (k, .error f)
  | (k, .ok (n, rest)) =>
    if !read then (k, .ok (Char.ofNat n, rest))
    else if 0xDC00 ≤ n && n ≤ 0xDFFF then (k, .error (.loneLeadingSurrogateInHexEscape, 0))
    else if n < 0xD800 || n > 0xDBFF then (k, .ok (Char.ofNat n, rest))
    else
      match rest with
      | [] => (k, .error (.eofWhileParsingString, 0))
      | '\\' :: rest2 =>
        match rest2 with
        | [] => (k + 1, .error (.eofWhileParsingString, 0))
        | 'u' :: rest3 =>
          match hex4 rest3 with
          | (j, .error f) => (k + 2 + j, .error f)
          | (j, .ok (low, rest4)) =>
            if low < 0xDC00 || low > 0xDFFF then
              (k + 2 + j, .error (.loneLeadingSurrogateInHexEscape, 0))
            else (k + 2 + j, .ok (Char.ofNat (pairValue n low), rest4))
        | _ :: _ => (k + 1, .error (.unexpectedEndOfHexEscape, 1))
      | _ :: _ => (k, .error (.unexpectedEndOfHexEscape, 1))

def escape (read : Bool) (cs : List Char) : Result (Char × List Char) :=
  match cs with
  | [] => (0, .error (.eofWhileParsingString, 0))
  | c :: rest =>
    if c == '"' then (1, .ok ('"', rest))
    else if c == '\\' then (1, .ok ('\\', rest))
    else if c == '/' then (1, .ok ('/', rest))
    else if c == 'b' then (1, .ok ('\x08', rest))
    else if c == 'f' then (1, .ok ('\x0c', rest))
    else if c == 'n' then (1, .ok ('\n', rest))
    else if c == 'r' then (1, .ok ('\r', rest))
    else if c == 't' then (1, .ok ('\t', rest))
    else if c == 'u' then
      match unicodeEscape read rest with
      | (k, r) => (k + 1, r)
    else (0, .error (.invalidEscape, 1))

/-- The characters of a string after its opening quote, through the closing one. `taken`
counts the characters already taken and `acc` holds the text so far, reversed. -/
def string (read : Bool) : Nat → Nat → List Char → List Char → Result String
  | 0, taken, _, _ => (taken, .error (.eofWhileParsingString, 0))
  | _ + 1, taken, [], _ => (taken, .error (.eofWhileParsingString, 0))
  | fuel + 1, taken, c :: rest, acc =>
    if c == '"' then (taken + 1, .ok (String.ofList acc.reverse))
    else if c == '\\' then
      match escape read rest with
      | (k, .error f) => (taken + 1 + k, .error f)
      | (k, .ok (e, rest')) => string read fuel (taken + 1 + k) rest' (e :: acc)
    else if c.toNat < 0x20 then
      (if read then taken + 1 else taken, .error (.controlCharacterWhileParsingString, 0))
    else string read fuel (taken + 1) rest (c :: acc)

end Scan
end AcpBridge
