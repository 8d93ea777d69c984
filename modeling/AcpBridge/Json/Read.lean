import AcpBridge.Json.Scan

/-!
# Reading JSON text

A reader walks a text once, from left to right, and stops at the first fault. Its state is
a `Cursor`: the characters not yet read and the position before them. Reading a document
keeps members in the order written (`Json.read`); the in-memory value of a text is that
document in map form (`Json.parse`).

Besides whole documents the reader offers the steps that typed decoders take on a text:
a key or the end of an object, an element or the end of an array, a boolean, a string, an
unsigned number, skipping an unwanted value. A decoder that refuses a value it read reports
the position where reading stands at that moment; inside an object or array, that is after
the closing bracket if only blanks stand before it.

Nesting is limited: the 128th array or object open at once is refused.
-/

namespace AcpBridge
namespace Reader

/-- Where reading stands. -/
structure Cursor where
  rest : List Char
  line : Nat
  column : Nat

def Cursor.start (s : String) : Cursor := ⟨s.toList, 1, 0⟩

def Cursor.position (c : Cursor) : Position := ⟨c.line, c.column⟩

def Cursor.advance (c : Cursor) : Cursor :=
  match c.rest with
  | [] => c
  | ch :: rest => if ch == '\n' then ⟨rest, c.line + 1, 0⟩ else ⟨rest, c.line, c.column + ch.utf8Size⟩

def Cursor.advanceBy : Nat → Cursor → Cursor
  | 0, c => c
  | n + 1, c => advanceBy n c.advance

/-- Past `k` bytes; a character cut in two moves the column by the bytes before the cut. -/
def Cursor.skipBytes : Nat → Cursor → Cursor
  | 0, c => c
  | k + 1, c =>
    match c.rest with
    | [] => c
    | ch :: _ =>
      if ch.utf8Size ≤ k + 1 then skipBytes (k + 1 - ch.utf8Size) c.advance
      else { c with column := c.column + k + 1 }
  termination_by k => k
  decreasing_by have := Char.utf8Size_pos ch; omega

def Cursor.skipBlank (c : Cursor) : Cursor :=
  go c.rest c.line c.column
where
  go : List Char → Nat → Nat → Cursor
    | ch :: rest, line, col =>
      if ch == '\n' then go rest (line + 1) 0
      else if ch == ' ' || ch == '\t' || ch == '\r' then go rest line (col + 1)
      else ⟨ch :: rest, line, col⟩
    | [], line, col => ⟨[], line, col⟩

abbrev ReadM := StateT Cursor (Except ReadError)

def peek : ReadM (Option Char) := do return (← get).rest.head?

def bump : ReadM Unit := modify Cursor.advance

def blank : ReadM (Option Char) := do
  modify Cursor.skipBlank
  peek

def failHere (e : SyntaxError) : ReadM α := do throw (.malformed e (← get).position)

def failNext (e : SyntaxError) : ReadM α := do throw (.malformed e ((← get).skipBytes 1).position)

def reject (e : DecodeError) : ReadM α := do throw (.decode e (some (← get).position))

/-- Stop with a decode error met inside an object, placed after its closing brace when only
blanks stand before it. -/
def rejectInObject (e : DecodeError) : ReadM α := do
  if (← blank) == some '}' then bump
  reject e

/-- Stop with a decode error met inside an array, placed after its closing bracket, or after a
comma, when only blanks stand before it. -/
def rejectInArray (e : DecodeError) : ReadM α := do
  match ← blank with
  | some ']' => bump
  | some ',' => bump; modify Cursor.skipBlank
  | _ => pure ()
  reject e

def take (scan : List Char → Scan.Result α) : ReadM α := do
  let c ← get
  let (n, r) := scan c.rest
  let c := c.advanceBy n
  set c
  match r with
  | .ok a => pure a
  | .error (e, extra) => throw (.malformed e (c.skipBytes extra).position)

/-- The rest of a literal word, after its first letter. A wrong character is not taken: the
fault stands one byte into it. -/
def word : List Char → ReadM Unit
  | [] => pure ()
  | e :: rest => do
    match ← peek with
    | none => failHere .eofWhileParsingValue
    | some c =>
      if c == e then do bump; word rest else failNext .expectedSomeIdent

def number (positive : Bool) : ReadM Number := take (Scan.number positive)

def string (fuel : Nat) : ReadM String := take (fun cs => Scan.string true fuel 0 cs [])

def enter (depth : Nat) : ReadM Nat :=
  if depth ≤ 1 then failNext .recursionLimitExceeded else pure (depth - 1)

/-- The next key of an object, or `none` at its end. The first key needs no comma; a comma
must not be followed by the closing brace. -/
def nextKey (fuel : Nat) (first : Bool) : ReadM (Option String) := do
  match ← blank with
  | none => failNext .eofWhileParsingObject
  | some '}' => pure none
  | some c =>
    if first then
      if c == '"' then do bump; some <$> string fuel else failNext .keyMustBeAString
    else if c == ',' then do
      bump
      match ← blank with
      | some '"' => bump; some <$> string fuel
      | some '}' => failNext .trailingComma
      | some _ => failNext .keyMustBeAString
      | none => failNext .eofWhileParsingValue
    else failNext .expectedObjectCommaOrEnd

def colon : ReadM Unit := do
  match ← blank with
  | some ':' => bump
  | some _ => failNext .expectedColon
  | none => failNext .eofWhileParsingObject

def nextItem (first : Bool) : ReadM Bool := do
  match ← blank with
  | none => failNext .eofWhileParsingList
  | some ']' => pure false
  | some c =>
    if first then pure true
    else if c == ',' then do
      bump
      match ← blank with
      | some ']' => failNext .trailingComma
      | some _ => pure true
      | none => failNext .eofWhileParsingValue
    else failNext .expectedListCommaOrEnd

def endObject : ReadM Unit := do
  match ← blank with
  | some '}' => bump
  | some ',' => failNext .trailingComma
  | some _ => failNext .trailingCharacters
  | none => failNext .eofWhileParsingObject

def endArray : ReadM Unit := do
  match ← blank with
  | some ']' => bump
  | some ',' => do
    bump
    match ← blank with
    | some ']' => failNext .trailingComma
    | _ => failNext .trailingCharacters
  | some _ => failNext .trailingCharacters
  | none => failNext .eofWhileParsingList

def scalar (fuel : Nat) (c : Char) : ReadM Json := do
  if c == 'n' then do bump; word ['u', 'l', 'l']; pure .null
  else if c == 't' then do bump; word ['r', 'u', 'e']; pure (.bool true)
  else if c == 'f' then do bump; word ['a', 'l', 's', 'e']; pure (.bool false)
  else if c == '-' then do bump; .num <$> number false
  else if c.isDigit then .num <$> number true
  else if c == '"' then do bump; .str <$> string fuel
  else failNext .expectedSomeValue

mutual
def value : Nat → Nat → ReadM Json
  | 0, _ => failHere .eofWhileParsingValue
  | fuel + 1, depth => do
    match ← blank with
    | none => failNext .eofWhileParsingValue
    | some c =>
      if c == '[' then do
        let d ← enter depth
        bump
        let xs ← items fuel d true []
        endArray
        pure (.arr xs)
      else if c == '{' then do
        let d ← enter depth
        bump
        let ms ← members fuel d true []
        endObject
        pure (.obj ms)
      else scalar fuel c

def items : Nat → Nat → Bool → List Json → ReadM (List Json)
  | 0, _, _, _ => failHere .eofWhileParsingList
  | fuel + 1, depth, first, acc => do
    if ← nextItem first then
      let j ← value fuel depth
      items fuel depth false (j :: acc)
    else pure acc.reverse

def members : Nat → Nat → Bool → List (String × Json) → ReadM (List (String × Json))
  | 0, _, _, _ => failHere .eofWhileParsingObject
  | fuel + 1, depth, first, acc => do
    match ← nextKey fuel first with
    | none => pure acc.reverse
    | some k =>
      colon
      let v ← value fuel depth
      members fuel depth false ((k, v) :: acc)
end

/-- The value read where a decoder wanted something else, named in a decode error placed
after it; an array or object is named without being read. -/
def invalidType (fuel : Nat) (expected : String) : ReadM α := do
  let found ← do
    match ← peek with
    | some c =>
      if c == 'n' then do bump; word ['u', 'l', 'l']; pure Unexpected.null
      else if c == 't' then do bump; word ['r', 'u', 'e']; pure (Unexpected.bool true)
      else if c == 'f' then do bump; word ['a', 'l', 's', 'e']; pure (Unexpected.bool false)
      else if c == '-' then do bump; Number.unexpected <$> number false
      else if c.isDigit then Number.unexpected <$> number true
      else if c == '"' then do bump; Unexpected.str <$> string fuel
      else if c == '[' then pure Unexpected.seq
      else if c == '{' then pure Unexpected.map
      else failNext .expectedSomeValue
    | none => failNext .expectedSomeValue
  reject (.invalidType found expected)

def boolean (fuel : Nat) : ReadM Bool := do
  match ← blank with
  | none => failNext .eofWhileParsingValue
  | some c =>
    if c == 't' then do bump; word ['r', 'u', 'e']; pure true
    else if c == 'f' then do bump; word ['a', 'l', 's', 'e']; pure false
    else invalidType fuel "a boolean"

def text (fuel : Nat) (expected : String) : ReadM String := do
  match ← blank with
  | none => failNext .eofWhileParsingValue
  | some c =>
    if c == '"' then do bump; string fuel
    else invalidType fuel expected

def unsigned (fuel : Nat) (limit : Nat) (expected : String) : ReadM Nat := do
  let n ← do
    match ← blank with
    | none => failNext .eofWhileParsingValue
    | some c =>
      if c == '-' then do bump; number false
      else if c.isDigit then number true
      else invalidType fuel expected
  match n with
  | .nat k => if k ≤ limit then pure k else reject (.invalidValue (.unsigned k) expected)
  | .neg k => reject (.invalidValue (.signed k) expected)
  | .float x => reject (.invalidType (.float x) expected)

def optional (inner : ReadM α) : ReadM (Option α) := do
  if (← blank) == some 'n' then do bump; word ['u', 'l', 'l']; pure none
  else some <$> inner

def identifier (fuel : Nat) (variants : List String) : ReadM Nat := do
  match ← blank with
  | none => failNext .eofWhileParsingValue
  | some c =>
    if c == '"' then do
      bump
      let s ← string fuel
      match variants.findIdx? (· == s) with
      | some i => pure i
      | none => reject (.unknownVariant s variants)
    else invalidType fuel "variant identifier"

def skipString (fuel : Nat) : ReadM Unit := do
  let _ ← take (fun cs => Scan.string false fuel 0 cs [])

/-- Close brackets after a skipped value, while they close: `none` once the outermost one is
closed, else the open bracket and the ones around it when a comma or another value follows. -/
def skipClose : Nat → List Char → Char → Bool → ReadM (Option (Char × List Char))
  | 0, _, _, _ => failHere .eofWhileParsingValue
  | fuel + 1, around, frame, afterValue => do
    match ← blank with
    | none => failNext (if frame == '[' then .eofWhileParsingList else .eofWhileParsingObject)
    | some c =>
      if c == ',' && afterValue then do bump; pure (some (frame, around))
      else if (c == ']' && frame == '[') || (c == '}' && frame == '{') then do
        bump
        match around with
        | [] => pure none
        | f :: rest => skipClose fuel rest f true
      else if afterValue then
        failNext (if frame == '[' then .expectedListCommaOrEnd else .expectedObjectCommaOrEnd)
      else pure (some (frame, around))

/-- Skip the head of a value: a whole scalar, or the opening bracket of an array or object,
which is given back. -/
def skipHead (fuel : Nat) : ReadM (Option Char) := do
  match ← blank with
  | none => failNext .eofWhileParsingValue
  | some c =>
    if c == 'n' then do bump; word ['u', 'l', 'l']; pure none
    else if c == 't' then do bump; word ['r', 'u', 'e']; pure none
    else if c == 'f' then do bump; word ['a', 'l', 's', 'e']; pure none
    else if c == '-' then do bump; take Scan.skipNumber; pure none
    else if c.isDigit then do take Scan.skipNumber; pure none
    else if c == '"' then do bump; skipString fuel; pure none
    else if c == '[' || c == '{' then do bump; pure (some c)
    else failNext .expectedSomeValue

def skipKey (fuel : Nat) : ReadM Unit := do
  match ← blank with
  | some '"' => bump
  | some _ => failNext .keyMustBeAString
  | none => failNext .eofWhileParsingObject
  skipString fuel
  match ← blank with
  | some ':' => bump
  | some _ => failNext .expectedColon
  | none => failNext .eofWhileParsingObject

/-- Skip values, with the brackets open around them and the innermost bracket whose value
is next. -/
def skipLoop : Nat → List Char → Option Char → ReadM Unit
  | 0, _, _ => failHere .eofWhileParsingValue
  | fuel + 1, around, enclosing => do
    let opened ← skipHead fuel
    let next : Option (Char × List Char × Bool) :=
      match opened with
      | some f => some (f, (match enclosing with | some e => e :: around | none => around), false)
      | none =>
        match enclosing with
        | some e => some (e, around, true)
        | none =>
          match around with
          | f :: rest => some (f, rest, true)
          | [] => none
    match next with
    | none => pure ()
    | some (frame, around', afterValue) =>
      match ← skipClose fuel around' frame afterValue with
      | none => pure ()
      | some (frame', around'') =>
        if frame' == '{' then skipKey fuel
        skipLoop fuel around'' (some frame')

/-- Skip a value that is not wanted. Skipping checks less than reading: numbers of any size
and lone surrogates pass, and a trailing comma is met as a missing value. -/
def skipValue (fuel : Nat) : ReadM Unit := skipLoop fuel [] none

def finish : ReadM Unit := do
  match ← blank with
  | some _ => failNext .trailingCharacters
  | none => pure ()

/-- Enough steps for any reading of a text: more would change no result
(`Json.read_enough_fuel`). -/
def fuelFor (s : String) : Nat := 4 * s.length + 8

/-- Run a reading over a whole text. -/
def run (s : String) (r : Nat → ReadM α) : Except ReadError α :=
  (do let a ← r (fuelFor s); finish; pure a).run' (Cursor.start s)

end Reader

namespace Json

/-- Read a text as one document, members in the order written. -/
def read (s : String) : Except ReadError Json := Reader.run s (fun fuel => Reader.value fuel 128)

/-- Read a text as an in-memory value: its document in map form. -/
def parse (s : String) : Except ReadError Json := (read s).map normalize

end Json

end AcpBridge
