/-!
# Text without terminal controls

When styled text goes somewhere no terminal reads it, such as a pipe or a file, its control
sequences are taken out and only what a terminal would print is kept: printable ASCII, whole
UTF-8 characters, and the blanks tab, line feed, form feed and carriage return. Other C0
controls and DEL are dropped.

The bytes are read with the states of a VT500-series parser. `ESC` starts a sequence from
any state. Most sequences end at their final byte: two-byte escapes, CSI (`ESC [`) at a
byte from `@` to `~`, and OSC (`ESC ]`) at BEL. DCS (`ESC P`) and the SOS, PM and APC
strings (`ESC X`, `ESC ^`, `ESC _`) run until the string terminator byte `0x9C` or the next
`ESC`, and everything inside them is dropped.

The reader alternates two phases, and the parser state lives on from one to the next:
- Dropping, it steps the parser state with each byte and drops it, until a byte is printable
  in that state. The state is left where that byte put it.
- In a run, it keeps every byte printable from the ground state, whole UTF-8 characters
  included, until one is not. Within a run only `ESC` (which starts a sequence), CAN and SUB
  (which cancel one), and a complete UTF-8 character (which leaves the parser in the ground
  state) change the state. The byte that ends a run is read again while dropping.

So a blank inside an unfinished escape or CSI sequence is kept, and the ASCII text after it
too, yet the sequence stays open: the next bytes dropped can still finish it. Inside a
string sequence, every byte up to its end is dropped, the bytes of characters included.
-/

namespace AcpBridge
namespace Terminal

inductive Mode where
  | ground
  | escape
  | escapeIntermediate
  | csiEntry
  | csiParam
  | csiIntermediate
  | csiIgnore
  | dcsEntry
  | dcsParam
  | dcsIntermediate
  | dcsIgnore
  | dcsPassthrough
  | oscString
  | sosPmApcString
  deriving DecidableEq, Repr

/-- What the parser does with a byte, as far as the text shown is concerned. -/
inductive Effect where
  | print
  | execute
  | utf8Start
  | other
  deriving DecidableEq, Repr

def within (lo hi b : Nat) : Bool := lo ≤ b && b ≤ hi

/-- The C0 controls the parser carries out in most states: all below the space but CAN,
SUB and `ESC`. -/
def isControl (b : Nat) : Bool := b ≤ 0x17 || b == 0x19 || within 0x1c 0x1f b

/-- The bytes that act the same in every state: CAN and SUB cancel a sequence, `ESC` starts
one. -/
def fromAnywhere (b : Nat) : Option (Mode × Effect) :=
  if b == 0x18 || b == 0x1a then some (.ground, .execute)
  else if b == 0x1b then some (.escape, .other)
  else none

def inMode : Mode → Nat → Option Mode × Effect
  | .ground, b =>
    if isControl b then (none, .execute)
    else if within 0x20 0x7f b then (none, .print)
    else if within 0x80 0x8f b || within 0x91 0x9a b || b == 0x9c then (none, .execute)
    else if within 0xc2 0xf4 b then (none, .utf8Start)
    else (none, .other)
  | .escape, b =>
    if isControl b then (none, .execute)
    else if within 0x20 0x2f b then (some .escapeIntermediate, .other)
    else if b == 0x5b then (some .csiEntry, .other)
    else if b == 0x5d then (some .oscString, .other)
    else if b == 0x50 then (some .dcsEntry, .other)
    else if b == 0x58 || b == 0x5e || b == 0x5f then (some .sosPmApcString, .other)
    else if within 0x30 0x7e b then (some .ground, .other)
    else (none, .other)
  | .escapeIntermediate, b =>
    if isControl b then (none, .execute)
    else if within 0x30 0x7e b then (some .ground, .other)
    else (none, .other)
  | .csiEntry, b =>
    if isControl b then (none, .execute)
    else if within 0x20 0x2f b then (some .csiIntermediate, .other)
    else if within 0x30 0x3f b then (some .csiParam, .other)
    else if within 0x40 0x7e b then (some .ground, .other)
    else (none, .other)
  | .csiParam, b =>
    if isControl b then (none, .execute)
    else if within 0x3c 0x3f b then (some .csiIgnore, .other)
    else if within 0x20 0x2f b then (some .csiIntermediate, .other)
    else if within 0x40 0x7e b then (some .ground, .other)
    else (none, .other)
  | .csiIntermediate, b =>
    if isControl b then (none, .execute)
    else if within 0x30 0x3f b then (some .csiIgnore, .other)
    else if within 0x40 0x7e b then (some .ground, .other)
    else (none, .other)
  | .csiIgnore, b =>
    if isControl b then (none, .execute)
    else if within 0x40 0x7e b then (some .ground, .other)
    else (none, .other)
  | .dcsEntry, b =>
    if isControl b then (none, .other)
    else if within 0x20 0x2f b then (some .dcsIntermediate, .other)
    else if within 0x30 0x3f b then (some .dcsParam, .other)
    else if within 0x40 0x7e b then (some .dcsPassthrough, .other)
    else (none, .other)
  | .dcsParam, b =>
    if isControl b then (none, .other)
    else if within 0x3c 0x3f b then (some .dcsIgnore, .other)
    else if within 0x20 0x2f b then (some .dcsIntermediate, .other)
    else if within 0x40 0x7e b then (some .dcsPassthrough, .other)
    else (none, .other)
  | .dcsIntermediate, b =>
    if isControl b then (none, .other)
    else if within 0x30 0x3f b then (some .dcsIgnore, .other)
    else if within 0x40 0x7e b then (some .dcsPassthrough, .other)
    else (none, .other)
  | .dcsIgnore, b | .dcsPassthrough, b | .sosPmApcString, b =>
    if b == 0x9c then (some .ground, .other) else (none, .other)
  | .oscString, b =>
    if b == 0x07 then (some .ground, .other) else (none, .other)

def change (m : Mode) (b : Nat) : Option Mode × Effect :=
  match fromAnywhere b with
  | some (m', e) => (some m', e)
  | none => inMode m b

/-- Whether a byte with its effect is shown: a printed byte but DEL, the start of a
character, or a carried-out blank. -/
def shown (e : Effect) (b : Nat) : Bool :=
  match e with
  | .print => b != 0x7f
  | .utf8Start => true
  | .execute => b == 0x09 || b == 0x0a || b == 0x0c || b == 0x0d || b == 0x20
  | .other => false

def utf8Length (b : Nat) : Nat :=
  if b < 0xe0 then 2 else if b < 0xf0 then 3 else 4

/-- The parser's state: a state of the control-sequence parser, or within a UTF-8 character
with some bytes still to come. -/
inductive Parser where
  | at (m : Mode)
  | char (left : Nat)
  deriving DecidableEq, Repr

/-- Whether the reader is in a run of kept bytes or dropping bytes. -/
inductive Phase where
  | run
  | drop
  deriving DecidableEq, Repr

structure Reader where
  phase : Phase
  parser : Parser
  deriving DecidableEq, Repr

def runState (m : Mode) (b : Nat) : Mode :=
  match fromAnywhere b with
  | some (m', _) => m'
  | none => m

/-- Read a byte in a run, the parser in a state: kept when printable from the ground state,
a lead byte starting a character. Any other byte ends the run and is dropped. -/
def runStep (m : Mode) (b : Nat) : Reader × Bool :=
  let e := (change .ground b).2
  if e == .utf8Start then (⟨.run, .char (utf8Length b - 1)⟩, true)
  else
    let m := runState m b
    if shown e b then (⟨.run, .at m⟩, true)
    else (⟨.drop, .at ((change m b).1.getD m)⟩, false)

/-- Read a byte while dropping, the parser in a state: the state steps, and a byte printable
in it starts a run. -/
def dropStep (m : Mode) (b : Nat) : Reader × Bool :=
  let (next, e) := change m b
  let m := next.getD m
  if shown e b then runStep m b else (⟨.drop, .at m⟩, false)

/-- Read one byte: the reader after it, and whether the byte is kept. A byte within a
character is always kept. -/
def step (r : Reader) (b : Nat) : Reader × Bool :=
  match r.parser, r.phase with
  | .char left, _ =>
    (⟨.run, if left ≤ 1 then .at .ground else .char (left - 1)⟩, true)
  | .at m, .run => runStep m b
  | .at m, .drop => dropStep m b

def keep : Reader → List Nat → List Nat
  | _, [] => []
  | r, b :: bs =>
    let (r', kept) := step r b
    if kept then b :: keep r' bs else keep r' bs

/-- Text as it reads with its control sequences and hidden controls taken out. -/
def strip (s : String) : String :=
  let kept := keep ⟨.drop, .at .ground⟩ (s.toUTF8.data.toList.map UInt8.toNat)
  (String.fromUTF8? (ByteArray.mk (kept.map Nat.toUInt8).toArray)).getD ""

theorem keep_sublist (p : Reader) (bs : List Nat) : (keep p bs).Sublist bs := by
  induction bs generalizing p with
  | nil => simp [keep]
  | cons b bs ih =>
    simp only [keep]
    split
    · exact (ih _).cons_cons b
    · exact (ih _).cons b

@[simp] theorem keep_nil (p : Reader) : keep p [] = [] := rfl

end Terminal
end AcpBridge
