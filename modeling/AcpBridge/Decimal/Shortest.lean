import AcpBridge.Decimal.Binary

/-!
# Shortest decimal digits of a float

Every finite binary64 value `v` owns the interval of reals that round to it. The shortest
decimal of `v` is a decimal with the fewest significant digits inside that interval; of two
such decimals the nearer to `v` is taken, and of two equally near the one with an even last
digit. The interval's ends belong to it exactly when the mantissa is even, as reading rounds
ties to even.

`shortest` tries 1, 2, … 17 significant digits. For `n` digits the candidates are the two
multiples of `10 ^ (k - n + 1)` next to `v`, where `10 ^ k ≤ v < 10 ^ (k + 1)`: if any
`n`-digit decimal lies in the interval, one of these two does. Seventeen digits always
suffice for binary64. All comparisons are exact products of natural numbers.
-/

namespace AcpBridge
namespace Decimal

structure Scientific where
  digits : Nat
  exponent : Int
  deriving Repr, BEq

def digitCount (n : Nat) : Nat := (Nat.toDigits 10 n).length

/-- Compare `a · 10 ^ s` with `b` for natural `a`, `b` and integer `s`, as `a·10^s·den` against
`b·den`: the sign of the scale decides which side takes the power. -/
def cmpScaled (a : Nat) (s : Int) (b : Nat) : Ordering :=
  if 0 ≤ s then compare (a * Nat.pow 10 s.toNat) b else compare a (b * Nat.pow 10 (-s).toNat)

def decimalExponent (num den : Nat) : Int :=
  let guess : Int := (digitCount num : Int) - (digitCount den : Int)
  -- `guess` is the exponent or one above it.
  if cmpScaled den guess num == .gt then guess - 1 else guess

/-- The interval of reals that round to a binary value, scaled by four: the value is
`4m · 2^(q-2)`, the ends are `lo · 2^(q-2)` and `hi · 2^(q-2)`. -/
structure Interval where
  lo : Nat
  mid : Nat
  hi : Nat
  closed : Bool

def Binary.interval (b : Binary) : Interval :=
  ⟨4 * b.mantissa - (if b.evenGaps then 2 else 1), 4 * b.mantissa, 4 * b.mantissa + 2,
    b.mantissa % 2 == 0⟩

def scaled (x : Nat) (e : Int) : Ratio :=
  if 0 ≤ e then ⟨x * Nat.pow 2 e.toNat, 1⟩ else ⟨x, Nat.pow 2 (-e).toNat⟩

def cmpDecimal (c : Nat) (t : Int) (r : Ratio) : Ordering :=
  cmpScaled (c * r.den) t r.num

def inInterval (b : Binary) (c : Nat) (t : Int) : Bool :=
  let i := b.interval
  let e := b.exponent - 2
  let above := cmpDecimal c t (scaled i.lo e)
  let below := cmpDecimal c t (scaled i.hi e)
  if i.closed then above != .lt && below != .gt else above == .gt && below == .lt

/-- Of two candidates `c` and `c + 1` on the grid `10 ^ t`, the one nearer to `v`; a tie goes
to the even one. -/
def nearer (v : Ratio) (c : Nat) (t : Int) : Nat :=
  -- compare `v - c·u` with `(c+1)·u - v`, that is `2v` with `(2c+1)·u`
  match cmpDecimal (2 * c + 1) t ⟨2 * v.num, v.den⟩ with
  | .lt => c + 1
  | .gt => c
  | .eq => if c % 2 == 0 then c else c + 1

def candidate (b : Binary) (k : Int) (n : Nat) : Option Scientific :=
  let v := b.magnitude
  let t : Int := k - n + 1
  -- `c = ⌊v / 10^t⌋`
  let c : Nat :=
    if 0 ≤ t then v.num / (v.den * Nat.pow 10 t.toNat) else v.num * Nat.pow 10 (-t).toNat / v.den
  let lowIn := inInterval b c t
  let highIn := inInterval b (c + 1) t
  if lowIn && highIn then some ⟨nearer v c t, t⟩
  else if lowIn then some ⟨c, t⟩
  else if highIn then some ⟨c + 1, t⟩
  else none

def Scientific.trim (s : Scientific) : Scientific :=
  go s.digits s.exponent (digitCount s.digits)
where
  go (d : Nat) (e : Int) : Nat → Scientific
    | 0 => ⟨d, e⟩
    | fuel + 1 => if d != 0 && d % 10 == 0 then go (d / 10) (e + 1) fuel else ⟨d, e⟩

/-- The shortest decimal of a binary value with positive mantissa, trailing zeros dropped. -/
def shortest (b : Binary) : Scientific :=
  let v := b.magnitude
  let k := decimalExponent v.num v.den
  let tries := (List.range 17).filterMap (fun i => candidate b k (i + 1))
  match tries with
  | s :: _ => s.trim
  | [] => (⟨v.num / v.den, 0⟩ : Scientific).trim

end Decimal
end AcpBridge
