/-!
# Binary64 values as integers

A binary64 float is `(-1)^s · m · 2^q` with natural `m`, or infinite, or not a number.
This module reads that form off the bit pattern, so that decimal texts of a float can be
computed in exact natural-number arithmetic.
-/

namespace AcpBridge
namespace Decimal

/-- A finite binary64 value: `(-1)^negative · mantissa · 2^exponent`. -/
structure Binary where
  negative : Bool
  mantissa : Nat
  exponent : Int
  /-- The stored exponent field is zero or one, so the gap below the value is as wide as
  the gap above it even when the fraction field is zero. -/
  evenGaps : Bool
  deriving Repr

inductive FloatClass where
  | notANumber
  | infinite (negative : Bool)
  | finite (b : Binary)

/-- The class of a float, read from its bits: sign bit, 11 exponent bits, 52 fraction bits. -/
def classify (x : Float) : FloatClass :=
  let bits : Nat := x.toBits.toNat
  let negative : Bool := bits / Nat.pow 2 63 % 2 == 1
  let field : Nat := bits / Nat.pow 2 52 % Nat.pow 2 11
  let fraction : Nat := bits % Nat.pow 2 52
  if field == 2047 then
    if fraction == 0 then .infinite negative else .notANumber
  else if field == 0 then
    .finite ⟨negative, fraction, -1074, true⟩
  else
    .finite ⟨negative, fraction + Nat.pow 2 52, Int.ofNat field - 1075, field == 1 || fraction != 0⟩

structure Ratio where
  num : Nat
  den : Nat

namespace Binary

def magnitude (b : Binary) : Ratio :=
  if 0 ≤ b.exponent then ⟨b.mantissa * Nat.pow 2 b.exponent.toNat, 1⟩
  else ⟨b.mantissa, Nat.pow 2 (-b.exponent).toNat⟩

end Binary

end Decimal
end AcpBridge
