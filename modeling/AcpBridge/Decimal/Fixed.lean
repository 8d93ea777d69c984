import AcpBridge.Decimal.Binary

/-!
# Fixed-place decimal text of a float

A float printed with `p` places is its exact binary value rounded to a multiple of
`10 ^ (-p)`, a tie going to the even neighbour, and then written in full: every integer
digit, a point, and exactly `p` digits after it. No exponent form is used, so `1e300`
prints all of its 301 integer digits. An infinite value prints as `inf`, a value that is not
a number as `NaN`.
-/

namespace AcpBridge
namespace Decimal

/-- `num / den` rounded to the nearest natural number, a tie going to the even one. -/
def roundHalfEven (num den : Nat) : Nat :=
  let q := num / den
  let r := num % den
  if 2 * r < den then q
  else if 2 * r > den then q + 1
  else if q % 2 == 0 then q else q + 1

/-- Place a decimal point before the last `places` digits of `n`, padding with zeros so that
at least one digit stands before the point. -/
def pointed (n places : Nat) : String :=
  let ds := Nat.toDigits 10 n
  let padded := List.replicate (places + 1 - ds.length) '0' ++ ds
  if places == 0 then String.ofList padded
  else
    let whole := padded.take (padded.length - places)
    let frac := padded.drop (padded.length - places)
    String.ofList whole ++ "." ++ String.ofList frac

def fixed (x : Float) (places : Nat) : String :=
  match classify x with
  | .notANumber => "NaN"
  | .infinite negative => if negative then "-inf" else "inf"
  | .finite b =>
    let v := b.magnitude
    let units := roundHalfEven (v.num * Nat.pow 10 places) v.den
    (if b.negative then "-" else "") ++ pointed units places

end Decimal
end AcpBridge
