/-!
# Sets of code points as ranges

A set of code points drawn from a character property is written as a list of inclusive
ranges, in increasing order and apart from each other. `inRanges` says whether a code point
lies in one of them; `inRanges_iff` states that as a plain existence.
-/

namespace AcpBridge
namespace Text

def inRanges (n : Nat) (rs : List (Nat × Nat)) : Bool :=
  rs.any fun r => r.1 ≤ n && n ≤ r.2

theorem inRanges_iff (n : Nat) (rs : List (Nat × Nat)) :
    inRanges n rs = true ↔ ∃ r ∈ rs, r.1 ≤ n ∧ n ≤ r.2 := by
  simp [inRanges]

@[simp] theorem inRanges_nil (n : Nat) : inRanges n [] = false := rfl

end Text
end AcpBridge
