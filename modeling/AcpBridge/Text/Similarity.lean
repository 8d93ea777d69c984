/-!
# Similarity of names

The Jaro similarity of two texts, used to suggest a known name for a misspelt one. Two
characters match when they are equal and their places differ by less than half the longer
length; a match is taken at most once on each side, the earliest free one first. With `m`
matches out of lengths `a` and `b`, and `t` half the number of matched pairs out of order,
the similarity is `(m / a + m / b + (m - t) / m) / 3`, computed in floating point. Two empty
texts are equal (similarity one); an empty text is unlike any other (zero).
-/

namespace AcpBridge
namespace Text

def takeMatch (c : Char) (lo hi : Nat) : List (Char × Bool) → Nat → Option (List (Char × Bool))
  | [], _ => none
  | (d, taken) :: rest, j =>
    if j ≥ hi then none
    else if lo ≤ j && d == c && !taken then some ((d, true) :: rest)
    else ((d, taken) :: ·) <$> takeMatch c lo hi rest (j + 1)

/-- Mark the matches of `a` in `b`, given how far apart matches may be: which characters of
`a` matched, and `b` with its matched characters marked. -/
def matchAll (range : Nat) (b : List (Char × Bool)) : List Char → Nat → List Bool × List (Char × Bool)
  | [], _ => ([], b)
  | c :: rest, i =>
    let lo := i - range
    let hi := i + range + 1
    match takeMatch c lo hi b 0 with
    | some b' =>
      let (flags, b'') := matchAll range b' rest (i + 1)
      (true :: flags, b'')
    | none =>
      let (flags, b'') := matchAll range b rest (i + 1)
      (false :: flags, b'')

def jaro (a b : String) : Float :=
  let as := a.toList
  let bs := b.toList
  if as.isEmpty && bs.isEmpty then 1.0
  else if as.isEmpty || bs.isEmpty then 0.0
  else
    let range := max as.length bs.length / 2 - 1
    let (flags, marked) := matchAll range (bs.map (·, false)) as 0
    let fromA := (as.zip flags).filterMap fun (c, f) => if f then some c else none
    let fromB := marked.filterMap fun (c, f) => if f then some c else none
    let m := fromA.length
    if m == 0 then 0.0
    else
      let t := ((fromA.zip fromB).filter fun (x, y) => x != y).length / 2
      let mf := Float.ofNat m
      (mf / Float.ofNat as.length + mf / Float.ofNat bs.length + Float.ofNat (m - t) / mf) / 3.0

/-- Known names close enough to a given one, least similar first: those whose similarity
is above `0.7`. Of equally similar names the earlier comes first. -/
def similarNames (name : String) (known : List String) : List String :=
  let scored := (known.map fun k => (jaro name k, k)).filter (·.1 > 0.7)
  (scored.mergeSort fun x y => x.1 ≤ y.1).map (·.2)

end Text
end AcpBridge
