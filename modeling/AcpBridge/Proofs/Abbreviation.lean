import Mathlib
import AcpBridge.Metrics.Status

/-!
# Abbreviated counts keep their value

A count from a thousand up is shown divided by a thousand, a million or a billion, printed with
two decimals, and then cut: the zeros that end the text go, then a point left at its end. The
cut could eat zeros of the integer part if no point stood before them; it never does, because a
text printed with two decimals always has its point with two digits after it
(`pointed_places`), and the texts of a float that is not finite end in a letter.

So the cut drops only zeros of the fraction, and the point when no fraction digit is left
(`DropsFractionZeros`): the text keeps everything before its point, keeps its value as a
decimal (`decimalValue`), and ends neither in a point nor, past a point, in a zero
(`fixed_two_dropsFractionZeros`). `abbreviate_drops_fraction_zeros` states this of `abbreviate`
for every count, with the unit chosen as the largest not above it.

The division itself is done in floats, which the logic does not evaluate, so the statements
hold for whatever float the division gives.
-/

namespace AcpBridge

namespace Metrics

open Decimal

/-! ## Decimal texts and their values -/

def digitStep (acc : ℕ) (c : Char) : ℕ := 10 * acc + (c.toNat - '0'.toNat)

def digitsValue (cs : List Char) : ℕ := cs.foldl digitStep 0

/-- The value of a decimal text: the digits before its point, plus those after it over ten to
the power of their count. -/
def decimalValue (cs : List Char) : ℚ :=
  let frac := (cs.dropWhile (· != '.')).drop 1
  (digitsValue (cs.takeWhile (· != '.')) : ℚ) + (digitsValue frac : ℚ) / 10 ^ frac.length

theorem foldl_digitStep (acc : ℕ) (cs : List Char) :
    cs.foldl digitStep acc = acc * 10 ^ cs.length + digitsValue cs := by
  induction cs generalizing acc with
  | nil => simp [digitsValue]
  | cons c cs ih =>
    have hval : digitsValue (c :: cs) = digitStep 0 c * 10 ^ cs.length + digitsValue cs := by
      rw [digitsValue, List.foldl_cons, ih]
    rw [List.foldl_cons, ih, hval]
    simp only [digitStep, List.length_cons, pow_succ]
    ring

theorem digitsValue_append (cs ds : List Char) :
    digitsValue (cs ++ ds) = digitsValue cs * 10 ^ ds.length + digitsValue ds := by
  rw [digitsValue, List.foldl_append, ← digitsValue, foldl_digitStep]

theorem digitsValue_zeros {zs : List Char} (h : ∀ c ∈ zs, c = '0') : digitsValue zs = 0 := by
  induction zs using List.reverseRecOn with
  | nil => rfl
  | append_singleton zs c ih =>
    rw [digitsValue_append, ih fun d hd => h d (List.mem_append_left _ hd),
      h c (List.mem_append_right _ (List.mem_singleton_self c))]
    rfl

theorem takeWhile_of_no_point {cs : List Char} (h : '.' ∉ cs) : cs.takeWhile (· != '.') = cs :=
  List.takeWhile_eq_self_iff.mpr fun c hc => by
    simp only [bne_iff_ne, ne_eq]
    rintro rfl
    exact h hc

theorem decimalValue_of_no_point {cs : List Char} (h : '.' ∉ cs) :
    decimalValue cs = digitsValue cs := by
  have hdrop : cs.dropWhile (· != '.') = [] :=
    List.dropWhile_eq_nil_iff.mpr fun c hc => by
      simp only [bne_iff_ne, ne_eq]
      rintro rfl
      exact h hc
  simp [decimalValue, takeWhile_of_no_point h, hdrop, digitsValue]

theorem takeWhile_point {whole rest : List Char} (h : '.' ∉ whole) :
    (whole ++ '.' :: rest).takeWhile (· != '.') = whole := by
  induction whole with
  | nil => simp
  | cons c cs ih =>
    simp only [List.mem_cons, not_or] at h
    rw [List.cons_append, List.takeWhile_cons, if_pos (by simpa using Ne.symm h.1), ih h.2]

theorem dropWhile_point {whole rest : List Char} (h : '.' ∉ whole) :
    (whole ++ '.' :: rest).dropWhile (· != '.') = '.' :: rest := by
  induction whole with
  | nil => simp
  | cons c cs ih =>
    simp only [List.mem_cons, not_or] at h
    rw [List.cons_append, List.dropWhile_cons, if_pos (by simpa using Ne.symm h.1), ih h.2]

theorem decimalValue_point {whole frac : List Char} (h : '.' ∉ whole) :
    decimalValue (whole ++ '.' :: frac) =
      (digitsValue whole : ℚ) + (digitsValue frac : ℚ) / 10 ^ frac.length := by
  simp [decimalValue, takeWhile_point h, dropWhile_point h]

/-! ## Dropping the zeros of a fraction -/

/-- `t` is the decimal text `x` less the zeros that end its fraction, and less its point when no
fraction digit is left. -/
structure DropsFractionZeros (x t : List Char) : Prop where
  dropsOnly : ∃ dropped, x = t ++ dropped ∧ ∀ c ∈ dropped, c = '0' ∨ c = '.'
  keepsWhole : t.takeWhile (· != '.') = x.takeWhile (· != '.')
  sameValue : decimalValue t = decimalValue x
  noPointLast : t.getLast? ≠ some '.'
  noZeroLast : '.' ∈ t → t.getLast? ≠ some '0'

/-- What `abbreviate` does to a printed quotient: drop the zeros at its end, then a point left at
its end. -/
def trimFraction (cs : List Char) : List Char :=
  ((cs.reverse.dropWhile (· == '0')).dropWhile (· == '.')).reverse

theorem trimFraction_of_no_point {cs : List Char} (h : '.' ∉ cs) (hlast : cs.getLast? ≠ some '0') :
    trimFraction cs = cs := by
  have hzero : cs.reverse.dropWhile (· == '0') = cs.reverse := by
    cases hrev : cs.reverse with
    | nil => rfl
    | cons c rest =>
      have hc : cs.getLast? = some c := by rw [← List.head?_reverse, hrev]; rfl
      rw [List.dropWhile_cons, if_neg (by simp only [beq_iff_eq]; rintro rfl; exact hlast hc)]
  have hpoint : cs.reverse.dropWhile (· == '.') = cs.reverse :=
    List.dropWhile_eq_self_iff.mpr fun hl hdot => by
      simp only [beq_iff_eq] at hdot
      exact h (List.mem_reverse.mp (hdot ▸ List.getElem_mem hl))
  rw [trimFraction, hzero, hpoint, List.reverse_reverse]

theorem dropsFractionZeros_self {x : List Char} (h : '.' ∉ x) : DropsFractionZeros x x where
  dropsOnly := ⟨[], by simp, by simp⟩
  keepsWhole := rfl
  sameValue := rfl
  noPointLast := fun hdot => h (List.mem_of_getLast? hdot)
  noZeroLast := fun hdot => absurd hdot h

theorem trimFraction_point {whole frac : List Char} (hwhole : '.' ∉ whole) (hfrac : '.' ∉ frac) :
    trimFraction (whole ++ '.' :: frac) =
      whole ++ (if frac.rdropWhile (· == '0') = [] then [] else '.' :: frac.rdropWhile (· == '0')) := by
  have hrev : (whole ++ '.' :: frac).reverse = frac.reverse ++ '.' :: whole.reverse := by simp
  -- the last character of the whole part is no point, so a second drop stops there
  have hkeep : whole.reverse.dropWhile (· == '.') = whole.reverse :=
    List.dropWhile_eq_self_iff.mpr fun hl hdot => by
      simp only [beq_iff_eq] at hdot
      exact hwhole (List.mem_reverse.mp (hdot ▸ List.getElem_mem hl))
  rw [trimFraction, hrev, List.dropWhile_append]
  by_cases hzeros : frac.rdropWhile (· == '0') = []
  · -- the fraction is all zeros: they go, then the point
    have hempty : (frac.reverse.dropWhile (· == '0')).isEmpty = true := by
      rw [List.rdropWhile, List.reverse_eq_nil_iff] at hzeros
      simp [hzeros]
    rw [if_pos hempty, List.dropWhile_cons, if_neg (by decide), List.dropWhile_cons,
      if_pos (by decide), hkeep, List.reverse_reverse, if_pos hzeros, List.append_nil]
  · -- a digit other than zero ends the fraction's cut, and the point stays before it
    have hcut : frac.reverse.dropWhile (· == '0') = (frac.rdropWhile (· == '0')).reverse := by
      rw [List.rdropWhile, List.reverse_reverse]
    have hne' : (frac.reverse.dropWhile (· == '0')).isEmpty = false := by
      rw [hcut]
      simpa using hzeros
    rw [if_neg (by simp [hne']), if_neg hzeros, hcut]
    obtain ⟨d, ds, hds⟩ := List.exists_cons_of_ne_nil (List.reverse_ne_nil_iff.mpr hzeros)
    have hd : d ∈ frac := by
      have hmem : d ∈ (frac.rdropWhile (· == '0')).reverse := hds ▸ List.mem_cons_self
      exact (List.rdropWhile_prefix _ _).subset (List.mem_reverse.mp hmem)
    rw [hds, List.cons_append, List.dropWhile_cons,
      if_neg (by simp only [beq_iff_eq]; rintro rfl; exact hfrac hd), ← List.cons_append, ← hds]
    simp

theorem dropsFractionZeros_whole {whole zeros : List Char} (hwhole : '.' ∉ whole)
    (hzeros : ∀ c ∈ zeros, c = '0') : DropsFractionZeros (whole ++ '.' :: zeros) whole where
  dropsOnly := ⟨'.' :: zeros, rfl, fun c hc =>
    (List.mem_cons.mp hc).elim .inr fun h => .inl (hzeros c h)⟩
  keepsWhole := by rw [takeWhile_point hwhole, takeWhile_of_no_point hwhole]
  sameValue := by
    rw [decimalValue_of_no_point hwhole, decimalValue_point hwhole, digitsValue_zeros hzeros]
    simp
  noPointLast := fun hdot => hwhole (List.mem_of_getLast? hdot)
  noZeroLast := fun hdot => absurd hdot hwhole

theorem dropsFractionZeros_kept {whole kept zeros : List Char} (hwhole : '.' ∉ whole)
    (hkept : '.' ∉ kept) (hne : kept ≠ []) (hlast : kept.getLast hne ≠ '0')
    (hzeros : ∀ c ∈ zeros, c = '0') :
    DropsFractionZeros (whole ++ '.' :: (kept ++ zeros)) (whole ++ '.' :: kept) := by
  have hend : (whole ++ '.' :: kept).getLast? = some (kept.getLast hne) := by
    rw [show whole ++ '.' :: kept = (whole ++ ['.']) ++ kept by simp,
      List.getLast?_append_of_ne_nil _ hne, List.getLast?_eq_getLast_of_ne_nil hne]
  refine ⟨⟨zeros, by simp, fun c hc => .inl (hzeros c hc)⟩, ?_, ?_, ?_, ?_⟩
  · rw [takeWhile_point hwhole, takeWhile_point hwhole]
  · -- the zeros shift the fraction's digits and its denominator alike
    rw [decimalValue_point hwhole, decimalValue_point hwhole, digitsValue_append,
      digitsValue_zeros hzeros, List.length_append, pow_add]
    push_cast
    field_simp
    ring
  · rw [hend]
    intro hdot
    exact hkept ((Option.some.inj hdot) ▸ List.getLast_mem hne)
  · intro _
    rw [hend]
    exact fun hzero => hlast (Option.some.inj hzero)

theorem dropsFractionZeros_point {whole frac : List Char} (hwhole : '.' ∉ whole)
    (hfrac : '.' ∉ frac) :
    DropsFractionZeros (whole ++ '.' :: frac) (trimFraction (whole ++ '.' :: frac)) := by
  rw [trimFraction_point hwhole hfrac]
  -- the fraction is its cut followed by the zeros the cut dropped
  have hsplit := List.rdropWhile_append_rtakeWhile (p := (· == '0')) (l := frac)
  have hzeros : ∀ c ∈ frac.rtakeWhile (· == '0'), c = '0' := fun c hc => by
    simpa using List.mem_rtakeWhile_imp hc
  by_cases hkept : frac.rdropWhile (· == '0') = []
  · rw [if_pos hkept, List.append_nil]
    rw [hkept, List.nil_append] at hsplit
    rw [← hsplit]
    exact dropsFractionZeros_whole hwhole hzeros
  · rw [if_neg hkept]
    conv => arg 1; rw [← hsplit]
    exact dropsFractionZeros_kept hwhole
      (fun h => hfrac ((List.rdropWhile_prefix _ _).subset h)) hkept
      (by simpa using List.rdropWhile_last_not _ _ hkept) hzeros

theorem pointed_places (n places : Nat) (hplaces : 0 < places) :
    ∃ whole frac, (pointed n places).toList = whole ++ '.' :: frac ∧
      ∀ c ∈ whole ++ frac, c.isDigit = true := by
  have hdigits : ∀ c ∈ List.replicate (places + 1 - (Nat.toDigits 10 n).length) '0' ++
      Nat.toDigits 10 n, c.isDigit = true := by
    intro c hc
    rcases List.mem_append.mp hc with hc | hc
    · rw [(List.mem_replicate.mp hc).2]
      rfl
    · exact Nat.isDigit_of_mem_toDigits (by decide) (by decide) hc
  unfold pointed
  rw [if_neg (by simpa using Nat.pos_iff_ne_zero.mp hplaces)]
  dsimp only
  set padded := List.replicate (places + 1 - (Nat.toDigits 10 n).length) '0' ++ Nat.toDigits 10 n
  refine ⟨padded.take (padded.length - places), padded.drop (padded.length - places), by simp, ?_⟩
  rw [List.take_append_drop]
  exact hdigits

theorem fixed_two_dropsFractionZeros (x : Float) :
    DropsFractionZeros (fixed x 2).toList (trimFraction (fixed x 2).toList) := by
  have hword : ∀ w : String, '.' ∉ w.toList → w.toList.getLast? ≠ some '0' →
      DropsFractionZeros w.toList (trimFraction w.toList) := by
    intro w hdot hzero
    rw [trimFraction_of_no_point hdot hzero]
    exact dropsFractionZeros_self hdot
  have hnotDot : ∀ c : Char, c.isDigit = true → c ≠ '.' := by
    rintro c hc rfl
    exact absurd hc (by decide)
  unfold fixed
  split
  · exact hword "NaN" (by decide) (by decide)
  · split
    · exact hword "-inf" (by decide) (by decide)
    · exact hword "inf" (by decide) (by decide)
  · rename_i b _
    obtain ⟨whole, frac, hpointed, hdigits⟩ := pointed_places
      (roundHalfEven (b.magnitude.num * Nat.pow 10 2) b.magnitude.den) 2 (by decide)
    have hsign : '.' ∉ (if b.negative then "-" else "").toList := by split <;> decide
    have htext : ((if b.negative then "-" else "") ++ pointed
        (roundHalfEven (b.magnitude.num * Nat.pow 10 2) b.magnitude.den) 2).toList =
        ((if b.negative then "-" else "").toList ++ whole) ++ '.' :: frac := by
      simp [hpointed]
    rw [htext]
    apply dropsFractionZeros_point
    · simp only [List.mem_append, not_or]
      exact ⟨hsign, fun h => hnotDot '.' (hdigits '.' (List.mem_append_left _ h)) rfl⟩
    · exact fun h => hnotDot '.' (hdigits '.' (List.mem_append_right _ h)) rfl

/-! ## Abbreviated counts -/

theorem exists_cut_suffix (v : Float) (suffix : String) :
    ∃ t : String, String.ofList (trimFraction (fixed v 2).toList) ++ suffix = t ++ suffix ∧
      DropsFractionZeros (fixed v 2).toList t.toList :=
  ⟨String.ofList (trimFraction (fixed v 2).toList), rfl, by
    rw [String.toList_ofList]
    exact fixed_two_dropsFractionZeros v⟩

/-- Abbreviation only drops zeros of a fraction. A count below a thousand is shown as it is. From
a thousand up it is shown as its quotient by the largest of a billion, a million and a thousand
that is not above it, printed with two decimals and cut, then `B`, `M` or `K`; the cut keeps every
digit before the point and the value of the printed quotient, and ends neither in a point nor,
past a point, in a zero. -/
theorem abbreviate_drops_fraction_zeros (n : Nat) :
    (n < 1000 → abbreviate n = toString n) ∧
    (1000000000 ≤ n → ∃ t : String, abbreviate n = t ++ "B" ∧
      DropsFractionZeros (fixed (Float.ofNat n / 1000000000.0) 2).toList t.toList) ∧
    (1000000 ≤ n → n < 1000000000 → ∃ t : String, abbreviate n = t ++ "M" ∧
      DropsFractionZeros (fixed (Float.ofNat n / 1000000.0) 2).toList t.toList) ∧
    (1000 ≤ n → n < 1000000 → ∃ t : String, abbreviate n = t ++ "K" ∧
      DropsFractionZeros (fixed (Float.ofNat n / 1000.0) 2).toList t.toList) := by
  refine ⟨fun h => ?_, fun h => ?_, fun h₁ h₂ => ?_, fun h₁ h₂ => ?_⟩
  · unfold abbreviate
    rw [if_neg (by omega), if_neg (by omega), if_neg (by omega)]
  · unfold abbreviate
    rw [if_pos h]
    exact exists_cut_suffix _ _
  · unfold abbreviate
    rw [if_neg (by omega), if_pos h₁]
    exact exists_cut_suffix _ _
  · unfold abbreviate
    rw [if_neg (by omega), if_neg (by omega), if_pos h₁]
    exact exists_cut_suffix _ _

/-- Fifteen hundred is shown in thousands, its cut dropping only zeros of the fraction. -/
theorem abbreviate_drops_fraction_zeros_thousands :
    1000 ≤ 1500 ∧ 1500 < 1000000 ∧ ∃ t : String, abbreviate 1500 = t ++ "K" ∧
      DropsFractionZeros (fixed (Float.ofNat 1500 / 1000.0) 2).toList t.toList :=
  ⟨by decide, by decide, (abbreviate_drops_fraction_zeros 1500).2.2.2 (by decide) (by decide)⟩

end Metrics

end AcpBridge
