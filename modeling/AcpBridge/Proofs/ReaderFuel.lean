import Mathlib
import AcpBridge.Proofs.ReaderProgress

/-!
# Enough steps for every reading

Each reading that calls itself is given a number of steps and stops with an end-of-input
error when they run out. The steps `fuelFor` grants a text, four for each character and eight
more, are never what stops a reading: with any more steps every reading of the text gives the
same result (`Json.read_enough_fuel`, `TraceItem.ofLine_enough_fuel`,
`Config.ofText_enough_fuel`). So an end-of-input error is always one the text itself causes.

The bound comes from what each reading takes before it calls itself again
(`Proofs/ReaderProgress`). A string takes a character for each step, so from a cursor with `n`
characters left it needs `n + 1`. A value opens its bracket before its elements, an element
after the first takes its comma and a member its key's opening quote, so a value needs
`2 n + 1`. Each `steady_*` lemma says that one step more than its bound changes nothing
(`Steady`); those of values, elements and members are proved together by induction on the
steps.
-/

namespace AcpBridge

/-! ## Strings -/

namespace Scan

theorem hex4_rest {cs rest : List Char} {k n : Nat} (h : hex4 cs = (k, .ok (n, rest))) :
    rest.length < cs.length := by
  unfold hex4 at h
  split at h
  · split at h
    · cases h
      simp only [List.length_cons]
      omega
    · cases h
  · split at h <;> cases h

theorem unicodeEscape_rest {read : Bool} {cs rest : List Char} {k : Nat} {ch : Char}
    (h : unicodeEscape read cs = (k, .ok (ch, rest))) : rest.length < cs.length := by
  unfold unicodeEscape at h
  rcases hhex : hex4 cs with ⟨j, ⟨f⟩ | ⟨n, rest₁⟩⟩ <;> rw [hhex] at h
  · cases h
  have h₁ := hex4_rest hhex
  dsimp only at h
  split at h
  · cases h
    exact h₁
  split at h
  · cases h
  split at h
  · cases h
    exact h₁
  -- a leading surrogate: the trailing one's escape follows
  split at h
  · cases h
  · split at h
    · cases h
    · split at h
      · cases h
      · rename_i heq
        have h₂ := hex4_rest heq
        split at h
        · cases h
        · simp only [Prod.mk.injEq, Except.ok.injEq] at h
          obtain ⟨-, -, rfl⟩ := h
          simp only [List.length_cons] at h₁
          omega
    · cases h
  · cases h

theorem escape_rest {read : Bool} {cs rest : List Char} {k : Nat} {ch : Char}
    (h : escape read cs = (k, .ok (ch, rest))) : rest.length < cs.length := by
  unfold escape at h
  rcases cs with _ | ⟨c, cs⟩
  · cases h
  dsimp only at h
  simp only [List.length_cons]
  -- the escapes of one character leave what follows them
  iterate 8
    rcases ite_eq_iff.mp h with ⟨-, h⟩ | ⟨-, h⟩
    · cases h
      omega
  rcases ite_eq_iff.mp h with ⟨-, h⟩ | ⟨-, h⟩
  · -- a unicode escape
    rcases hu : unicodeEscape read cs with ⟨j, r⟩
    rw [hu] at h
    cases h
    have := unicodeEscape_rest hu
    omega
  · cases h

theorem string_fuel_succ (read : Bool) {fuel : Nat} :
    ∀ {taken : Nat} {cs acc : List Char}, cs.length < fuel →
      string read (fuel + 1) taken cs acc = string read fuel taken cs acc := by
  induction fuel with
  | zero => intro _ _ _ h; omega
  | succ fuel ih =>
    intro taken cs acc h
    rcases cs with _ | ⟨c, rest⟩
    · rfl
    have hrest : rest.length < fuel := by simp only [List.length_cons] at h; omega
    rw [string, string]
    split
    · rfl
    split
    · rcases hescape : escape read rest with ⟨k, ⟨f⟩ | ⟨e, rest'⟩⟩
      · rfl
      · exact ih (lt_trans (escape_rest hescape) hrest)
    split
    · rfl
    · exact ih hrest

end Scan

namespace Reader

variable {α : Type}

/-! ## Steady readings -/

/-- A reading given steps is steady past `need`: from a cursor with `n` characters left, one
step more than `need n` gives the same result. -/
def Steady (r : Nat → ReadM α) (need : Nat → Nat) : Prop :=
  ∀ fuel c, need c.rest.length ≤ fuel → (r (fuel + 1)).run c = (r fuel).run c

theorem Steady.run_eq {r : Nat → ReadM α} {need : Nat → Nat} (h : Steady r need) {c : Cursor}
    {fuel fuel' : Nat} (hneed : need c.rest.length ≤ fuel) (hle : fuel ≤ fuel') :
    (r fuel').run c = (r fuel).run c := by
  induction fuel', hle using Nat.le_induction with
  | base => rfl
  | succ n hn ih => rw [h n c (hneed.trans hn), ih]

theorem Cursor.length_advance_lt {c : Cursor} {ch : Char} (h : c.rest.head? = some ch) :
    c.advance.rest.length < c.rest.length := by
  obtain ⟨t, ht⟩ := List.head?_eq_some_iff.mp h
  rw [Cursor.advance_rest ht, ht, List.length_cons]
  omega

theorem Cursor.length_skipBlank_advance_lt {c : Cursor} {ch : Char}
    (h : c.skipBlank.rest.head? = some ch) : c.skipBlank.advance.rest.length < c.rest.length :=
  lt_of_lt_of_le (length_advance_lt h) c.length_skipBlank_le

theorem run_enter_cursor {depth d : Nat} {c c' : Cursor} (h : (enter depth).run c = .ok (d, c')) :
    c' = c := by
  unfold enter at h
  split at h <;> cases h
  rfl

theorem steady_string : Steady string (· + 1) := fun _ _ hneed =>
  run_take_congr (Scan.string_fuel_succ true hneed)

theorem steady_skipString : Steady skipString (· + 1) := fun _ _ hneed =>
  run_bind_congr (run_take_congr (Scan.string_fuel_succ false hneed)) fun _ _ _ => rfl

theorem string_after_quote {fuel : Nat} {c : Cursor} {ch : Char} (hhead : c.rest.head? = some ch)
    (hneed : c.rest.length ≤ fuel) :
    (string (fuel + 1)).run c.advance = (string fuel).run c.advance :=
  steady_string fuel _ (by have := Cursor.length_advance_lt hhead; dsimp only; omega)

theorem steady_scalar (ch : Char) : Steady (scalar · ch) (· + 1) := by
  intro fuel c hneed
  dsimp only at hneed
  unfold scalar
  -- only a string, the sixth case, is read with steps
  iterate 5 refine run_ite_congr (fun _ => rfl) fun _ => ?_
  refine run_ite_congr (fun _ => ?_) fun _ => rfl
  rw [run_bind_of_ok (run_bump c), run_bind_of_ok (run_bump c)]
  exact run_map_congr
    (steady_string fuel c.advance (by rw [Cursor.length_advance]; dsimp only; omega))

theorem Cursor.length_pos_of_head {c : Cursor} {ch : Char} (h : c.rest.head? = some ch) :
    0 < c.rest.length := by
  obtain ⟨t, ht⟩ := List.head?_eq_some_iff.mp h
  simp [ht]

theorem steady_nextKey (first : Bool) : Steady (nextKey · first) id := by
  intro fuel c hneed
  simp only [id] at hneed
  unfold nextKey
  rw [run_bind_of_ok (run_blank c), run_bind_of_ok (run_blank c)]
  generalize hhead : c.skipBlank.rest.head? = o
  split
  · rfl
  · rfl
  · have hlt := Cursor.length_skipBlank_advance_lt hhead
    split_ifs
    · -- the first key, after its quote
      rw [run_bind_of_ok (run_bump _), run_bind_of_ok (run_bump _)]
      exact run_map_congr (steady_string fuel _ (by dsimp only; omega))
    · rfl
    · -- a further key, after its comma and its quote
      rw [run_bind_of_ok (run_bump _), run_bind_of_ok (run_bump _), run_bind_of_ok (run_blank _),
        run_bind_of_ok (run_blank _)]
      have hle := c.skipBlank.advance.length_skipBlank_le
      generalize c.skipBlank.advance.skipBlank.rest.head? = o'
      split
      · rw [run_bind_of_ok (run_bump _), run_bind_of_ok (run_bump _)]
        exact run_map_congr
          (steady_string fuel _ (by rw [Cursor.length_advance]; dsimp only; omega))
      all_goals rfl
    · rfl

/-! ## Values -/

theorem steady_value_items_members (fuel : Nat) :
    (∀ c depth, 2 * c.rest.length + 1 ≤ fuel →
      (value (fuel + 1) depth).run c = (value fuel depth).run c) ∧
    (∀ c depth first acc, 2 * c.rest.length + 1 + first.toNat ≤ fuel →
      (items (fuel + 1) depth first acc).run c = (items fuel depth first acc).run c) ∧
    (∀ c depth first acc, 2 * c.rest.length + 1 ≤ fuel →
      (members (fuel + 1) depth first acc).run c = (members fuel depth first acc).run c) := by
  induction fuel with
  | zero =>
    refine ⟨fun _ _ h => ?_, fun _ _ _ _ h => ?_, fun _ _ _ _ h => ?_⟩ <;> omega
  | succ fuel ih =>
    obtain ⟨hvalue, hitems, hmembers⟩ := ih
    refine ⟨fun c depth hneed => ?_, fun c depth first acc hneed => ?_,
      fun c depth first acc hneed => ?_⟩
    · conv_lhs => rw [value]
      conv_rhs => rw [value]
      rw [run_bind_of_ok (run_blank c), run_bind_of_ok (run_blank c)]
      generalize hhead : c.skipBlank.rest.head? = o
      rcases o with _ | ch
      · rfl
      have hlt := Cursor.length_skipBlank_advance_lt hhead
      have hpos := Cursor.length_pos_of_head hhead
      have hle := c.length_skipBlank_le
      dsimp only
      split_ifs
      · -- an array: its elements, past the bracket
        refine run_bind_congr rfl fun d c₁ henter => ?_
        rw [run_enter_cursor henter, run_bind_of_ok (run_bump _), run_bind_of_ok (run_bump _)]
        exact run_bind_congr (hitems _ _ true [] (by rw [Bool.toNat_true]; omega)) fun _ _ _ => rfl
      · -- an object: its members, past the brace
        refine run_bind_congr rfl fun d c₁ henter => ?_
        rw [run_enter_cursor henter, run_bind_of_ok (run_bump _), run_bind_of_ok (run_bump _)]
        exact run_bind_congr (hmembers _ _ true [] (by omega)) fun _ _ _ => rfl
      · exact steady_scalar ch fuel _ (by dsimp only; omega)
    · conv_lhs => rw [items]
      conv_rhs => rw [items]
      refine run_bind_congr rfl fun b c₂ hnext => ?_
      cases b
      · rfl
      -- either way the value has its steps, and the elements after it theirs
      have hsteps : 2 * c₂.rest.length + 1 ≤ fuel := by
        have := nextItem_length hnext
        have := Bool.toNat_le first
        omega
      refine run_bind_congr (hvalue c₂ depth hsteps) fun j c₃ hval => ?_
      have h₃ := keeps_value (fuel + 1) depth c₂ j c₃ hval
      exact hitems c₃ depth false _ (by rw [Bool.toNat_false]; omega)
    · conv_lhs => rw [members]
      conv_rhs => rw [members]
      refine run_bind_congr (steady_nextKey first fuel c (by simp only [id]; omega))
        fun o c₂ hkey => ?_
      rcases o with _ | k
      · rfl
      have h₂ := nextKey_takes hkey
      refine run_bind_congr rfl fun _ c₃ hcolon => ?_
      have h₃ := keeps_colon c₂ () c₃ hcolon
      refine run_bind_congr (hvalue c₃ depth (by omega)) fun v c₄ hval => ?_
      have h₄ := keeps_value (fuel + 1) depth c₃ v c₄ hval
      exact hmembers c₄ depth false _ (by omega)

theorem steady_value (depth : Nat) : Steady (value · depth) (2 * · + 1) :=
  fun fuel c => (steady_value_items_members fuel).1 c depth

theorem steady_items (depth : Nat) (acc : List Json) :
    Steady (items · depth false acc) (2 * · + 1) := fun fuel c hneed =>
  (steady_value_items_members fuel).2.1 c depth false acc (by rw [Bool.toNat_false]; exact hneed)

/-! ## Typed readings -/

theorem steady_invalidType (expected : String) :
    Steady (invalidType · expected : Nat → ReadM α) id := by
  intro fuel c hneed
  simp only [id] at hneed
  unfold invalidType
  rw [run_bind_of_ok (run_peek c), run_bind_of_ok (run_peek c)]
  generalize hhead : c.rest.head? = o
  dsimp only
  split
  swap
  · rfl
  -- only a string, the sixth case, is read with steps
  iterate 5 refine run_ite_congr (fun _ => rfl) fun _ => ?_
  refine run_ite_congr (fun _ => ?_) fun _ => rfl
  rw [run_bind_of_ok (run_bump c), run_bind_of_ok (run_bump c)]
  exact run_bind_congr (run_map_congr (string_after_quote hhead hneed)) fun _ _ _ => rfl

theorem steady_boolean : Steady boolean id := by
  intro fuel c hneed
  simp only [id] at hneed
  unfold boolean
  rw [run_bind_of_ok (run_blank c), run_bind_of_ok (run_blank c)]
  have hle := c.length_skipBlank_le
  rcases c.skipBlank.rest.head? with _ | ch
  · rfl
  dsimp only
  split_ifs
  · rfl
  · rfl
  · exact steady_invalidType _ fuel _ (by simp only [id]; omega)

theorem steady_text (expected : String) : Steady (text · expected) id := by
  intro fuel c hneed
  simp only [id] at hneed
  unfold text
  rw [run_bind_of_ok (run_blank c), run_bind_of_ok (run_blank c)]
  have hle := c.length_skipBlank_le
  generalize hhead : c.skipBlank.rest.head? = o
  rcases o with _ | ch
  · rfl
  dsimp only
  split_ifs
  · rw [run_bind_of_ok (run_bump _), run_bind_of_ok (run_bump _)]
    exact string_after_quote hhead (by omega)
  · exact steady_invalidType _ fuel _ (by simp only [id]; omega)

theorem steady_unsigned (limit : Nat) (expected : String) :
    Steady (unsigned · limit expected) id := by
  intro fuel c hneed
  simp only [id] at hneed
  unfold unsigned
  rw [run_bind_of_ok (run_blank c), run_bind_of_ok (run_blank c)]
  have hle := c.length_skipBlank_le
  rcases c.skipBlank.rest.head? with _ | ch
  · rfl
  dsimp only
  split_ifs
  · rfl
  · rfl
  · exact run_bind_congr (steady_invalidType _ fuel _ (by simp only [id]; omega)) fun _ _ _ => rfl

theorem Steady.optional {r : Nat → ReadM α} (h : Steady r id) :
    Steady (fun fuel => optional (r fuel)) id := by
  intro fuel c hneed
  simp only [id] at hneed
  unfold Reader.optional
  rw [run_bind_of_ok (run_blank c), run_bind_of_ok (run_blank c)]
  have hle := c.length_skipBlank_le
  split_ifs
  · rfl
  · exact run_map_congr (h fuel _ (by simp only [id]; omega))

theorem steady_identifier (variants : List String) : Steady (identifier · variants) id := by
  intro fuel c hneed
  simp only [id] at hneed
  unfold identifier
  rw [run_bind_of_ok (run_blank c), run_bind_of_ok (run_blank c)]
  have hle := c.length_skipBlank_le
  generalize hhead : c.skipBlank.rest.head? = o
  rcases o with _ | ch
  · rfl
  dsimp only
  split_ifs
  · rw [run_bind_of_ok (run_bump _), run_bind_of_ok (run_bump _)]
    exact run_bind_congr (string_after_quote hhead (by omega)) fun _ _ _ => rfl
  · exact steady_invalidType _ fuel _ (by simp only [id]; omega)

/-! ## Skipping -/

theorem steady_skipHead : Steady skipHead id := by
  intro fuel c hneed
  simp only [id] at hneed
  unfold skipHead
  rw [run_bind_of_ok (run_blank c), run_bind_of_ok (run_blank c)]
  have hle := c.length_skipBlank_le
  generalize hhead : c.skipBlank.rest.head? = o
  rcases o with _ | ch
  · rfl
  have hlt := Cursor.length_advance_lt hhead
  dsimp only
  -- only a string, the sixth case, is skipped with steps
  iterate 5 refine run_ite_congr (fun _ => rfl) fun _ => ?_
  refine run_ite_congr (fun _ => ?_) fun _ => rfl
  rw [run_bind_of_ok (run_bump _), run_bind_of_ok (run_bump _)]
  exact run_bind_congr (steady_skipString fuel _ (by dsimp only; omega)) fun _ _ _ => rfl

theorem steady_skipKey : Steady skipKey id := by
  intro fuel c hneed
  simp only [id] at hneed
  unfold skipKey
  rw [run_bind_of_ok (run_blank c), run_bind_of_ok (run_blank c)]
  have hle := c.length_skipBlank_le
  generalize hhead : c.skipBlank.rest.head? = o
  dsimp only
  split
  · have hlt := Cursor.length_advance_lt hhead
    rw [run_bind_of_ok (run_bump _), run_bind_of_ok (run_bump _)]
    exact run_bind_congr (steady_skipString fuel _ (by dsimp only; omega)) fun _ _ _ => rfl
  all_goals rfl

theorem steady_skipClose (around : List Char) (frame : Char) (afterValue : Bool) :
    Steady (skipClose · around frame afterValue) (· + 1) := by
  intro fuel
  induction fuel generalizing around frame afterValue with
  | zero => intro c h; dsimp only at h; omega
  | succ fuel ih =>
    intro c hneed
    dsimp only at hneed ⊢
    conv_lhs => rw [skipClose.eq_def]
    conv_rhs => rw [skipClose.eq_def]
    dsimp only
    rw [run_bind_of_ok (run_blank c), run_bind_of_ok (run_blank c)]
    generalize hhead : c.skipBlank.rest.head? = o
    rcases o with _ | ch
    · rfl
    have hlt := Cursor.length_skipBlank_advance_lt hhead
    dsimp only
    split_ifs
    · rfl
    · -- a closing bracket: the brackets around it close next
      rw [run_bind_of_ok (run_bump _), run_bind_of_ok (run_bump _)]
      rcases around with _ | ⟨f, rest⟩
      · rfl
      · exact ih rest f true _ (by dsimp only; omega)
    all_goals rfl

theorem steady_skipLoop (around : List Char) (enclosing : Option Char) :
    Steady (skipLoop · around enclosing) (· + 1) := by
  intro fuel
  induction fuel generalizing around enclosing with
  | zero => intro c h; dsimp only at h; omega
  | succ fuel ih =>
    intro c hneed
    dsimp only at hneed ⊢
    conv_lhs => rw [skipLoop.eq_def]
    conv_rhs => rw [skipLoop.eq_def]
    dsimp only
    refine run_bind_congr (steady_skipHead fuel c (by simp only [id]; omega))
      fun opened c₁ hhead => ?_
    have h₁ := skipHead_takes hhead
    split
    · rfl
    refine run_bind_congr (steady_skipClose _ _ _ fuel c₁ (by dsimp only; omega))
      fun o c₂ hclose => ?_
    have h₂ := keeps_skipClose (fuel + 1) _ _ _ c₁ o c₂ hclose
    split
    · rfl
    split
    · refine run_bind_congr (steady_skipKey fuel c₂ (by simp only [id]; omega))
        fun _ c₃ hkey => ?_
      have h₃ := keeps_skipKey (fuel + 1) c₂ () c₃ hkey
      exact ih _ _ c₃ (by dsimp only; omega)
    · exact ih _ _ c₂ (by dsimp only; omega)

theorem steady_skipValue : Steady skipValue (· + 1) := steady_skipLoop [] none

/-! ## Tagged unions -/

theorem steady_taggedMembers (tag : String) (variants : List String) (depth : Nat)
    (found : Option Nat) (acc : List (String × Json)) (first : Bool) :
    Steady (taggedMembers tag variants · depth found acc first) (2 * · + 1) := by
  intro fuel
  induction fuel generalizing found acc first with
  | zero => intro c h; dsimp only at h; omega
  | succ fuel ih =>
    intro c hneed
    dsimp only at hneed ⊢
    conv_lhs => rw [taggedMembers.eq_def]
    conv_rhs => rw [taggedMembers.eq_def]
    dsimp only
    refine run_bind_congr (steady_nextKey first fuel c (by simp only [id]; omega))
      fun o c₂ hkey => ?_
    rcases o with _ | k
    · rfl
    have h₂ := nextKey_takes hkey
    dsimp only
    split_ifs
    · -- the tag, unless it was met already
      rcases found with _ | i
      · refine run_bind_congr rfl fun _ c₃ hcolon => ?_
        have h₃ := keeps_colon c₂ () c₃ hcolon
        refine run_bind_congr (steady_identifier variants fuel c₃ (by simp only [id]; omega))
          fun i c₄ hid => ?_
        have h₄ := keeps_identifier (fuel + 1) variants c₃ i c₄ hid
        exact ih _ _ _ c₄ (by dsimp only; omega)
      · rfl
    · -- another member, set aside
      refine run_bind_congr rfl fun _ c₃ hcolon => ?_
      have h₃ := keeps_colon c₂ () c₃ hcolon
      refine run_bind_congr (steady_value depth fuel c₃ (by dsimp only; omega)) fun v c₄ hval => ?_
      have h₄ := keeps_value (fuel + 1) depth c₃ v c₄ hval
      exact ih _ _ _ c₄ (by dsimp only; omega)

theorem steady_tagged (tag typeName : String) (variants : List String) :
    Steady (tagged · tag typeName variants) (2 * · + 1) := by
  intro fuel c hneed
  dsimp only at hneed
  unfold tagged
  rw [run_bind_of_ok (run_blank c), run_bind_of_ok (run_blank c)]
  have hle := c.length_skipBlank_le
  generalize hhead : c.skipBlank.rest.head? = o
  split
  · rfl
  · -- an object, past its brace
    have hlt := Cursor.length_skipBlank_advance_lt hhead
    refine run_bind_congr rfl fun d c₁ henter => ?_
    rw [run_enter_cursor henter, run_bind_of_ok (run_bump _), run_bind_of_ok (run_bump _)]
    exact run_bind_congr (steady_taggedMembers tag variants d none [] true fuel _
      (by dsimp only; omega)) fun _ _ _ => rfl
  · -- an array, past its bracket: the tag, then the other elements
    have hlt := Cursor.length_skipBlank_advance_lt hhead
    refine run_bind_congr rfl fun d c₁ henter => ?_
    rw [run_enter_cursor henter, run_bind_of_ok (run_bump _), run_bind_of_ok (run_bump _)]
    refine run_bind_congr rfl fun b c₂ hnext => ?_
    have h₂ := keeps_nextItem true _ b c₂ hnext
    cases b
    · rfl
    refine run_bind_congr (steady_identifier variants fuel c₂ (by simp only [id]; omega))
      fun i c₃ hid => ?_
    have h₃ := keeps_identifier (fuel + 1) variants c₂ i c₃ hid
    exact run_bind_congr (steady_items d [] fuel c₃ (by dsimp only; omega)) fun _ _ _ => rfl
  · exact steady_invalidType _ fuel _ (by simp only [id]; omega)

end Reader

theorem TraceItem.steady_read : Reader.Steady TraceItem.read (2 * · + 1) := fun fuel c hneed =>
  Reader.run_bind_congr (Reader.steady_tagged _ _ _ fuel c hneed) fun _ _ _ => rfl

/-! ## Configurations -/

namespace Config

open Reader

theorem steady_setting_read {s : Setting} (hs : s ∈ settings) : Steady s.read id := by
  simp only [settings, List.mem_cons, List.not_mem_nil, or_false] at hs
  intro fuel c hneed
  rcases hs with rfl | rfl | rfl | rfl | rfl | rfl
  · exact run_bind_congr (steady_boolean fuel c hneed) fun _ _ _ => rfl
  · exact run_bind_congr (steady_text _ fuel c hneed) fun _ _ _ => rfl
  · exact run_bind_congr (steady_unsigned _ _ fuel c hneed) fun _ _ _ => rfl
  · exact run_bind_congr (steady_boolean fuel c hneed) fun _ _ _ => rfl
  · exact run_bind_congr (steady_boolean fuel c hneed) fun _ _ _ => rfl
  · exact run_bind_congr ((steady_text _).optional fuel c hneed) fun _ _ _ => rfl

theorem steady_readMembers (seen : List String) (cfg : Config) (first : Bool) :
    Steady (readMembers · seen cfg first) (· + 1) := by
  intro fuel
  induction fuel generalizing seen cfg first with
  | zero => intro c h; dsimp only at h; omega
  | succ fuel ih =>
    intro c hneed
    dsimp only at hneed ⊢
    conv_lhs => rw [readMembers.eq_def]
    conv_rhs => rw [readMembers.eq_def]
    dsimp only
    refine run_bind_congr (steady_nextKey first fuel c (by simp only [id]; omega))
      fun o c₂ hkey => ?_
    rcases o with _ | k
    · rfl
    have h₂ := nextKey_takes hkey
    dsimp only
    split
    · -- a field: set once
      rename_i s hfind
      have hs := List.mem_of_find?_eq_some hfind
      split_ifs
      · rfl
      refine run_bind_congr rfl fun _ c₃ hcolon => ?_
      have h₃ := keeps_colon c₂ () c₃ hcolon
      refine run_bind_congr (steady_setting_read hs fuel c₃ (by simp only [id]; omega))
        fun set c₄ hset => ?_
      have h₄ := keeps_setting_read hs (fuel + 1) c₃ set c₄ hset
      exact ih _ _ _ c₄ (by dsimp only; omega)
    · -- an unknown member: skipped
      refine run_bind_congr rfl fun _ c₃ hcolon => ?_
      have h₃ := keeps_colon c₂ () c₃ hcolon
      refine run_bind_congr (steady_skipValue fuel c₃ (by dsimp only; omega)) fun _ c₄ hskip => ?_
      have h₄ := keeps_skipValue (fuel + 1) c₃ () c₄ hskip
      exact ih _ _ _ c₄ (by dsimp only; omega)

theorem steady_readItems (ss : List Setting) (hss : ∀ s ∈ ss, s ∈ settings) (cfg : Config)
    (first : Bool) :
    Steady (readItems · ss cfg first) (· + 1 + first.toNat) := by
  intro fuel
  induction fuel generalizing ss cfg first with
  | zero =>
    intro c h
    rcases ss with _ | ⟨s, rest⟩
    · rfl
    · dsimp only at h
      omega
  | succ fuel ih =>
    intro c hneed
    dsimp only at hneed ⊢
    rcases ss with _ | ⟨s, rest⟩
    · rfl
    conv_lhs => rw [readItems.eq_def]
    conv_rhs => rw [readItems.eq_def]
    dsimp only
    refine run_bind_congr rfl fun b c₂ hnext => ?_
    cases b
    · rfl
    have hsteps : c₂.rest.length + 1 ≤ fuel := by
      have := nextItem_length hnext
      omega
    have hs := hss s List.mem_cons_self
    refine run_bind_congr (steady_setting_read hs fuel c₂ (by simp only [id]; omega))
      fun set c₃ hset => ?_
    have h₃ := keeps_setting_read hs (fuel + 1) c₂ set c₃ hset
    exact ih rest (fun s' hs' => hss s' (List.mem_cons_of_mem s hs')) _ false c₃
      (by dsimp only; rw [Bool.toNat_false]; omega)

theorem steady_readDocument : Steady readDocument (· + 1) := by
  intro fuel c hneed
  dsimp only at hneed
  unfold readDocument
  rw [run_bind_of_ok (run_blank c), run_bind_of_ok (run_blank c)]
  have hle := c.length_skipBlank_le
  generalize hhead : c.skipBlank.rest.head? = o
  split
  · rfl
  · -- an object of fields, past its brace
    have hlt := Cursor.length_skipBlank_advance_lt hhead
    rw [run_bind_of_ok (run_bump _), run_bind_of_ok (run_bump _)]
    exact run_bind_congr (steady_readMembers [] defaults true fuel _ (by dsimp only; omega))
      fun _ _ _ => rfl
  · -- an array of fields, past its bracket
    have hlt := Cursor.length_skipBlank_advance_lt hhead
    rw [run_bind_of_ok (run_bump _), run_bind_of_ok (run_bump _)]
    exact run_bind_congr (steady_readItems settings (fun _ h => h) defaults true fuel _
      (by dsimp only; rw [Bool.toNat_true]; omega)) fun _ _ _ => rfl
  · exact steady_invalidType _ fuel _ (by simp only [id]; omega)

end Config

/-! ## Whole texts -/

namespace Reader

theorem run_enough_fuel {α : Type} {r : Nat → ReadM α} {need : Nat → Nat} (hr : Steady r need)
    (hneed : ∀ n, need n ≤ 4 * n + 8) (s : String) {fuel : Nat} (hfuel : fuelFor s ≤ fuel) :
    (do let a ← r fuel; finish; pure a).run' (Cursor.start s) = run s r := by
  have hstart : need (Cursor.start s).rest.length ≤ fuelFor s := by
    simpa [Cursor.start, fuelFor, String.length_toList] using hneed s.length
  unfold run
  simp only [StateT.run'_eq]
  rw [run_bind_congr (hr.run_eq hstart hfuel) fun _ _ _ => rfl]

end Reader

/-- Reading a JSON document never runs out of steps: with `fuelFor s` steps or any more, the
reading of `s` is the same. -/
theorem Json.read_enough_fuel (s : String) {fuel : Nat} (hfuel : Reader.fuelFor s ≤ fuel) :
    (do let a ← Reader.value fuel 128; Reader.finish; pure a).run' (Reader.Cursor.start s) =
      Json.read s :=
  Reader.run_enough_fuel (Reader.steady_value 128) (fun n => by omega) s hfuel

/-- Reading a trace line never runs out of steps: with `fuelFor s` steps or any more, the item
read from `s`, or the failure, is the same. -/
theorem TraceItem.ofLine_enough_fuel (s : String) {fuel : Nat}
    (hfuel : Reader.fuelFor s ≤ fuel) :
    (do let a ← TraceItem.read fuel; Reader.finish; pure a).run' (Reader.Cursor.start s) =
      TraceItem.ofLine s :=
  Reader.run_enough_fuel TraceItem.steady_read (fun n => by omega) s hfuel

/-- Reading a configuration file never runs out of steps: with `fuelFor s` steps or any more,
the configuration read from `s`, or the failure, is the same. -/
theorem Config.ofText_enough_fuel (s : String) {fuel : Nat} (hfuel : Reader.fuelFor s ≤ fuel) :
    ((do let a ← readDocument fuel; Reader.finish; pure a).run' (Reader.Cursor.start s)).mapError
        (fun (e : ReadError) => ConfigError.invalid e.message) = Config.ofText s := by
  rw [Config.ofText, Reader.run_enough_fuel steady_readDocument (fun n => by omega) s hfuel]

end AcpBridge

