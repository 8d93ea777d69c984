import Mathlib
import AcpBridge.Config.Read
import AcpBridge.Trace

/-!
# Reading only moves forward

A reading changes its cursor only by moving past characters: past one (`Cursor.advance`), past
blanks (`Cursor.skipBlank`), or past what a scanner took (`Cursor.advanceBy`). So a reading that
succeeds leaves at most as many characters as it found (`Keeps`), and this holds of every
reading of the reader, the recursive ones by induction on their steps.

Three readings also take a character whenever they succeed in a certain way, which is what
bounds the steps a reading needs (`Proofs/ReaderFuel`): a key of an object takes at least its
opening quote (`nextKey_takes`), a further element of an array its comma (`nextItem_takes`),
and the head of a skipped value its first character (`skipHead_takes`).
-/

namespace AcpBridge
namespace Reader

variable {α β : Type}

/-! ## Running a reading -/

theorem run_bind (x : ReadM α) (g : α → ReadM β) (c : Cursor) :
    (x >>= g).run c = match x.run c with
      | .ok (a, c') => (g a).run c'
      | .error e => .error e := by
  rw [StateT.run_bind]
  cases x.run c <;> rfl

theorem run_bind_of_ok {x : ReadM α} {g : α → ReadM β} {c c' : Cursor} {a : α}
    (h : x.run c = .ok (a, c')) : (x >>= g).run c = (g a).run c' := by
  rw [run_bind, h]

theorem run_bind_congr {x₁ x₂ : ReadM α} {g₁ g₂ : α → ReadM β} {c : Cursor}
    (hx : x₁.run c = x₂.run c)
    (hg : ∀ a c', x₁.run c = .ok (a, c') → (g₁ a).run c' = (g₂ a).run c') :
    (x₁ >>= g₁).run c = (x₂ >>= g₂).run c := by
  rw [run_bind, run_bind, ← hx]
  rcases h : x₁.run c with e | ⟨a, c'⟩
  · rfl
  · exact hg a c' h

theorem run_map_congr {x₁ x₂ : ReadM α} {f : α → β} {c : Cursor} (h : x₁.run c = x₂.run c) :
    (f <$> x₁).run c = (f <$> x₂).run c := by
  rw [StateT.run_map, StateT.run_map, h]

theorem run_ite_congr {p : Prop} [Decidable p] {x₁ x₂ y₁ y₂ : ReadM α} {c : Cursor}
    (hx : p → x₁.run c = x₂.run c) (hy : ¬p → y₁.run c = y₂.run c) :
    (if p then x₁ else y₁).run c = (if p then x₂ else y₂).run c := by
  by_cases h : p
  · rw [if_pos h, if_pos h]
    exact hx h
  · rw [if_neg h, if_neg h]
    exact hy h

@[simp] theorem run_peek (c : Cursor) : peek.run c = .ok (c.rest.head?, c) := rfl

@[simp] theorem run_bump (c : Cursor) : bump.run c = .ok ((), c.advance) := rfl

@[simp] theorem run_blank (c : Cursor) :
    blank.run c = .ok (c.skipBlank.rest.head?, c.skipBlank) := rfl

theorem run_take_congr {scan₁ scan₂ : List Char → Scan.Result α} {c : Cursor}
    (h : scan₁ c.rest = scan₂ c.rest) : (take scan₁).run c = (take scan₂).run c := by
  unfold take
  simp only [StateT.run_bind, StateT.run_get, StateT.run_set, pure_bind, h]

theorem run_take_of_ok {scan : List Char → Scan.Result α} {c c' : Cursor} {a : α}
    (h : (take scan).run c = .ok (a, c')) : c' = c.advanceBy (scan c.rest).1 := by
  unfold take at h
  simp only [StateT.run_bind, StateT.run_get, StateT.run_set, pure_bind] at h
  rcases hs : scan c.rest with ⟨n, ⟨e, extra⟩ | b⟩ <;> rw [hs] at h
  · cases h
  · cases h
    rfl

/-! ## The cursor moves forward -/

namespace Cursor

theorem advance_rest {c : Cursor} {ch : Char} {t : List Char} (h : c.rest = ch :: t) :
    c.advance.rest = t := by
  unfold advance
  rw [h]
  dsimp only
  split <;> rfl

theorem length_advance (c : Cursor) : c.advance.rest.length = c.rest.length - 1 := by
  rcases h : c.rest with _ | ⟨ch, t⟩
  · simp [advance, h]
  · simp [advance_rest h]

theorem length_advanceBy (n : Nat) (c : Cursor) :
    (c.advanceBy n).rest.length = c.rest.length - n := by
  induction n generalizing c with
  | zero => rfl
  | succ n ih =>
    rw [advanceBy, ih, length_advance]
    omega

theorem length_skipBlank_le (c : Cursor) : c.skipBlank.rest.length ≤ c.rest.length := by
  unfold skipBlank
  -- the scan past blanks only ever drops the first character
  suffices h : ∀ cs line col, (skipBlank.go cs line col).rest.length ≤ cs.length from h _ _ _
  intro cs
  induction cs with
  | nil => intro line col; rfl
  | cons ch rest ih =>
    intro line col
    unfold skipBlank.go
    split
    · exact (ih _ _).trans (Nat.le_succ _)
    · split
      · exact (ih _ _).trans (Nat.le_succ _)
      · exact le_refl _

end Cursor

/-! ## Readings that keep -/

/-- A reading that, when it succeeds, leaves at most as many characters as it found. -/
def Keeps (r : ReadM α) : Prop :=
  ∀ c a c', r.run c = .ok (a, c') → c'.rest.length ≤ c.rest.length

theorem Keeps.bind {x : ReadM α} {g : α → ReadM β} (hx : Keeps x) (hg : ∀ a, Keeps (g a)) :
    Keeps (x >>= g) := by
  intro c b c'' h
  rw [run_bind] at h
  rcases hrun : x.run c with e | ⟨a, c'⟩ <;> rw [hrun] at h
  · cases h
  · exact (hg a c' b c'' h).trans (hx c a c' hrun)

theorem Keeps.map {x : ReadM α} (hx : Keeps x) (f : α → β) : Keeps (f <$> x) := by
  intro c b c' h
  rw [StateT.run_map] at h
  rcases hrun : x.run c with e | ⟨a, c₁⟩ <;> rw [hrun] at h
  · cases h
  · cases h
    exact hx c a c₁ hrun

theorem Keeps.ite {p : Prop} [Decidable p] {x y : ReadM α} (hx : Keeps x) (hy : Keeps y) :
    Keeps (if p then x else y) := by
  by_cases h : p
  · rwa [if_pos h]
  · rwa [if_neg h]

theorem keeps_pure (a : α) : Keeps (pure a : ReadM α) := by
  intro c b c' h
  cases h
  exact le_refl _

theorem Keeps.of_error {r : ReadM α} (h : ∀ c, ∃ e, r.run c = .error e) : Keeps r := by
  intro c a c' hrun
  obtain ⟨e, he⟩ := h c
  rw [he] at hrun
  cases hrun

theorem keeps_failHere (e : SyntaxError) : Keeps (failHere e : ReadM α) :=
  .of_error fun _ => ⟨_, rfl⟩

theorem keeps_failNext (e : SyntaxError) : Keeps (failNext e : ReadM α) :=
  .of_error fun _ => ⟨_, rfl⟩

theorem keeps_reject (e : DecodeError) : Keeps (reject e : ReadM α) :=
  .of_error fun _ => ⟨_, rfl⟩

theorem keeps_peek : Keeps peek := by
  intro c a c' h
  cases h
  exact le_refl _

theorem keeps_bump : Keeps bump := by
  intro c a c' h
  cases h
  rw [Cursor.length_advance]
  omega

theorem keeps_blank : Keeps blank := by
  intro c a c' h
  cases h
  exact c.length_skipBlank_le

theorem keeps_take (scan : List Char → Scan.Result α) : Keeps (take scan) := by
  intro c a c' h
  rw [run_take_of_ok h, Cursor.length_advanceBy]
  omega

theorem keeps_word (cs : List Char) : Keeps (word cs) := by
  induction cs with
  | nil => exact keeps_pure ()
  | cons e rest ih =>
    unfold word
    refine keeps_peek.bind fun o => ?_
    split
    · exact keeps_failHere _
    · split
      · exact keeps_bump.bind fun _ => ih
      · exact keeps_failNext _

theorem keeps_number (positive : Bool) : Keeps (number positive) := keeps_take _

theorem keeps_string (fuel : Nat) : Keeps (string fuel) := keeps_take _

theorem keeps_skipString (fuel : Nat) : Keeps (skipString fuel) :=
  (keeps_take _).bind fun _ => keeps_pure ()

theorem keeps_enter (depth : Nat) : Keeps (enter depth) := by
  unfold enter
  split
  · exact keeps_failNext _
  · exact keeps_pure _

theorem keeps_rejectInObject (e : DecodeError) : Keeps (rejectInObject e : ReadM α) := by
  unfold rejectInObject
  refine keeps_blank.bind fun o => ?_
  dsimp only
  split
  · exact keeps_bump.bind fun _ => keeps_reject e
  · exact keeps_reject e

theorem keeps_rejectInArray (e : DecodeError) : Keeps (rejectInArray e : ReadM α) := by
  unfold rejectInArray
  refine keeps_blank.bind fun o => ?_
  dsimp only
  split
  · exact keeps_bump.bind fun _ => keeps_reject e
  · refine keeps_bump.bind fun _ => Keeps.bind ?_ fun _ => keeps_reject e
    intro c a c' h
    cases h
    exact c.length_skipBlank_le
  · exact keeps_reject e

/-! ## Punctuation -/

theorem keeps_nextKey (fuel : Nat) (first : Bool) : Keeps (nextKey fuel first) := by
  unfold nextKey
  refine keeps_blank.bind fun o => ?_
  split
  · exact keeps_failNext _
  · exact keeps_pure none
  · split
    · split
      · exact keeps_bump.bind fun _ => (keeps_string fuel).map _
      · exact keeps_failNext _
    · split
      · refine keeps_bump.bind fun _ => keeps_blank.bind fun o => ?_
        split
        · exact keeps_bump.bind fun _ => (keeps_string fuel).map _
        all_goals exact keeps_failNext _
      · exact keeps_failNext _

theorem keeps_colon : Keeps colon := by
  unfold colon
  refine keeps_blank.bind fun o => ?_
  split
  · exact keeps_bump
  all_goals exact keeps_failNext _

theorem keeps_afterComma : Keeps (do
    match ← blank with
    | some ']' => failNext .trailingComma
    | some _ => pure true
    | none => failNext .eofWhileParsingValue : ReadM Bool) := by
  refine keeps_blank.bind fun o => ?_
  split
  · exact keeps_failNext _
  · exact keeps_pure true
  · exact keeps_failNext _

theorem keeps_nextItem (first : Bool) : Keeps (nextItem first) := by
  unfold nextItem
  refine keeps_blank.bind fun o => ?_
  split
  · exact keeps_failNext _
  · exact keeps_pure false
  · split
    · exact keeps_pure true
    · split
      · exact keeps_bump.bind fun _ => keeps_afterComma
      · exact keeps_failNext _

theorem takes_bump_of_head {r : ReadM α} {c c' : Cursor} {ch : Char} {a : α}
    (hhead : c.rest.head? = some ch) (hr : Keeps r) (h : (bump >>= fun _ => r).run c = .ok (a, c')) :
    c'.rest.length < c.rest.length := by
  obtain ⟨t, ht⟩ := List.head?_eq_some_iff.mp hhead
  rw [run_bind_of_ok (run_bump c)] at h
  have hkeep := hr _ _ _ h
  rw [Cursor.advance_rest ht] at hkeep
  rw [ht, List.length_cons]
  omega

theorem nextKey_takes {fuel : Nat} {first : Bool} {c c' : Cursor} {k : String}
    (h : (nextKey fuel first).run c = .ok (some k, c')) : c'.rest.length < c.rest.length := by
  unfold nextKey at h
  rw [run_bind_of_ok (run_blank c)] at h
  have hblank := c.length_skipBlank_le
  -- every branch that gives a key first passes the character just looked at
  split at h
  · cases h
  · cases h
  · rename_i ch _ hhead
    split at h
    · split at h
      · have := takes_bump_of_head hhead ((keeps_string fuel).map _) h
        omega
      · cases h
    · split at h
      · refine lt_of_lt_of_le (takes_bump_of_head hhead ?_ h) hblank
        refine keeps_blank.bind fun o => ?_
        split
        · exact keeps_bump.bind fun _ => (keeps_string fuel).map _
        all_goals exact keeps_failNext _
      · cases h

theorem keeps_endObject : Keeps endObject := by
  unfold endObject
  refine keeps_blank.bind fun o => ?_
  split
  · exact keeps_bump
  all_goals exact keeps_failNext _

theorem keeps_endArray : Keeps endArray := by
  unfold endArray
  refine keeps_blank.bind fun o => ?_
  split
  · exact keeps_bump
  · exact keeps_bump.bind fun _ => keeps_blank.bind fun o => by split <;> exact keeps_failNext _
  all_goals exact keeps_failNext _

theorem nextItem_takes {c c' : Cursor} (h : (nextItem false).run c = .ok (true, c')) :
    c'.rest.length < c.rest.length := by
  unfold nextItem at h
  rw [run_bind_of_ok (run_blank c)] at h
  split at h
  · cases h
  · cases h
  · rename_i ch _ hhead
    simp only [Bool.false_eq_true, if_false] at h
    split at h
    · exact lt_of_lt_of_le (takes_bump_of_head hhead keeps_afterComma h) c.length_skipBlank_le
    · cases h

/-- The first element of an array follows at once, a further one after its comma. -/
theorem nextItem_length {first : Bool} {c c' : Cursor} (h : (nextItem first).run c = .ok (true, c')) :
    c'.rest.length + 1 ≤ c.rest.length + first.toNat := by
  cases first
  · exact nextItem_takes h
  · have := keeps_nextItem true c true c' h
    rw [Bool.toNat_true]
    omega

/-! ## Values -/

theorem keeps_literal (cs : List Char) (a : α) :
    Keeps (bump >>= fun _ => word cs >>= fun _ => pure a : ReadM α) :=
  keeps_bump.bind fun _ => (keeps_word cs).bind fun _ => keeps_pure a

theorem keeps_scalar (fuel : Nat) (ch : Char) : Keeps (scalar fuel ch) := by
  unfold scalar
  refine .ite ?_ ?_
  · exact keeps_literal _ _
  refine .ite ?_ ?_
  · exact keeps_literal _ _
  refine .ite ?_ ?_
  · exact keeps_literal _ _
  refine .ite ?_ ?_
  · exact keeps_bump.bind fun _ => (keeps_number false).map _
  refine .ite ?_ ?_
  · exact (keeps_number true).map _
  refine .ite ?_ ?_
  · exact keeps_bump.bind fun _ => (keeps_string fuel).map _
  · exact keeps_failNext _

theorem keeps_value_items_members (fuel : Nat) :
    (∀ depth, Keeps (value fuel depth)) ∧
    (∀ depth first acc, Keeps (items fuel depth first acc)) ∧
    (∀ depth first acc, Keeps (members fuel depth first acc)) := by
  induction fuel with
  | zero =>
    exact ⟨fun _ => keeps_failHere _, fun _ _ _ => keeps_failHere _, fun _ _ _ => keeps_failHere _⟩
  | succ fuel ih =>
    obtain ⟨hvalue, hitems, hmembers⟩ := ih
    refine ⟨fun depth => ?_, fun depth first acc => ?_, fun depth first acc => ?_⟩
    · rw [value]
      refine keeps_blank.bind fun o => ?_
      split
      · exact keeps_failNext _
      · split
        · exact (keeps_enter depth).bind fun d => keeps_bump.bind fun _ =>
            (hitems d true []).bind fun _ => keeps_endArray.bind fun _ => keeps_pure _
        split
        · exact (keeps_enter depth).bind fun d => keeps_bump.bind fun _ =>
            (hmembers d true []).bind fun _ => keeps_endObject.bind fun _ => keeps_pure _
        · exact keeps_scalar fuel _
    · rw [items]
      refine (keeps_nextItem first).bind fun b => ?_
      split
      · exact (hvalue depth).bind fun j => hitems depth false (j :: acc)
      · exact keeps_pure _
    · rw [members]
      refine (keeps_nextKey fuel first).bind fun o => ?_
      split
      · exact keeps_pure _
      · exact keeps_colon.bind fun _ => (hvalue depth).bind fun v => hmembers depth false _

theorem keeps_value (fuel depth : Nat) : Keeps (value fuel depth) :=
  (keeps_value_items_members fuel).1 depth

theorem keeps_items (fuel depth : Nat) (first : Bool) (acc : List Json) :
    Keeps (items fuel depth first acc) :=
  (keeps_value_items_members fuel).2.1 depth first acc

/-! ## Typed readings -/

theorem keeps_invalidType (fuel : Nat) (expected : String) :
    Keeps (invalidType fuel expected : ReadM α) := by
  unfold invalidType
  refine keeps_peek.bind fun o => ?_
  dsimp only
  -- every branch names what it read in the same decode error
  have hreject : ∀ found, Keeps (reject (.invalidType found expected) : ReadM α) :=
    fun _ => keeps_reject _
  split
  · refine .ite ?_ ?_
    · exact keeps_bump.bind fun _ => (keeps_word _).bind fun _ => (keeps_pure _).bind hreject
    refine .ite ?_ ?_
    · exact keeps_bump.bind fun _ => (keeps_word _).bind fun _ => (keeps_pure _).bind hreject
    refine .ite ?_ ?_
    · exact keeps_bump.bind fun _ => (keeps_word _).bind fun _ => (keeps_pure _).bind hreject
    refine .ite ?_ ?_
    · exact keeps_bump.bind fun _ => ((keeps_number false).map _).bind hreject
    refine .ite ?_ ?_
    · exact ((keeps_number true).map _).bind hreject
    refine .ite ?_ ?_
    · exact keeps_bump.bind fun _ => ((keeps_string fuel).map _).bind hreject
    refine .ite ?_ ?_
    · exact (keeps_pure _).bind hreject
    refine .ite ?_ ?_
    · exact (keeps_pure _).bind hreject
    · exact (keeps_failNext _).bind hreject
  · exact (keeps_failNext _).bind hreject

theorem keeps_boolean (fuel : Nat) : Keeps (boolean fuel) := by
  unfold boolean
  refine keeps_blank.bind fun o => ?_
  split
  · exact keeps_failNext _
  split
  · exact keeps_literal _ _
  split
  · exact keeps_literal _ _
  · exact keeps_invalidType fuel _

theorem keeps_text (fuel : Nat) (expected : String) : Keeps (text fuel expected) := by
  unfold text
  refine keeps_blank.bind fun o => ?_
  split
  · exact keeps_failNext _
  split
  · exact keeps_bump.bind fun _ => keeps_string fuel
  · exact keeps_invalidType fuel _

theorem keeps_unsigned (fuel limit : Nat) (expected : String) :
    Keeps (unsigned fuel limit expected) := by
  unfold unsigned
  refine keeps_blank.bind fun o => ?_
  dsimp only
  split
  · exact .of_error fun _ => ⟨_, rfl⟩
  split_ifs
  -- each branch reads a number, then checks it the same way
  on_goal 1 => refine keeps_bump.bind fun _ => (keeps_number false).bind fun n => ?_
  on_goal 2 => refine (keeps_number true).bind fun n => ?_
  on_goal 3 => refine (keeps_invalidType fuel expected).bind fun n => ?_
  all_goals
    rcases n with k | k | x
    · dsimp only
      split
      · exact keeps_pure k
      · exact keeps_reject _
    all_goals exact keeps_reject _

theorem keeps_optional {inner : ReadM α} (h : Keeps inner) : Keeps (optional inner) := by
  unfold optional
  refine keeps_blank.bind fun o => ?_
  split
  · exact keeps_literal _ _
  · exact h.map _

theorem keeps_identifier (fuel : Nat) (variants : List String) :
    Keeps (identifier fuel variants) := by
  unfold identifier
  refine keeps_blank.bind fun o => ?_
  split
  · exact keeps_failNext _
  split
  · refine keeps_bump.bind fun _ => (keeps_string fuel).bind fun s => ?_
    split
    · exact keeps_pure _
    · exact keeps_reject _
  · exact keeps_invalidType fuel _

/-! ## Skipping -/

theorem keeps_skipClose (fuel : Nat) (around : List Char) (frame : Char) (afterValue : Bool) :
    Keeps (skipClose fuel around frame afterValue) := by
  induction fuel generalizing around frame afterValue with
  | zero => exact keeps_failHere _
  | succ fuel ih =>
    rw [skipClose.eq_def]
    dsimp only
    refine keeps_blank.bind fun o => ?_
    split
    · exact keeps_failNext _
    split
    · exact keeps_bump.bind fun _ => keeps_pure _
    split
    · refine keeps_bump.bind fun _ => ?_
      split
      · exact keeps_pure _
      · exact ih _ _ _
    split
    · exact keeps_failNext _
    · exact keeps_pure _

theorem keeps_skipHead (fuel : Nat) : Keeps (skipHead fuel) := by
  unfold skipHead
  refine keeps_blank.bind fun o => ?_
  split
  · exact keeps_failNext _
  refine .ite ?_ ?_
  · exact keeps_literal _ _
  refine .ite ?_ ?_
  · exact keeps_literal _ _
  refine .ite ?_ ?_
  · exact keeps_literal _ _
  refine .ite ?_ ?_
  · exact keeps_bump.bind fun _ => (keeps_take _).bind fun _ => keeps_pure _
  refine .ite ?_ ?_
  · exact (keeps_take _).bind fun _ => keeps_pure _
  refine .ite ?_ ?_
  · exact keeps_bump.bind fun _ => (keeps_skipString fuel).bind fun _ => keeps_pure _
  refine .ite ?_ ?_
  · exact keeps_bump.bind fun _ => keeps_pure _
  · exact keeps_failNext _

theorem keeps_skipKey (fuel : Nat) : Keeps (skipKey fuel) := by
  unfold skipKey
  refine keeps_blank.bind fun o => ?_
  dsimp only
  have hrest : Keeps (skipString fuel >>= fun _ => colon) :=
    (keeps_skipString fuel).bind fun _ => keeps_colon
  split
  · exact keeps_bump.bind fun _ => hrest
  all_goals exact (keeps_failNext _).bind fun _ => hrest

theorem keeps_skipLoop (fuel : Nat) (around : List Char) (enclosing : Option Char) :
    Keeps (skipLoop fuel around enclosing) := by
  induction fuel generalizing around enclosing with
  | zero => exact keeps_failHere _
  | succ fuel ih =>
    rw [skipLoop.eq_def]
    dsimp only
    refine (keeps_skipHead fuel).bind fun opened => ?_
    split
    · exact keeps_pure ()
    · refine (keeps_skipClose fuel _ _ _).bind fun o => ?_
      split
      · exact keeps_pure ()
      · split
        · exact (keeps_skipKey fuel).bind fun _ => ih _ _
        · exact ih _ _

theorem keeps_skipValue (fuel : Nat) : Keeps (skipValue fuel) := keeps_skipLoop fuel [] none

theorem le_skipExponent (taken : Nat) (cs : List Char) :
    taken + 1 ≤ (Scan.skipExponent taken cs).1 := by
  unfold Scan.skipExponent
  -- the sign, if any, is taken before the digits
  rcases cs.drop 1 with _ | ⟨c, rest⟩
  · dsimp only
    omega
  · by_cases hsign : (c == '+' || c == '-') = true
    · rcases rest with _ | ⟨d, rest⟩
      · simp only [hsign, if_true]
        omega
      · simp only [hsign, if_true]
        split <;> omega
    · simp only [hsign, Bool.false_eq_true, if_false]
      split <;> omega

theorem le_skipAfterInteger (taken : Nat) (cs : List Char) :
    taken ≤ (Scan.skipAfterInteger taken cs).1 := by
  unfold Scan.skipAfterInteger
  rcases cs with _ | ⟨c, rest⟩
  · exact le_refl _
  · dsimp only
    split
    · split
      · omega
      · split
        · split
          · have := le_skipExponent (taken + 1 + Scan.countDigits rest)
              (rest.drop (Scan.countDigits rest))
            omega
          · omega
        · omega
    · split
      · have := le_skipExponent taken (c :: rest)
        omega
      · exact le_refl _

theorem one_le_skipNumber {ch : Char} {t : List Char} (hdigit : ch.isDigit = true) :
    1 ≤ (Scan.skipNumber (ch :: t)).1 := by
  unfold Scan.skipNumber
  dsimp only
  split
  · split
    · split
      · exact le_refl 1
      · exact le_skipAfterInteger 1 _
    · exact le_refl 1
  · have := le_skipAfterInteger (1 + Scan.countDigits t) (t.drop (Scan.countDigits t))
    omega

theorem skipHead_takes {fuel : Nat} {c c' : Cursor} {o : Option Char}
    (h : (skipHead fuel).run c = .ok (o, c')) : c'.rest.length < c.rest.length := by
  unfold skipHead at h
  rw [run_bind_of_ok (run_blank c)] at h
  have hblank := c.length_skipBlank_le
  refine lt_of_lt_of_le ?_ hblank
  split at h
  · cases h
  rename_i ch hhead
  split at h
  · exact takes_bump_of_head hhead ((keeps_word _).bind fun _ => keeps_pure _) h
  split at h
  · exact takes_bump_of_head hhead ((keeps_word _).bind fun _ => keeps_pure _) h
  split at h
  · exact takes_bump_of_head hhead ((keeps_word _).bind fun _ => keeps_pure _) h
  split at h
  · exact takes_bump_of_head hhead ((keeps_take _).bind fun _ => keeps_pure _) h
  split at h
  · -- a digit: the number scanner takes it
    rename_i hdigit
    obtain ⟨t, ht⟩ := List.head?_eq_some_iff.mp hhead
    rw [run_bind] at h
    rcases hrun : (take Scan.skipNumber).run c.skipBlank with e | ⟨u, c₁⟩ <;> rw [hrun] at h
    · cases h
    · cases h
      rw [run_take_of_ok hrun, Cursor.length_advanceBy, ht]
      have := one_le_skipNumber (t := t) hdigit
      rw [← ht] at this ⊢
      simp only [ht, List.length_cons] at this ⊢
      omega
  split at h
  · exact takes_bump_of_head hhead ((keeps_skipString fuel).bind fun _ => keeps_pure _) h
  split at h
  · exact takes_bump_of_head hhead (keeps_pure _) h
  · cases h

/-! ## Tagged unions and configurations -/

theorem keeps_taggedMembers (tag : String) (variants : List String) (fuel depth : Nat)
    (found : Option Nat) (acc : List (String × Json)) (first : Bool) :
    Keeps (taggedMembers tag variants fuel depth found acc first) := by
  induction fuel generalizing found acc first with
  | zero => exact keeps_failHere _
  | succ fuel ih =>
    rw [taggedMembers.eq_def]
    dsimp only
    refine (keeps_nextKey fuel first).bind fun o => ?_
    split
    · exact keeps_pure _
    split
    · split
      · exact keeps_rejectInObject _
      · exact keeps_colon.bind fun _ => (keeps_identifier fuel variants).bind fun _ => ih _ _ _
    · exact keeps_colon.bind fun _ => (keeps_value fuel depth).bind fun _ => ih _ _ _

theorem keeps_setting_read {s : Config.Setting} (hs : s ∈ Config.settings) (fuel : Nat) :
    Keeps (s.read fuel) := by
  simp only [Config.settings, List.mem_cons, List.not_mem_nil, or_false] at hs
  rcases hs with rfl | rfl | rfl | rfl | rfl | rfl
  · exact (keeps_boolean fuel).bind fun _ => keeps_pure _
  · exact (keeps_text fuel _).bind fun _ => keeps_pure _
  · exact (keeps_unsigned fuel _ _).bind fun _ => keeps_pure _
  · exact (keeps_boolean fuel).bind fun _ => keeps_pure _
  · exact (keeps_boolean fuel).bind fun _ => keeps_pure _
  · exact (keeps_optional (keeps_text fuel _)).bind fun _ => keeps_pure _

end Reader
end AcpBridge
