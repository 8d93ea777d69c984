import Mathlib
import AcpBridge.Trace
import AcpBridge.Proofs.LineFraming
import AcpBridge.Proofs.EventTranslation

/-!
# Which line a trace fails on

A trace is read line by line. Its lines are the parts between line feeds, each without the
carriage return that stood before its feed; a last part that no feed ends is a line as it
stands, and an empty one after a final feed is none (`lines_join`). Reading skips the lines
that trim to nothing and reads every other line as one item.

* Reading succeeds exactly when every line that is not blank is an item, and then gives those
  items in line order (`readLines_eq_ok_iff`).
* Otherwise it fails at the first line that is not blank and not an item, and names it by its
  place among all lines, blank ones included, counted from one (`readLines_eq_error_iff`).

`parseTrace_reports_first_bad_line` states both for the text of a whole trace.
-/

namespace AcpBridge

/-! ## Lines of a text -/

theorem join_lines_eq_empty {ls : List String} {last : String} :
    String.join (ls.map (· ++ "\n")) ++ last = "" ↔ ls = [] ∧ last = "" := by
  constructor
  · intro h
    have hlist := congrArg String.toList h
    cases ls with
    | nil => simpa using h
    | cons l ls => simp at hlist
  · rintro ⟨rfl, rfl⟩
    rfl

theorem lines_join {ls : List String} {last : String} (h : ∀ l ∈ ls, '\n' ∉ l.toList)
    (hlast : '\n' ∉ last.toList) :
    lines (String.join (ls.map (· ++ "\n")) ++ last) =
      ls.map dropReturn ++ (if last = "" then [] else [last]) := by
  unfold lines
  split
  · -- the empty text: no line, and an empty last part
    rename_i hempty
    obtain ⟨rfl, rfl⟩ := join_lines_eq_empty.mp (String.isEmpty_iff.mp hempty)
    rfl
  · rw [split_join_append h hlast]
    dsimp only
    rw [List.dropLast_concat, List.getLast?_concat]
    by_cases hnil : last = ""
    · simp [hnil]
    · simp [hnil, Option.filter]

theorem lines_of_no_feed {s : String} (hfeed : '\n' ∉ s.toList) (hne : s ≠ "") : lines s = [s] := by
  have hlines := @lines_join [] s (by simp) hfeed
  simpa [hne] using hlines

/-! ## Reading numbered lines -/

theorem readLines_eq_ok_iff (n : Nat) (ls : List String) (items : List TraceItem) :
    readLines n ls = .ok items ↔
      List.Forall₂ (fun l item => TraceItem.ofLine l = .ok item)
        (ls.filter fun l => !Text.isBlankText l) items := by
  induction ls generalizing n items with
  | nil => cases items <;> simp [readLines]
  | cons l rest ih =>
    by_cases hblank : Text.isBlankText l = true
    · simp [readLines, hblank, ih]
    · rw [readLines, if_neg hblank, List.filter_cons_of_pos (by simpa using hblank),
        List.forall₂_cons_left_iff]
      cases hitem : TraceItem.ofLine l with
      | error e => simp
      | ok item =>
        -- the rest is read on, and the line's item heads what it gives
        cases hrest : readLines (n + 1) rest with
        | error e =>
          simp only [Functor.map, Except.map, reduceCtorEq, false_iff, not_exists, not_and]
          intro it its _ hits
          rw [← ih, hrest] at hits
          cases hits
        | ok its =>
          simp only [Functor.map, Except.map, Except.ok.injEq]
          constructor
          · rintro rfl
            exact ⟨item, its, rfl, (ih (n + 1) its).mp hrest, rfl⟩
          · rintro ⟨b, its', hb, hits, rfl⟩
            rw [← ih, hrest] at hits
            cases hb
            cases hits
            rfl

/-- Reading the lines `ls`, numbered from `n`, stops with `e`: the lines before some line `l` are
each blank or an item, `l` is neither and fails with `e`'s cause, and `e` names `l`'s number. -/
def StopsAt (n : Nat) (ls : List String) (e : TraceError) : Prop :=
  ∃ pre l post, ls = pre ++ l :: post ∧
    (∀ p ∈ pre, Text.isBlankText p = true ∨ ∃ item, TraceItem.ofLine p = .ok item) ∧
    Text.isBlankText l = false ∧ TraceItem.ofLine l = .error e.cause ∧ e.line = n + pre.length

theorem StopsAt.cons {n : Nat} {l : String} {rest : List String} {e : TraceError}
    (hl : Text.isBlankText l = true ∨ ∃ item, TraceItem.ofLine l = .ok item)
    (h : StopsAt (n + 1) rest e) : StopsAt n (l :: rest) e := by
  obtain ⟨pre, l', post, rfl, hpre, hl', hdec, hline⟩ := h
  refine ⟨l :: pre, l', post, rfl, ?_, hl', hdec, by simp only [hline, List.length_cons]; omega⟩
  intro p hp
  rcases List.mem_cons.mp hp with rfl | hp
  · exact hl
  · exact hpre p hp

theorem readLines_eq_error_iff (n : Nat) (ls : List String) (e : TraceError) :
    readLines n ls = .error e ↔ StopsAt n ls e := by
  constructor
  · -- the failing line is found by following the reading, the number going up by one a line
    intro h
    induction ls generalizing n with
    | nil => cases h
    | cons l rest ih =>
      by_cases hblank : Text.isBlankText l = true
      · rw [readLines, if_pos hblank] at h
        exact StopsAt.cons (.inl hblank) (ih (n + 1) h)
      · rw [readLines, if_neg hblank] at h
        cases hitem : TraceItem.ofLine l with
        | error c =>
          rw [hitem] at h
          cases h
          exact ⟨[], l, rest, rfl, by simp, by simpa using hblank, hitem, rfl⟩
        | ok item =>
          rw [hitem] at h
          cases hrest : readLines (n + 1) rest with
          | ok its =>
            rw [hrest] at h
            cases h
          | error e' =>
            rw [hrest] at h
            cases h
            exact StopsAt.cons (.inr ⟨item, hitem⟩) (ih (n + 1) hrest)
  · rintro ⟨pre, l, post, rfl, hpre, hl, hdec, hline⟩
    induction pre generalizing n with
    | nil =>
      rw [List.nil_append, readLines, if_neg (by simp [hl]), hdec]
      cases e
      simp only [List.length_nil, Nat.add_zero] at hline
      rw [hline]
    | cons p pre ih =>
      have hrest := ih (n + 1) (fun q hq => hpre q (List.mem_cons_of_mem p hq))
        (by simp only [hline, List.length_cons]; omega)
      rw [List.cons_append, readLines]
      split
      · exact hrest
      · rename_i hblank
        obtain ⟨item, hitem⟩ := (hpre p List.mem_cons_self).resolve_left hblank
        rw [hitem, hrest]
        rfl

/-! ## Reading a trace -/

theorem parseTrace_of_line {s : String} {item : TraceItem} (hfeed : '\n' ∉ s.toList)
    (hblank : Text.isBlankText s = false) (hitem : TraceItem.ofLine s = .ok item) :
    parseTrace s = .ok [item] := by
  have hne : s ≠ "" := by
    rintro rfl
    cases hblank
  rw [parseTrace, lines_of_no_feed hfeed hne, readLines, if_neg (by simp [hblank]), hitem]
  rfl

/-- Trace reading reports the right line. The text is read as its lines (`lines`): split at
line feeds, the carriage return before each feed dropped. It reads exactly when every line that
does not trim to nothing is an item, and its items are then those of these lines in order.
Otherwise it fails at the first such line that is not an item, and the failure names that
line's place among all the lines, blank ones included, counted from one. -/
theorem parseTrace_reports_first_bad_line (s : String) :
    (∀ items, parseTrace s = .ok items ↔
      List.Forall₂ (fun l item => TraceItem.ofLine l = .ok item)
        ((lines s).filter fun l => Text.trim l ≠ "") items) ∧
    (∀ e, parseTrace s = .error e ↔
      ∃ pre l post, lines s = pre ++ l :: post ∧
        (∀ p ∈ pre, Text.trim p = "" ∨ ∃ item, TraceItem.ofLine p = .ok item) ∧
        Text.trim l ≠ "" ∧ TraceItem.ofLine l = .error e.cause ∧ e.line = pre.length + 1 ∧
        e.message = "Invalid trace item on line " ++ toString (pre.length + 1) ++ ": " ++
          e.cause.message) ∧
    ∀ (ls : List String) (last : String), (∀ l ∈ ls, '\n' ∉ l.toList) → '\n' ∉ last.toList →
      s = String.join (ls.map (· ++ "\n")) ++ last →
      lines s = ls.map dropReturn ++ (if last = "" then [] else [last]) := by
  have hblank : ∀ l, Text.isBlankText l = true ↔ Text.trim l = "" := fun l =>
    (Text.trim_eq_empty_iff l).symm
  refine ⟨fun items => ?_, fun e => ?_, fun ls last h hlast hs => hs ▸ lines_join h hlast⟩
  · have hfilter : ((lines s).filter fun l => !Text.isBlankText l) =
        (lines s).filter fun l => Text.trim l ≠ "" := by
      apply List.filter_congr
      intro l _
      by_cases h : Text.isBlankText l = true
      · simp [h, (hblank l).mp h]
      · have hl : Text.trim l ≠ "" := fun h' => h ((hblank l).mpr h')
        simp [h, hl]
    rw [parseTrace, readLines_eq_ok_iff, hfilter]
  · rw [parseTrace, readLines_eq_error_iff]
    constructor
    · rintro ⟨pre, l, post, hls, hpre, hl, hdec, hline⟩
      have hline' : e.line = pre.length + 1 := by omega
      refine ⟨pre, l, post, hls, fun p hp => (hpre p hp).imp_left (hblank p).mp,
        fun h => by simp [(hblank l).mpr h] at hl, hdec, hline', ?_⟩
      unfold TraceError.message TraceError.context
      rw [hline']
    · rintro ⟨pre, l, post, hls, hpre, hl, hdec, hline, -⟩
      exact ⟨pre, l, post, hls, fun p hp => (hpre p hp).imp_left (hblank p).mpr,
        Bool.eq_false_iff.mpr fun h => hl ((hblank l).mp h), hdec, by omega⟩

/-- Two lines ended by a carriage return and a feed, the second of them blank, then a last line
that no feed ends: the feeds' carriage returns are dropped, the last line's is kept. -/
theorem parseTrace_reports_first_bad_line_crlf :
    (∀ l ∈ (["a\r", ""] : List String), '\n' ∉ l.toList) ∧ '\n' ∉ "b\r".toList ∧
      "a\r\n\nb\r" = String.join (["a\r", ""].map (· ++ "\n")) ++ "b\r" ∧
      lines "a\r\n\nb\r" =
        ["a\r", ""].map dropReturn ++ (if "b\r" = "" then [] else ["b\r"]) := by
  have hls : ∀ l ∈ (["a\r", ""] : List String), '\n' ∉ l.toList := by decide
  have hlast : '\n' ∉ "b\r".toList := by decide
  have htext : "a\r\n\nb\r" = String.join (["a\r", ""].map (· ++ "\n")) ++ "b\r" := by decide
  exact ⟨hls, hlast, htext,
    (parseTrace_reports_first_bad_line "a\r\n\nb\r").2.2 _ _ hls hlast htext⟩

end AcpBridge
