import Mathlib
import AcpBridge.Session.Tracker

/-!
# The tracker, one stream index at a time

The tracker keeps one call per stream index, and a delta reads and changes only the call at
its own index. This module makes that precise.

* `CallState.step?` is the step of one call, from what is known of it (`none` while it is not
  tracked): `Tracker.observe` is this step at the delta's index, and leaves every other index
  alone (`state?_observe`, `actions_observe`).
* Folding deltas into the tracker is, at each index, the fold of that step over the deltas of
  the index (`state?_observeAll`), and what the deltas of an index ask to send is what that fold
  sends (`sentFor_eq`), however the deltas of other indices are interleaved with them.
* `Tracker.trace` records, delta by delta, what a run asks to send; the entry of a delta is the
  step of its own call from the deltas of that call before it (`trace_getElem`).
-/

namespace AcpBridge
namespace Session

open Agent

/-! ## Looking up and recording calls -/

namespace Tracker

theorem state?_put_self (t : Tracker) (i : Nat) (s : CallState) :
    (t.put i s).state? i = some s := by
  unfold put state?
  split
  · rename_i hany
    obtain ⟨c, hc, hci⟩ := List.any_eq_true.mp hany
    have hfind : (t.calls.find? (·.1 == i)).isSome := List.find?_isSome.mpr ⟨c, hc, hci⟩
    obtain ⟨c', hc'⟩ := Option.isSome_iff_exists.mp hfind
    have hkey : c'.1 = i := by simpa using List.find?_some hc'
    have hcomp : ((fun c : Nat × CallState => c.1 == i) ∘
        fun c => if c.1 == i then (i, s) else c) = fun c => c.1 == i := by
      funext c
      by_cases h : c.1 = i <;> simp [h]
    rw [List.find?_map, hcomp, hc']
    simp [hkey]
  · rename_i hany
    have hnone : t.calls.find? (·.1 == i) = none := by
      rw [List.find?_eq_none]
      intro c hc hci
      exact hany (List.any_eq_true.mpr ⟨c, hc, hci⟩)
    simp [List.find?_append, hnone]

theorem state?_put_of_ne (t : Tracker) {i j : Nat} (s : CallState) (h : j ≠ i) :
    (t.put i s).state? j = t.state? j := by
  unfold put state?
  split
  · have hcomp : ((fun c : Nat × CallState => c.1 == j) ∘
        fun c => if c.1 == i then (i, s) else c) = fun c => c.1 == j := by
      funext c
      by_cases hc : c.1 = i <;> simp [hc]
    rw [List.find?_map, hcomp]
    cases hfind : t.calls.find? (·.1 == j) with
    | none => rfl
    | some c =>
        have hkey : c.1 = j := by simpa using List.find?_some hfind
        have hne : c.1 ≠ i := by rw [hkey]; exact h
        simp [hne]
  · have hj : ((i, s) : Nat × CallState).1 ≠ j := Ne.symm h
    simp [List.find?_append, hj]

end Tracker

/-! ## The step of one call -/

namespace CallState

/-- One delta folded into the call at its index, from what is known of the call; `none` is a
call not tracked yet, which a delta without id and name leaves untracked. -/
def step? : Option CallState → ToolCallDelta → Option CallState × List StreamAction
  | some s, d => (some (s.observe d).1, (s.observe d).2)
  | none, d =>
    if d.callId.isNone && d.name.isNone then (none, [])
    else (some (CallState.empty.observe d).1, (CallState.empty.observe d).2)

def run? (s : Option CallState) (ds : List ToolCallDelta) : Option CallState :=
  ds.foldl (fun s d => (step? s d).1) s

def sent : Option CallState → List ToolCallDelta → List StreamAction
  | _, [] => []
  | s, d :: ds => (step? s d).2 ++ sent (step? s d).1 ds

@[simp] theorem run?_nil (s : Option CallState) : run? s [] = s := rfl

@[simp] theorem run?_cons (s : Option CallState) (d : ToolCallDelta) (ds : List ToolCallDelta) :
    run? s (d :: ds) = run? (step? s d).1 ds := rfl

theorem run?_append_singleton (s : Option CallState) (ds : List ToolCallDelta)
    (d : ToolCallDelta) :
    run? s (ds ++ [d]) = (step? (run? s ds) d).1 := by
  simp [run?, List.foldl_append]

@[simp] theorem sent_nil (s : Option CallState) : sent s [] = [] := rfl

@[simp] theorem sent_cons (s : Option CallState) (d : ToolCallDelta) (ds : List ToolCallDelta) :
    sent s (d :: ds) = (step? s d).2 ++ sent (step? s d).1 ds := rfl

theorem sent_append_singleton (s : Option CallState) (ds : List ToolCallDelta)
    (d : ToolCallDelta) :
    sent s (ds ++ [d]) = sent s ds ++ (step? (run? s ds) d).2 := by
  induction ds generalizing s with
  | nil => simp
  | cons e ds ih => simp [ih]

end CallState

/-! ## Observing a delta touches its own index only -/

namespace Tracker

theorem actions_observe (t : Tracker) (d : ToolCallDelta) :
    (t.observe d).2 = (CallState.step? (t.state? d.index) d).2 := by
  unfold observe
  cases hs : t.state? d.index with
  | some s => rfl
  | none =>
      simp only [CallState.step?]
      split <;> rfl

theorem state?_observe (t : Tracker) (d : ToolCallDelta) (j : Nat) :
    (t.observe d).1.state? j =
      if j = d.index then (CallState.step? (t.state? d.index) d).1 else t.state? j := by
  unfold observe
  by_cases hj : j = d.index
  · subst hj
    cases hs : t.state? d.index with
    | some s => simp [CallState.step?, state?_put_self]
    | none =>
        simp only [CallState.step?]
        split
        · simp [hs]
        · simp [state?_put_self]
  · cases hs : t.state? d.index with
    | some s => simp [state?_put_of_ne _ _ hj, hj]
    | none =>
        simp only
        split <;> simp [state?_put_of_ne _ _ hj]

/-! ## Runs of deltas -/

def observeAll (t : Tracker) (ds : List ToolCallDelta) : Tracker :=
  ds.foldl (fun t d => (t.observe d).1) t

def trace : Tracker → List ToolCallDelta → List (List StreamAction)
  | _, [] => []
  | t, d :: ds => (t.observe d).2 :: trace (t.observe d).1 ds

def sentFor (i : Nat) : Tracker → List ToolCallDelta → List StreamAction
  | _, [] => []
  | t, d :: ds => (if d.index = i then (t.observe d).2 else []) ++ sentFor i (t.observe d).1 ds

@[simp] theorem observeAll_nil (t : Tracker) : t.observeAll [] = t := rfl

@[simp] theorem observeAll_cons (t : Tracker) (d : ToolCallDelta) (ds : List ToolCallDelta) :
    t.observeAll (d :: ds) = (t.observe d).1.observeAll ds := rfl

theorem observeAll_append (t : Tracker) (ds es : List ToolCallDelta) :
    t.observeAll (ds ++ es) = (t.observeAll ds).observeAll es := by
  simp [observeAll, List.foldl_append]

@[simp] theorem trace_nil (t : Tracker) : t.trace [] = [] := rfl

@[simp] theorem trace_cons (t : Tracker) (d : ToolCallDelta) (ds : List ToolCallDelta) :
    t.trace (d :: ds) = (t.observe d).2 :: (t.observe d).1.trace ds := rfl

@[simp] theorem length_trace (t : Tracker) (ds : List ToolCallDelta) :
    (t.trace ds).length = ds.length := by
  induction ds generalizing t with
  | nil => rfl
  | cons d ds ih => simp [ih]

theorem trace_append (t : Tracker) (ds es : List ToolCallDelta) :
    t.trace (ds ++ es) = t.trace ds ++ (t.observeAll ds).trace es := by
  induction ds generalizing t with
  | nil => rfl
  | cons d ds ih => simp [ih]

theorem state?_observeAll (t : Tracker) (ds : List ToolCallDelta) (i : Nat) :
    (t.observeAll ds).state? i = CallState.run? (t.state? i) (ds.filter (·.index == i)) := by
  induction ds generalizing t with
  | nil => rfl
  | cons d ds ih =>
      rw [observeAll_cons, ih, state?_observe]
      by_cases hi : d.index = i
      · subst hi
        simp
      · have hne : i ≠ d.index := Ne.symm hi
        simp [hi, hne]

theorem sentFor_eq (i : Nat) (t : Tracker) (ds : List ToolCallDelta) :
    sentFor i t ds = CallState.sent (t.state? i) (ds.filter (·.index == i)) := by
  induction ds generalizing t with
  | nil => rfl
  | cons d ds ih =>
      simp only [sentFor, ih, state?_observe]
      by_cases hi : d.index = i
      · subst hi
        simp [actions_observe]
      · have hne : i ≠ d.index := Ne.symm hi
        simp [hi, hne]

theorem trace_getElem (t : Tracker) (ds : List ToolCallDelta) (k : Nat) (hk : k < ds.length) :
    (t.trace ds)[k]? =
      some (CallState.step? (CallState.run? (t.state? ds[k].index)
        ((ds.take k).filter (·.index == ds[k].index))) ds[k]).2 := by
  have hsplit : ds = ds.take k ++ ds[k] :: ds.drop (k + 1) := by
    simp
  have htrace : t.trace ds = t.trace (ds.take k) ++ (t.observeAll (ds.take k)).trace
      (ds[k] :: ds.drop (k + 1)) := by
    conv => lhs; rw [hsplit]
    exact trace_append _ _ _
  have hlen : (t.trace (ds.take k)).length = k := by
    simp [Nat.min_eq_left (Nat.le_of_lt hk)]
  rw [htrace, List.getElem?_append_right (by omega)]
  simp only [hlen, Nat.sub_self, trace_cons, List.getElem?_cons_zero, actions_observe,
    state?_observeAll]

/-! ## Tracked indices and waiting fragments -/

def indices (t : Tracker) : List Nat := t.calls.map (·.1)

def waitingAt (t : Tracker) (i : Nat) : List String := ((t.state? i).map (·.pending)).getD []

theorem indices_put (t : Tracker) (i : Nat) (s : CallState) :
    (t.put i s).indices = if i ∈ t.indices then t.indices else t.indices ++ [i] := by
  unfold put indices
  by_cases hi : i ∈ t.calls.map (·.1)
  · have hany : t.calls.any (·.1 == i) = true := by
      obtain ⟨c, hc, hci⟩ := List.mem_map.mp hi
      exact List.any_eq_true.mpr ⟨c, hc, by simp [hci]⟩
    simp only [hany, if_true, hi, List.map_map]
    apply List.map_congr_left
    intro c _
    by_cases hc : c.1 = i <;> simp [hc]
  · have hany : t.calls.any (·.1 == i) = false := by
      apply List.any_eq_false.mpr
      intro c hc hci
      exact hi (List.mem_map.mpr ⟨c, hc, by simpa using hci⟩)
    simp [hany, hi]

theorem state?_of_not_mem {t : Tracker} {i : Nat} (hi : i ∉ t.indices) : t.state? i = none := by
  unfold state?
  have hnone : t.calls.find? (·.1 == i) = none := by
    rw [List.find?_eq_none]
    intro c hc hci
    exact hi (List.mem_map.mpr ⟨c, hc, by simpa using hci⟩)
  simp [hnone]

theorem nodup_indices_observe {t : Tracker} (ht : t.indices.Nodup) (d : ToolCallDelta) :
    (t.observe d).1.indices.Nodup := by
  unfold observe
  -- a step either leaves the tracker alone or records one call with `put`
  have hput : ∀ s : CallState, (t.put d.index s).indices.Nodup := by
    intro s
    rw [indices_put]
    split
    · exact ht
    · rename_i hi
      refine List.nodup_append.mpr ⟨ht, by simp, ?_⟩
      intro a ha b hb hab
      rw [List.mem_singleton.mp hb] at hab
      exact hi (hab ▸ ha)
  split
  · exact hput _
  · split
    · exact ht
    · exact hput _

theorem mem_indices_observe {t : Tracker} {d : ToolCallDelta} {i : Nat}
    (hi : i ∈ (t.observe d).1.indices) : i ∈ t.indices ∨ i = d.index := by
  unfold observe at hi
  have hput : ∀ s : CallState, i ∈ (t.put d.index s).indices → i ∈ t.indices ∨ i = d.index := by
    intro s hs
    rw [indices_put] at hs
    split at hs
    · exact .inl hs
    · rcases List.mem_append.mp hs with hs | hs
      · exact .inl hs
      · exact .inr (List.mem_singleton.mp hs)
  split at hi
  · exact hput _ hi
  · split at hi
    · exact .inl hi
    · exact hput _ hi

theorem nodup_indices_observeAll {t : Tracker} (ht : t.indices.Nodup) (ds : List ToolCallDelta) :
    (t.observeAll ds).indices.Nodup := by
  induction ds generalizing t with
  | nil => exact ht
  | cons d ds ih => exact ih (nodup_indices_observe ht d)

theorem mem_indices_observeAll {t : Tracker} {ds : List ToolCallDelta} {i : Nat}
    (hi : i ∈ (t.observeAll ds).indices) : i ∈ t.indices ∨ i ∈ ds.map (·.index) := by
  induction ds generalizing t with
  | nil => exact .inl hi
  | cons d ds ih =>
      rcases ih hi with hi | hi
      · rcases mem_indices_observe hi with hi | rfl
        · exact .inl hi
        · exact .inr (by simp)
      · exact .inr (by simp [hi])

theorem waiting_eq_sum {t : Tracker} (ht : t.indices.Nodup) :
    t.waiting = (t.indices.map fun i => (t.waitingAt i).length).sum := by
  obtain ⟨calls⟩ := t
  induction calls with
  | nil => rfl
  | cons c rest ih =>
      have hrest : (rest.map (·.1)).Nodup := (List.nodup_cons.mp ht).2
      have hc : c.1 ∉ rest.map (·.1) := (List.nodup_cons.mp ht).1
      have hhead : (Tracker.mk (c :: rest)).waitingAt c.1 = c.2.pending := by
        simp [waitingAt, state?]
      have htail : ∀ j ∈ rest.map (·.1),
          ((Tracker.mk (c :: rest)).waitingAt j).length = ((Tracker.mk rest).waitingAt j).length := by
        intro j hj
        have hne : c.1 ≠ j := fun h => hc (h ▸ hj)
        simp [waitingAt, state?, hne]
      have ih' := ih hrest
      simp only [waiting, indices, List.map_cons, List.sum_cons, List.foldr_cons] at ih' ⊢
      rw [hhead, ih', List.map_congr_left htail]

end Tracker

end Session
end AcpBridge
