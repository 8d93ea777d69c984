import Mathlib
import AcpBridge.Proofs.TrackerIndex

/-!
# A streamed call as a function of its deltas

What the tracker knows of the call at an index depends only on the deltas of that index
(`Tracker.state?_observeAll`), and in a simple way: the call's id is the first non-empty id
among them, its name the first non-empty name, it is a think call when that name is `think`,
it has started once both are known unless it thinks, and it holds the argument fragments it
has seen since it became known for as long as it neither started nor thinks. `ofHistory`
states this and `run?_none` proves it.

From that closed form, one step of a call (`stepActions`) and then all that its deltas send
(`sent_none`) follow by a snoc induction over the deltas.

## The step, phase by phase

`CallState.observe` takes a delta's id and name in (`identify`), and then starts the call,
flushes the waiting fragments and takes the delta's own fragment (`settle`). The two phases
are stated apart, each by one lemma over every state.
-/

namespace AcpBridge

def Agent.ToolCallDelta.identifies (d : Agent.ToolCallDelta) : Bool :=
  d.callId.isSome || d.name.isSome

namespace Session

open Agent

namespace CallState

/-- A call once a delta's id and name are taken in: the first id and the first name are kept,
and whether it thinks is decided with its name. -/
def identify (s : CallState) (d : ToolCallDelta) : CallState :=
  let s := if s.toolCallId.isNone then { s with toolCallId := d.callId } else s
  match s.name, d.name with
  | none, some n => { s with name := some n, isThink := n == thinkTool }
  | _, _ => s

/-- A call with a delta's id and name taken in, given the delta's fragment: it starts if it
can, flushes its waiting fragments if they may go out, and takes the fragment. -/
def settle (s : CallState) (arguments : Option String) : CallState × List StreamAction :=
  let (s, starts) :=
    match s.ready, s.toolCallId, s.name with
    | true, some id, some n => ({ s with started := true }, [StreamAction.start id n])
    | _, _, _ => (s, [])
  let (s, flushed) :=
    if s.flowing then ({ s with pending := [] }, s.pending.flatMap s.emit) else (s, [])
  match arguments with
  | some fragment =>
    if s.flowing then (s, starts ++ flushed ++ s.emit fragment)
    else ({ s with pending := s.pending ++ [fragment] }, starts ++ flushed)
  | none => (s, starts ++ flushed)

def startOf (s : CallState) : List StreamAction :=
  match s.toolCallId, s.name with
  | some id, some n => [.start id n]
  | _, _ => []

theorem observe_eq_settle (s : CallState) (d : ToolCallDelta) :
    s.observe d = (s.identify d).settle d.arguments := rfl

theorem settle_fst (s : CallState) (arguments : Option String) :
    (s.settle arguments).1 =
      { s with
        started := s.started || s.ready
        pending :=
          if s.started || s.ready || s.isThink then [] else s.pending ++ arguments.toList } := by
  obtain ⟨id, n, think, started, pending⟩ := s
  cases id <;> cases n <;> cases think <;> cases started <;> cases arguments <;>
    simp [settle, flowing, ready]

theorem settle_snd (s : CallState) (arguments : Option String) :
    (s.settle arguments).2 =
      (if s.ready then s.startOf else []) ++
        (if s.started || s.ready || s.isThink then
          (s.pending ++ arguments.toList).flatMap s.emit
        else []) := by
  obtain ⟨id, n, think, started, pending⟩ := s
  -- `emit` reads neither `started` nor `pending`, so the last goals close by unfolding
  cases id <;> cases n <;> cases think <;> cases started <;> cases arguments <;>
    simp [settle, flowing, ready, startOf] <;> rfl

/-! ## The closed form -/

def firstId (h : List ToolCallDelta) : Option String := h.findSome? (·.callId)

def firstName (h : List ToolCallDelta) : Option String := h.findSome? (·.name)

def fragments (h : List ToolCallDelta) : List String :=
  (h.dropWhile (!·.identifies)).filterMap (·.arguments)

def ofHistory (h : List ToolCallDelta) : CallState :=
  let isThink := firstName h == some thinkTool
  let started := (firstId h).isSome && (firstName h).isSome && !isThink
  ⟨firstId h, firstName h, isThink, started, if started || isThink then [] else fragments h⟩

def stepActions (h : List ToolCallDelta) (e : ToolCallDelta) : List StreamAction :=
  let s' := ofHistory (h ++ [e])
  (if s'.started && !(ofHistory h).started then s'.startOf else []) ++
    (if s'.flowing then ((ofHistory h).pending ++ e.arguments.toList).flatMap s'.emit else [])

theorem firstId_append_singleton (h : List ToolCallDelta) (e : ToolCallDelta) :
    firstId (h ++ [e]) = (firstId h).or e.callId := by
  simp [firstId, List.findSome?_append]

theorem firstName_append_singleton (h : List ToolCallDelta) (e : ToolCallDelta) :
    firstName (h ++ [e]) = (firstName h).or e.name := by
  simp [firstName, List.findSome?_append]

theorem fragments_append_singleton (h : List ToolCallDelta) (e : ToolCallDelta)
    (hknown : (h ++ [e]).any (·.identifies) = true) :
    fragments (h ++ [e]) = fragments h ++ e.arguments.toList := by
  unfold fragments
  rw [List.dropWhile_append]
  split
  · rename_i hempty
    -- nothing of `h` is kept, so `e` is the first delta that makes the call known
    have hall : ∀ d ∈ h, d.identifies = false := by
      intro d hd
      have := List.dropWhile_eq_nil_iff.mp (List.isEmpty_iff.mp hempty) d hd
      simpa using this
    have he : e.identifies = true := by
      obtain ⟨d, hd, hdk⟩ := List.any_eq_true.mp hknown
      rcases List.mem_append.mp hd with hd | hd
      · rw [hall d hd] at hdk
        cases hdk
      · rw [List.mem_singleton.mp hd] at hdk
        exact hdk
    rw [List.isEmpty_iff.mp hempty]
    cases ha : e.arguments <;> simp [List.dropWhile, he, ha]
  · cases ha : e.arguments <;> simp [ha]

theorem isNone_and_isNone (d : ToolCallDelta) :
    (d.callId.isNone && d.name.isNone) = !d.identifies := by
  unfold ToolCallDelta.identifies
  cases d.callId <;> cases d.name <;> rfl

theorem ofHistory_of_unknown (h : List ToolCallDelta) (hunknown : h.any (·.identifies) = false) :
    ofHistory h = CallState.empty := by
  have hall : ∀ d ∈ h, d.callId = none ∧ d.name = none := by
    intro d hd
    have := List.any_eq_false.mp hunknown d hd
    simpa [ToolCallDelta.identifies] using this
  have hid : firstId h = none := List.findSome?_eq_none_iff.mpr fun d hd => (hall d hd).1
  have hname : firstName h = none := List.findSome?_eq_none_iff.mpr fun d hd => (hall d hd).2
  have hfrag : fragments h = [] := by
    have hdrop : h.dropWhile (!·.identifies) = [] := by
      apply List.dropWhile_eq_nil_iff.mpr
      intro d hd
      simp [List.any_eq_false.mp hunknown d hd]
    simp [fragments, hdrop]
  simp [ofHistory, hid, hname, hfrag, CallState.empty]

theorem identify_ofHistory (h : List ToolCallDelta) (e : ToolCallDelta) :
    (ofHistory h).identify e =
      ⟨firstId (h ++ [e]), firstName (h ++ [e]), firstName (h ++ [e]) == some thinkTool,
        (ofHistory h).started, (ofHistory h).pending⟩ := by
  rw [firstId_append_singleton, firstName_append_singleton]
  unfold identify ofHistory
  cases firstId h <;> cases firstName h <;> cases e.name <;> simp

theorem started_or_ready (h : List ToolCallDelta) (e : ToolCallDelta) :
    (((ofHistory h).identify e).started || ((ofHistory h).identify e).ready) =
      (ofHistory (h ++ [e])).started := by
  rw [identify_ofHistory]
  simp only [ready, ofHistory, firstId_append_singleton, firstName_append_singleton]
  cases firstId h <;> cases firstName h <;> cases e.callId <;> cases e.name <;> simp

theorem ready_identify (h : List ToolCallDelta) (e : ToolCallDelta) :
    ((ofHistory h).identify e).ready =
      ((ofHistory (h ++ [e])).started && !(ofHistory h).started) := by
  rw [identify_ofHistory]
  simp only [ready, ofHistory]
  cases (firstId h).isSome <;> cases (firstName h).isSome <;>
    cases (firstName (h ++ [e]) == some thinkTool) <;> cases (firstName h == some thinkTool) <;>
    simp [Bool.and_comm]

theorem started_append_singleton {h : List ToolCallDelta} (e : ToolCallDelta)
    (hstarted : (ofHistory h).started = true) : (ofHistory (h ++ [e])).started = true := by
  rw [← started_or_ready, identify_ofHistory]
  simp [hstarted]

theorem isThink_append_singleton {h : List ToolCallDelta} (e : ToolCallDelta)
    (hthink : (ofHistory h).isThink = true) : (ofHistory (h ++ [e])).isThink = true := by
  have hname : firstName h = some thinkTool := by simpa [ofHistory] using hthink
  simp [ofHistory, firstName_append_singleton, hname]

theorem observe_ofHistory (h : List ToolCallDelta) (e : ToolCallDelta)
    (hknown : (h ++ [e]).any (·.identifies) = true) :
    (ofHistory h).observe e = (ofHistory (h ++ [e]), stepActions h e) := by
  have hstarted := started_or_ready h e
  have hid := identify_ofHistory h e
  rw [observe_eq_settle]
  refine Prod.ext ?_ ?_
  · rw [settle_fst, hstarted]
    by_cases hflow : ((ofHistory (h ++ [e])).started || (ofHistory (h ++ [e])).isThink) = true
    · have hflow' : ((ofHistory (h ++ [e])).started || ((ofHistory h).identify e).isThink) = true := by
        rw [hid]; exact hflow
      simp only [hflow', if_true]
      rw [hid]
      simp only [ofHistory] at hflow ⊢
      simp [hflow]
    · -- a call that still waits neither started nor thought before this delta
      have hwait : ((ofHistory h).started || (ofHistory h).isThink) = false := by
        cases hs : (ofHistory h).started
        · cases ht : (ofHistory h).isThink
          · rfl
          · simp [isThink_append_singleton e ht] at hflow
        · simp [started_append_singleton e hs] at hflow
      have hpending : (ofHistory h).pending = fragments h := by
        simp only [ofHistory] at hwait ⊢
        simp [hwait]
      have hflow' : ((ofHistory (h ++ [e])).started || ((ofHistory h).identify e).isThink) = false := by
        rw [hid]
        exact Bool.eq_false_iff.mpr hflow
      simp only [hflow', Bool.false_eq_true, if_false]
      rw [hid, hpending, ← fragments_append_singleton h e hknown]
      simp only [ofHistory] at hflow ⊢
      simp [hflow]
  · rw [settle_snd, hstarted, ready_identify, hid]
    rfl

/-! ## Runs of one call -/

theorem step?_ofHistory (h : List ToolCallDelta) (e : ToolCallDelta) :
    step? (if h.any (·.identifies) then some (ofHistory h) else none) e =
      (if (h ++ [e]).any (·.identifies) then some (ofHistory (h ++ [e])) else none,
        stepActions h e) := by
  by_cases hh : h.any (·.identifies) = true
  · have hknown : (h ++ [e]).any (·.identifies) = true := by simp [hh]
    simp only [hh, hknown, if_true, step?, observe_ofHistory h e hknown]
  · have hunknown : h.any (·.identifies) = false := by simpa using hh
    rw [if_neg hh]
    cases he : e.identifies
    · -- the call stays untracked and sends nothing
      have hnone : (e.callId.isNone && e.name.isNone) = true := by
        rw [isNone_and_isNone, he]; rfl
      have hstill : (h ++ [e]).any (·.identifies) = false := by simp [hunknown, he]
      simp [step?, hnone, hstill, stepActions, ofHistory_of_unknown h hunknown,
        ofHistory_of_unknown _ hstill, CallState.empty, flowing]
    · -- `e` makes the call known: it is observed as a call of which nothing was known
      have hnone : (e.callId.isNone && e.name.isNone) = false := by
        rw [isNone_and_isNone, he]; rfl
      have hknown : (h ++ [e]).any (·.identifies) = true := by simp [he]
      simp only [step?, hnone, Bool.false_eq_true, if_false, hknown, if_true]
      rw [← ofHistory_of_unknown h hunknown, observe_ofHistory h e hknown]

theorem run?_none (h : List ToolCallDelta) :
    run? none h = if h.any (·.identifies) then some (ofHistory h) else none := by
  induction h using List.reverseRecOn with
  | nil => rfl
  | append_singleton h e ih => rw [run?_append_singleton, ih, step?_ofHistory]

theorem step?_run? (h : List ToolCallDelta) (e : ToolCallDelta) :
    step? (run? none h) e = (run? none (h ++ [e]), stepActions h e) := by
  rw [run?_none, run?_none, step?_ofHistory]

theorem sent_none_append_singleton (h : List ToolCallDelta) (e : ToolCallDelta) :
    sent none (h ++ [e]) = sent none h ++ stepActions h e := by
  rw [sent_append_singleton, step?_run?]

/-! ## All that a call sends -/

/-- All that a call's deltas send: a started call its start and then every fragment as
progress, a think call the fragments the filter passes as thoughts, any other call nothing. -/
def sends (h : List ToolCallDelta) : List StreamAction :=
  let s := ofHistory h
  if s.started then s.startOf ++ (fragments h).flatMap s.emit
  else if s.isThink then (fragments h).flatMap s.emit
  else []

theorem known_of_name {h : List ToolCallDelta} {n : String} (hname : firstName h = some n) :
    h.any (·.identifies) = true := by
  obtain ⟨d, hd, hdn⟩ := List.exists_of_findSome?_eq_some hname
  exact List.any_eq_true.mpr ⟨d, hd, by simp [ToolCallDelta.identifies, hdn]⟩

theorem known_of_flowing {h : List ToolCallDelta} (hflow : (ofHistory h).flowing = true) :
    h.any (·.identifies) = true := by
  cases hname : firstName h with
  | some n => exact known_of_name hname
  | none => simp [flowing, ofHistory, hname] at hflow

theorem emit_eq_of {s t : CallState} (hthink : s.isThink = t.isThink)
    (hid : t.isThink = false → s.toolCallId = t.toolCallId) : s.emit = t.emit := by
  unfold emit
  cases ht : t.isThink
  · rw [hthink, ht, hid ht]
  · rw [hthink, ht]
    simp

theorem named_of_started {h : List ToolCallDelta} (hstarted : (ofHistory h).started = true) :
    ∃ id n, firstId h = some id ∧ firstName h = some n ∧ n ≠ thinkTool := by
  cases hid : firstId h with
  | none => simp [ofHistory, hid] at hstarted
  | some id =>
      cases hn : firstName h with
      | none => simp [ofHistory, hn] at hstarted
      | some n =>
          refine ⟨id, n, rfl, rfl, ?_⟩
          intro hthink
          simp [ofHistory, hid, hn, hthink] at hstarted

theorem ofHistory_of_named {h : List ToolCallDelta} {id n : String} (hid : firstId h = some id)
    (hn : firstName h = some n) (hthink : n ≠ thinkTool) :
    ofHistory h = ⟨some id, some n, false, true, []⟩ := by
  simp [ofHistory, hid, hn, hthink]

theorem ofHistory_append_of_started {h : List ToolCallDelta} (e : ToolCallDelta)
    (hstarted : (ofHistory h).started = true) :
    ofHistory (h ++ [e]) = ofHistory h := by
  obtain ⟨id, n, hid, hn, hthink⟩ := named_of_started hstarted
  have hid' : firstId (h ++ [e]) = some id := by simp [firstId_append_singleton, hid]
  have hn' : firstName (h ++ [e]) = some n := by simp [firstName_append_singleton, hn]
  rw [ofHistory_of_named hid' hn' hthink, ofHistory_of_named hid hn hthink]

theorem sends_append_singleton (h : List ToolCallDelta) (e : ToolCallDelta) :
    sends (h ++ [e]) = sends h ++ stepActions h e := by
  by_cases hs : (ofHistory h).started = true
  · -- a started call stays as it is: each later fragment goes out as progress
    have hsame := ofHistory_append_of_started e hs
    have hknown : (h ++ [e]).any (·.identifies) = true := by
      simp [known_of_flowing (h := h) (by simp [flowing, hs])]
    have hpending : (ofHistory h).pending = [] := by
      simp only [ofHistory] at hs ⊢
      simp [hs]
    simp [sends, stepActions, hsame, hs, flowing, hpending, fragments_append_singleton h e hknown]
  · by_cases ht : (ofHistory h).isThink = true
    · have ht' := isThink_append_singleton e ht
      have hs' : (ofHistory (h ++ [e])).started = false := by
        simp only [ofHistory] at ht' ⊢
        simp [ht']
      have hknown : (h ++ [e]).any (·.identifies) = true := by
        simp [known_of_flowing (h := h) (by simp [flowing, ht])]
      have hpending : (ofHistory h).pending = [] := by
        simp only [ofHistory] at ht ⊢
        simp [ht]
      have hemit : (ofHistory (h ++ [e])).emit = (ofHistory h).emit :=
        emit_eq_of (by rw [ht, ht']) (by simp [ht])
      simp [sends, stepActions, hs, hs', ht, ht', flowing, hpending, hemit,
        fragments_append_singleton h e hknown]
    · -- the call waits: it sent nothing, and holds all its fragments
      have hpending : (ofHistory h).pending = fragments h := by
        show (if ((ofHistory h).started || (ofHistory h).isThink) = true then [] else fragments h) =
          fragments h
        rw [if_neg (by simp [hs, ht])]
      by_cases hflow : (ofHistory (h ++ [e])).flowing = true
      · have hknown := known_of_flowing hflow
        simp only [flowing] at hflow
        by_cases hs' : (ofHistory (h ++ [e])).started = true
        · simp [sends, stepActions, hs, ht, hs', flowing, hpending,
            fragments_append_singleton h e hknown]
        · have ht' : (ofHistory (h ++ [e])).isThink = true := by simpa [hs'] using hflow
          simp [sends, stepActions, hs, ht, hs', ht', flowing, hpending,
            fragments_append_singleton h e hknown]
      · simp only [flowing, Bool.or_eq_true, not_or] at hflow
        simp [sends, stepActions, hs, ht, hflow, flowing]

theorem sent_none (h : List ToolCallDelta) : sent none h = sends h := by
  induction h using List.reverseRecOn with
  | nil => rfl
  | append_singleton h e ih => rw [sent_none_append_singleton, sends_append_singleton, ih]

end CallState

end Session
end AcpBridge
