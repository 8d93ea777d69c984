import Mathlib
import AcpBridge.Proofs.CallHistory

/-!
# The token path shared by several callers

One subscriber may be fed by several callers at once. Folding a tool-call delta into the
tracker is one atomic step under the tracker's lock; the actions it returns are then sent one
by one, each send a step of its own, after the lock is released. A send may be refused; the
caller then drops the rest of what it held and returns the error, and it may call again.
`reset_turn` may come between any two steps.

`Streaming.Step` is that step relation over the tracker, the turn, what each caller holds and
the log of sends the client answered.

## What the order of sends is

A client can take a progress update before the start of its call: when the start's send was
refused, or when another caller committed the start and has not sent it yet
(`start_can_trail_progress`). What does hold in every run is that an accepted progress
follows a send of its start, accepted or refused, unless the start is one that another
caller was still holding when the progress went out (`progress_follows_start`).

## Observing a delta opens its call first

The actions one delta returns are those of its own index: a start, if any, comes first, and a
progress comes only from a call that had started before or that this delta starts
(`Tracker.observe_opens`).
-/

namespace AcpBridge
namespace Session

open Agent

namespace StreamAction

def isStart : StreamAction → Bool
  | .start _ _ => true
  | _ => false

def isProgress : StreamAction → Bool
  | .progress _ _ => true
  | _ => false

end StreamAction

def opensWithStart (actions : List StreamAction) : Bool :=
  actions.head?.any StreamAction.isStart

theorem opensWithStart_iff {actions : List StreamAction} :
    opensWithStart actions = true ↔ ∃ a rest, actions = a :: rest ∧ a.isStart = true := by
  cases actions with
  | nil => simp [opensWithStart]
  | cons a rest => simp [opensWithStart]

theorem StreamAction.isProgress_of_isStart {a : StreamAction} (h : a.isStart = true) :
    a.isProgress = false := by
  cases a <;> simp_all [isStart, isProgress]

namespace CallState

theorem isStart_of_mem_emit {s : CallState} {fragment : String} {a : StreamAction}
    (ha : a ∈ s.emit fragment) : a.isStart = false := by
  unfold emit at ha
  split at ha
  · split at ha
    · rw [List.mem_singleton.mp ha]
      rfl
    · cases ha
  · split at ha
    · rw [List.mem_singleton.mp ha]
      rfl
    · cases ha

theorem isThink_of_progress_mem_emit {s : CallState} {fragment : String} {a : StreamAction}
    (ha : a ∈ s.emit fragment) (hp : a.isProgress = true) : s.isThink = false := by
  unfold emit at ha
  split at ha
  · split at ha
    · rw [List.mem_singleton.mp ha] at hp
      cases hp
    · cases ha
  · rename_i hthink
    simpa using hthink

theorem started_identify (s : CallState) (d : ToolCallDelta) :
    (s.identify d).started = s.started := by
  unfold identify
  split <;> dsimp only <;> split <;> rfl

theorem startOf_of_ready {s : CallState} (hready : s.ready = true) :
    ∃ id n, s.startOf = [.start id n] := by
  unfold ready at hready
  simp only [Bool.and_eq_true] at hready
  obtain ⟨⟨-, hid⟩, hn⟩ := hready
  obtain ⟨id, hid⟩ := Option.isSome_iff_exists.mp hid
  obtain ⟨n, hn⟩ := Option.isSome_iff_exists.mp hn
  exact ⟨id, n, by simp [startOf, hid, hn]⟩

theorem observe_opens (s : CallState) (d : ToolCallDelta) :
    (∀ a ∈ (s.observe d).2.tail, a.isStart = false) ∧
      ((s.observe d).1.started = true → s.started = true ∨ opensWithStart (s.observe d).2) ∧
      (∀ a ∈ (s.observe d).2, a.isProgress = true →
        s.started = true ∨ opensWithStart (s.observe d).2) := by
  set s' := s.identify d with hs'
  have hstarted : s'.started = s.started := started_identify s d
  -- what flows out after the start, if any, holds no start
  have hflow : ∀ a ∈ (if s'.started || s'.ready || s'.isThink then
      (s'.pending ++ d.arguments.toList).flatMap s'.emit else []), a.isStart = false := by
    intro a ha
    split at ha
    · obtain ⟨f, -, hf⟩ := List.mem_flatMap.mp ha
      exact isStart_of_mem_emit hf
    · cases ha
  rw [observe_eq_settle, settle_fst, settle_snd, ← hs']
  refine ⟨?_, ?_, ?_⟩
  · intro a ha
    by_cases hready : s'.ready = true
    · obtain ⟨id, n, hstart⟩ := startOf_of_ready hready
      rw [if_pos hready, hstart, List.singleton_append, List.tail_cons] at ha
      exact hflow a ha
    · rw [if_neg hready, List.nil_append] at ha
      exact hflow a (List.mem_of_mem_tail ha)
  · intro hnow
    by_cases hready : s'.ready = true
    · obtain ⟨id, n, hstart⟩ := startOf_of_ready hready
      right
      rw [if_pos hready, hstart]
      rfl
    · left
      simpa [hready, hstarted] using hnow
  · intro a ha hp
    by_cases hready : s'.ready = true
    · obtain ⟨id, n, hstart⟩ := startOf_of_ready hready
      right
      rw [if_pos hready, hstart]
      rfl
    · left
      rw [if_neg hready, List.nil_append] at ha
      split at ha
      · rename_i hgate
        obtain ⟨f, -, hf⟩ := List.mem_flatMap.mp ha
        have hthink := isThink_of_progress_mem_emit hf hp
        rw [← hstarted]
        simpa [hready, hthink] using hgate
      · cases ha

end CallState

namespace Tracker

def startedAt (t : Tracker) (i : Nat) : Bool := ((t.state? i).map (·.started)).getD false

@[simp] theorem startedAt_empty (i : Nat) : Tracker.empty.startedAt i = false := rfl

theorem opens_step? (s : Option CallState) (d : ToolCallDelta) :
    (∀ a ∈ (CallState.step? s d).2.tail, a.isStart = false) ∧
      (((CallState.step? s d).1.map (·.started)).getD false = true →
        (s.map (·.started)).getD false = true ∨ opensWithStart (CallState.step? s d).2) ∧
      (∀ a ∈ (CallState.step? s d).2, a.isProgress = true →
        (s.map (·.started)).getD false = true ∨ opensWithStart (CallState.step? s d).2) := by
  cases s with
  | some s => exact CallState.observe_opens s d
  | none =>
      simp only [CallState.step?]
      split
      · exact ⟨by simp, by simp, by simp⟩
      · exact CallState.observe_opens CallState.empty d

theorem observe_opens (t : Tracker) (d : ToolCallDelta) :
    (∀ a ∈ (t.observe d).2.tail, a.isStart = false) ∧
      (∀ i, (t.observe d).1.startedAt i = true →
        t.startedAt i = true ∨ (i = d.index ∧ opensWithStart (t.observe d).2)) ∧
      (∀ a ∈ (t.observe d).2, a.isProgress = true →
        t.startedAt d.index = true ∨ opensWithStart (t.observe d).2) := by
  obtain ⟨htail, hstarted, hprogress⟩ := opens_step? (t.state? d.index) d
  rw [actions_observe]
  refine ⟨htail, ?_, hprogress⟩
  intro i hi
  unfold startedAt at hi
  rw [state?_observe] at hi
  by_cases hidx : i = d.index
  · rw [if_pos hidx] at hi
    subst hidx
    rcases hstarted hi with h | h
    · exact .inl h
    · exact .inr ⟨rfl, h⟩
  · rw [if_neg hidx] at hi
    exact .inl hi

end Tracker

/-! ## Callers sharing the token path -/

/-- An action a caller holds between the observe that returned it and its send, with the turn
and the stream index it was observed in. -/
structure Held where
  turn : Nat
  index : Nat
  action : StreamAction

def Held.Opens (h : Held) (turn index : Nat) : Prop :=
  h.action.isStart = true ∧ h.turn = turn ∧ h.index = index

/-- A send the client answered: who sent what, and whether the client took it. -/
structure Delivery where
  caller : Nat
  held : Held
  accepted : Bool

/-- The token path of one subscriber, shared by callers numbered from 0. -/
structure Streaming where
  tracker : Tracker
  turn : Nat
  holding : Nat → List Held
  log : List Delivery

namespace Streaming

def initial : Streaming := ⟨.empty, 0, fun _ => [], []⟩

def batch (s : Streaming) (d : ToolCallDelta) : List Held :=
  (s.tracker.observe d).2.map (⟨s.turn, d.index, ·⟩)

def observed (s : Streaming) (c : Nat) (d : ToolCallDelta) : Streaming :=
  { s with
    tracker := (s.tracker.observe d).1
    holding := Function.update s.holding c (s.batch d) }

def delivered (s : Streaming) (c : Nat) (h : Held) (rest : List Held) (accepted : Bool) :
    Streaming :=
  { s with
    holding := Function.update s.holding c (if accepted then rest else [])
    log := s.log ++ [⟨c, h, accepted⟩] }

def ended (s : Streaming) : Streaming := { s with tracker := s.tracker.reset, turn := s.turn + 1 }

@[simp] theorem observed_tracker (s : Streaming) (c : Nat) (d : ToolCallDelta) :
    (s.observed c d).tracker = (s.tracker.observe d).1 := rfl
@[simp] theorem observed_turn (s : Streaming) (c : Nat) (d : ToolCallDelta) :
    (s.observed c d).turn = s.turn := rfl
@[simp] theorem observed_holding (s : Streaming) (c : Nat) (d : ToolCallDelta) :
    (s.observed c d).holding = Function.update s.holding c (s.batch d) := rfl
@[simp] theorem observed_log (s : Streaming) (c : Nat) (d : ToolCallDelta) :
    (s.observed c d).log = s.log := rfl

@[simp] theorem delivered_tracker (s : Streaming) (c : Nat) (h : Held) (rest : List Held)
    (accepted : Bool) : (s.delivered c h rest accepted).tracker = s.tracker := rfl
@[simp] theorem delivered_turn (s : Streaming) (c : Nat) (h : Held) (rest : List Held)
    (accepted : Bool) : (s.delivered c h rest accepted).turn = s.turn := rfl
@[simp] theorem delivered_holding (s : Streaming) (c : Nat) (h : Held) (rest : List Held)
    (accepted : Bool) :
    (s.delivered c h rest accepted).holding =
      Function.update s.holding c (if accepted then rest else []) := rfl
@[simp] theorem delivered_log (s : Streaming) (c : Nat) (h : Held) (rest : List Held)
    (accepted : Bool) : (s.delivered c h rest accepted).log = s.log ++ [⟨c, h, accepted⟩] := rfl

@[simp] theorem ended_tracker (s : Streaming) : s.ended.tracker = .empty := rfl
@[simp] theorem ended_turn (s : Streaming) : s.ended.turn = s.turn + 1 := rfl
@[simp] theorem ended_holding (s : Streaming) : s.ended.holding = s.holding := rfl
@[simp] theorem ended_log (s : Streaming) : s.ended.log = s.log := rfl

inductive Step : Streaming → Streaming → Prop
  | observe (s : Streaming) (c : Nat) (d : ToolCallDelta) (hfree : s.holding c = []) :
      Step s (s.observed c d)
  | deliver (s : Streaming) (c : Nat) (h : Held) (rest : List Held) (accepted : Bool)
      (hhead : s.holding c = h :: rest) :
      Step s (s.delivered c h rest accepted)
  | reset (s : Streaming) : Step s s.ended

inductive Reachable : Streaming → Prop
  | initial : Reachable initial
  | step {s s' : Streaming} : Reachable s → Step s s' → Reachable s'

def sequence (s : Streaming) (c : Nat) : List Held :=
  (s.log.filter (·.caller == c)).map (·.held) ++ s.holding c

theorem sequence_observe {s : Streaming} {c : Nat} (d : ToolCallDelta) (hfree : s.holding c = [])
    (c' : Nat) :
    (s.observed c d).sequence c' =
      if c' = c then s.sequence c ++ s.batch d else s.sequence c' := by
  unfold sequence
  by_cases hc : c' = c
  · subst hc
    simp [hfree]
  · simp [hc]

theorem sequence_deliver {s : Streaming} {c : Nat} {h : Held} {rest : List Held}
    (hhead : s.holding c = h :: rest) (accepted : Bool) (c' : Nat) :
    (s.delivered c h rest accepted).sequence c' =
      if c' = c then (s.log.filter (·.caller == c)).map (·.held) ++ h :: (if accepted then rest else [])
      else s.sequence c' := by
  unfold sequence
  by_cases hc : c' = c
  · subst hc
    simp
  · simp [hc, Ne.symm hc, List.filter_append]

theorem split_append {α : Type} {xs ys pre post : List α} {x : α}
    (hsplit : xs ++ ys = pre ++ x :: post) :
    (∃ post', xs = pre ++ x :: post') ∨ ∃ pre', pre = xs ++ pre' ∧ ys = pre' ++ x :: post := by
  rcases List.append_eq_append_iff.mp hsplit with ⟨a', hpre, hys⟩ | ⟨c', hxs, hpost⟩
  · exact .inr ⟨a', hpre, hys⟩
  · cases c' with
    | nil => exact .inr ⟨[], by simpa using hxs.symm, by simpa using hpost.symm⟩
    | cons y c'' =>
        obtain ⟨rfl, rfl⟩ := List.cons.inj hpost
        exact .inl ⟨c'', hxs⟩

theorem mem_batch {s : Streaming} {d : ToolCallDelta} {h : Held} (hh : h ∈ s.batch d) :
    h.turn = s.turn ∧ h.index = d.index ∧ h.action ∈ (s.tracker.observe d).2 := by
  obtain ⟨a, ha, rfl⟩ := List.mem_map.mp hh
  exact ⟨rfl, rfl, ha⟩

theorem sequence_deliver_prefix {s : Streaming} {c : Nat} {h : Held} {rest : List Held}
    (hhead : s.holding c = h :: rest) (accepted : Bool) (c' : Nat) :
    (s.delivered c h rest accepted).sequence c' <+: s.sequence c' := by
  rw [sequence_deliver hhead]
  split
  · rename_i hc
    subst hc
    unfold sequence
    rw [hhead]
    cases accepted
    · exact ⟨rest, by simp⟩
    · exact List.prefix_refl _
  · exact List.prefix_refl _

/-! ## The invariant of every run -/

/-- What every run keeps. -/
structure Ordered (s : Streaming) : Prop where
  held_tail : ∀ c, ∀ h ∈ (s.holding c).tail, h.action.isStart = false
  started : ∀ i, s.tracker.startedAt i = true → ∃ c, ∃ h ∈ s.sequence c, h.Opens s.turn i
  opened : ∀ c pre h post, s.sequence c = pre ++ h :: post → h.action.isProgress = true →
    (∃ h' ∈ pre, h'.Opens h.turn h.index) ∨
      ∃ c', c' ≠ c ∧ ∃ h' ∈ s.sequence c', h'.Opens h.turn h.index

theorem ordered_initial : initial.Ordered where
  held_tail _ _ h := by cases h
  started _ h := by cases h
  opened _ _ _ _ hseq := by simp [sequence, initial] at hseq

theorem Step.keeps_start {s s' : Streaming} (hstep : Step s s') (hs : s.Ordered) {c : Nat}
    {h : Held} (hh : h ∈ s.sequence c) (hstart : h.action.isStart = true) : h ∈ s'.sequence c := by
  cases hstep with
  | observe c₀ d hfree =>
      rw [sequence_observe d hfree]
      split
      · rename_i hc
        subst hc
        exact List.mem_append_left _ hh
      · exact hh
  | deliver c₀ h₀ rest accepted hhead =>
      rw [sequence_deliver hhead]
      split
      · rename_i hc
        subst hc
        unfold sequence at hh
        rw [hhead] at hh
        rcases List.mem_append.mp hh with hlog | hheld
        · exact List.mem_append_left _ hlog
        · rcases List.mem_cons.mp hheld with rfl | hrest
          · exact List.mem_append_right _ List.mem_cons_self
          · -- the dropped rest holds no start
            have hno := hs.held_tail c h (by rw [hhead]; exact hrest)
            rw [hno] at hstart
            cases hstart
      · exact hh
  | reset => exact hh

theorem opened_of_kept {s s' : Streaming} (hstep : Step s s') (hs : s.Ordered) {c : Nat}
    {pre : List Held} {h : Held} (hold : ∃ post', s.sequence c = pre ++ h :: post')
    (hp : h.action.isProgress = true) :
    (∃ h' ∈ pre, h'.Opens h.turn h.index) ∨
      ∃ c', c' ≠ c ∧ ∃ h' ∈ s'.sequence c', h'.Opens h.turn h.index := by
  obtain ⟨post', hold⟩ := hold
  rcases hs.opened c pre h post' hold hp with hpre | ⟨c', hne, h', hmem, hopens⟩
  · exact .inl hpre
  · exact .inr ⟨c', hne, h', hstep.keeps_start hs hmem hopens.1, hopens⟩

theorem batch_opens {s : Streaming} {d : ToolCallDelta}
    (hopen : opensWithStart (s.tracker.observe d).2 = true) :
    ∃ a rest, s.batch d = ⟨s.turn, d.index, a⟩ :: rest ∧ a.isStart = true := by
  obtain ⟨a, rest, hacts, ha⟩ := opensWithStart_iff.mp hopen
  exact ⟨a, rest.map (⟨s.turn, d.index, ·⟩), by simp [batch, hacts], ha⟩

theorem opened_of_batch {s : Streaming} (hs : s.Ordered) {c : Nat} {d : ToolCallDelta}
    (hfree : s.holding c = []) {pre post : List Held} {h : Held}
    (hbatch : s.batch d = pre ++ h :: post) (hp : h.action.isProgress = true) :
    (∃ h' ∈ s.sequence c ++ pre, h'.Opens h.turn h.index) ∨
      ∃ c', c' ≠ c ∧ ∃ h' ∈ (s.observed c d).sequence c', h'.Opens h.turn h.index := by
  have hmem : h ∈ s.batch d := by
    rw [hbatch]
    exact List.mem_append_right _ List.mem_cons_self
  obtain ⟨hturn, hidx, hact⟩ := mem_batch hmem
  rw [hturn, hidx]
  rcases (Tracker.observe_opens s.tracker d).2.2 h.action hact hp with hold | hopen
  · -- the call had started: its start is in some caller's sequence
    obtain ⟨c', h', hmem', hopens⟩ := hs.started d.index hold
    by_cases hc : c' = c
    · subst hc
      exact .inl ⟨h', List.mem_append_left _ hmem', hopens⟩
    · refine .inr ⟨c', hc, h', ?_, hopens⟩
      rw [sequence_observe d hfree, if_neg hc]
      exact hmem'
  · -- the batch opens with the start, so the progress is not its head
    obtain ⟨a, rest, hbatch', ha⟩ := batch_opens hopen
    rw [hbatch'] at hbatch
    cases pre with
    | nil =>
        obtain ⟨rfl, -⟩ := List.cons.inj hbatch
        rw [StreamAction.isProgress_of_isStart ha] at hp
        cases hp
    | cons x pre' =>
        obtain ⟨rfl, -⟩ := List.cons.inj hbatch
        exact .inl ⟨_, List.mem_append_right _ List.mem_cons_self, ha, rfl, rfl⟩

theorem ordered_observe {s : Streaming} (hs : s.Ordered) (c : Nat) (d : ToolCallDelta)
    (hfree : s.holding c = []) :
    (s.observed c d).Ordered := by
  have hstep := Step.observe s c d hfree
  obtain ⟨htail, hstarted, -⟩ := Tracker.observe_opens s.tracker d
  constructor
  · intro c' h hh
    by_cases hc : c' = c
    · subst hc
      simp only [observed_holding, Function.update_self, batch, ← List.map_tail] at hh
      obtain ⟨a, ha, rfl⟩ := List.mem_map.mp hh
      exact htail a ha
    · simp only [observed_holding, Function.update_of_ne hc] at hh
      exact hs.held_tail c' h hh
  · intro i hi
    rcases hstarted i hi with hold | ⟨rfl, hopen⟩
    · obtain ⟨c', h, hmem, hopens⟩ := hs.started i hold
      exact ⟨c', h, hstep.keeps_start hs hmem hopens.1, hopens⟩
    · obtain ⟨a, rest, hbatch, ha⟩ := batch_opens hopen
      refine ⟨c, ⟨s.turn, d.index, a⟩, ?_, ha, rfl, rfl⟩
      rw [sequence_observe d hfree, if_pos rfl, hbatch]
      exact List.mem_append_right _ List.mem_cons_self
  · intro c₀ pre h post hseq hp
    rw [sequence_observe d hfree] at hseq
    split at hseq
    · rename_i hc
      subst hc
      rcases split_append hseq with hold | ⟨pre', rfl, hbatch⟩
      · exact opened_of_kept hstep hs hold hp
      · exact opened_of_batch hs hfree hbatch hp
    · exact opened_of_kept hstep hs ⟨post, hseq⟩ hp

theorem ordered_deliver {s : Streaming} (hs : s.Ordered) {c : Nat} {h : Held} {rest : List Held}
    (accepted : Bool) (hhead : s.holding c = h :: rest) :
    (s.delivered c h rest accepted).Ordered := by
  have hstep := Step.deliver s c h rest accepted hhead
  constructor
  · intro c' h' hh
    by_cases hc : c' = c
    · subst hc
      simp only [delivered_holding, Function.update_self] at hh
      have hrest : h' ∈ rest := by
        cases accepted
        · cases hh
        · exact List.mem_of_mem_tail hh
      exact hs.held_tail c' h' (by rw [hhead]; exact hrest)
    · simp only [delivered_holding, Function.update_of_ne hc] at hh
      exact hs.held_tail c' h' hh
  · intro i hi
    obtain ⟨c', h', hmem, hopens⟩ := hs.started i hi
    exact ⟨c', h', hstep.keeps_start hs hmem hopens.1, hopens⟩
  · intro c₀ pre h' post hseq hp
    obtain ⟨dropped, hold⟩ := sequence_deliver_prefix hhead accepted c₀
    rw [hseq, List.append_assoc, List.cons_append] at hold
    exact opened_of_kept hstep hs ⟨post ++ dropped, hold.symm⟩ hp

theorem ordered_reset {s : Streaming} (hs : s.Ordered) :
    s.ended.Ordered where
  held_tail := hs.held_tail
  started i hi := by
    change Tracker.empty.startedAt i = true at hi
    simp at hi
  opened _ _ _ post hseq hp := opened_of_kept (Step.reset s) hs ⟨post, hseq⟩ hp

theorem Step.ordered {s s' : Streaming} (hstep : Step s s') (hs : s.Ordered) : s'.Ordered := by
  cases hstep with
  | observe c d hfree => exact ordered_observe hs c d hfree
  | deliver c h rest accepted hhead => exact ordered_deliver hs accepted hhead
  | reset => exact ordered_reset hs

theorem Reachable.ordered {s : Streaming} (hs : Reachable s) : s.Ordered := by
  induction hs with
  | initial => exact ordered_initial
  | step _ hstep ih => exact hstep.ordered ih

/-! ## The order a client sees -/

def StartsFirst (log : List Delivery) : Prop :=
  ∀ pre e post, log = pre ++ e :: post → e.accepted = true → e.held.action.isProgress = true →
    ∃ e' ∈ pre, e'.accepted = true ∧ e'.held.Opens e.held.turn e.held.index

/-- A progress sent to the client, taken or not, comes after a send of the start of its call,
taken or not, in the turn it was observed in; or else another caller committed that start and
had not sent it yet, and holds it still or sends it later. -/
theorem progress_follows_start {s : Streaming} (hs : s.Reachable) {pre post : List Delivery}
    {e : Delivery} (hlog : s.log = pre ++ e :: post) (hp : e.held.action.isProgress = true) :
    (∃ e' ∈ pre, e'.held.Opens e.held.turn e.held.index) ∨
      ∃ c, c ≠ e.caller ∧ ((∃ h ∈ s.holding c, h.Opens e.held.turn e.held.index) ∨
        ∃ e' ∈ post, e'.caller = c ∧ e'.held.Opens e.held.turn e.held.index) := by
  have hseq : s.sequence e.caller = (pre.filter (·.caller == e.caller)).map (·.held) ++
      e.held :: ((post.filter (·.caller == e.caller)).map (·.held) ++ s.holding e.caller) := by
    unfold sequence
    rw [hlog]
    simp [List.filter_append]
  rcases hs.ordered.opened e.caller _ e.held _ hseq hp with ⟨h, hmem, hopens⟩ | ⟨c, hne, h, hmem, hopens⟩
  · -- the start went out earlier from the same caller
    obtain ⟨e', he', rfl⟩ := List.mem_map.mp hmem
    exact .inl ⟨e', (List.mem_filter.mp he').1, hopens⟩
  · -- the start is another caller's: sent before, sent after, or still held
    unfold sequence at hmem
    rcases List.mem_append.mp hmem with hsent | hheld
    · obtain ⟨e', he', rfl⟩ := List.mem_map.mp hsent
      obtain ⟨he', hcaller⟩ := List.mem_filter.mp he'
      have hcaller : e'.caller = c := by simpa using hcaller
      rw [hlog] at he'
      rcases List.mem_append.mp he' with hpre | hrest
      · exact .inl ⟨e', hpre, hopens⟩
      · rcases List.mem_cons.mp hrest with rfl | hpost
        · exact absurd hcaller.symm hne
        · exact .inr ⟨c, hne, .inr ⟨e', hpost, hcaller, hopens⟩⟩
    · exact .inr ⟨c, hne, .inl ⟨h, hheld, hopens⟩⟩

def refusedStartRun : Streaming :=
  (((initial.observed 0 ⟨0, some "call_1", some ⟨some "terminal", none⟩⟩).delivered 0
    ⟨0, 0, .start "call_1" "terminal"⟩ [] false).observed 0
    ⟨0, none, some ⟨none, some "x"⟩⟩).delivered 0 ⟨0, 0, .progress "call_1" "x"⟩ [] true

theorem refusedStartRun_reachable : refusedStartRun.Reachable :=
  (((Reachable.initial.step (.observe _ 0 _ rfl)).step (.deliver _ 0 _ [] false rfl)).step
    (.observe _ 0 _ rfl)).step (.deliver _ 0 _ [] true rfl)

/-- Two callers and every send taken: caller 0 commits the start of call 0, caller 1 observes
the next delta of that call and sends its progress before caller 0 sends the start. -/
def overtakingRun : Streaming :=
  (((initial.observed 0 ⟨0, some "call_1", some ⟨some "terminal", none⟩⟩).observed 1
    ⟨0, none, some ⟨none, some "x"⟩⟩).delivered 1 ⟨0, 0, .progress "call_1" "x"⟩ [] true).delivered 0
    ⟨0, 0, .start "call_1" "terminal"⟩ [] true

theorem overtakingRun_reachable : overtakingRun.Reachable :=
  (((Reachable.initial.step (.observe _ 0 _ rfl)).step (.observe _ 1 _ rfl)).step
    (.deliver _ 1 _ [] true rfl)).step (.deliver _ 0 _ [] true rfl)

/-- A client can take a progress before any start of its call: with one caller whose start was
refused, and with two callers whose every send is taken. -/
theorem start_can_trail_progress :
    (refusedStartRun.Reachable ∧ (∀ e ∈ refusedStartRun.log, e.caller = 0) ∧
        ¬ StartsFirst refusedStartRun.log) ∧
      (overtakingRun.Reachable ∧ (∀ e ∈ overtakingRun.log, e.accepted = true) ∧
        ¬ StartsFirst overtakingRun.log) := by
  refine ⟨⟨refusedStartRun_reachable, by decide, ?_⟩, ⟨overtakingRun_reachable, by decide, ?_⟩⟩
  · intro hfirst
    obtain ⟨e', he', hacc, -⟩ := hfirst [⟨0, ⟨0, 0, .start "call_1" "terminal"⟩, false⟩]
      ⟨0, ⟨0, 0, .progress "call_1" "x"⟩, true⟩ [] rfl rfl rfl
    rw [List.mem_singleton] at he'
    subst he'
    cases hacc
  · intro hfirst
    obtain ⟨e', he', -⟩ := hfirst [] ⟨1, ⟨0, 0, .progress "call_1" "x"⟩, true⟩
      [⟨0, ⟨0, 0, .start "call_1" "terminal"⟩, true⟩] rfl rfl rfl
    cases he'

/-- In the overtaking run the progress went out while caller 0 held the start, which it sent
after. -/
theorem progress_follows_start_overtaken :
    let e : Delivery := ⟨1, ⟨0, 0, .progress "call_1" "x"⟩, true⟩
    let post : List Delivery := [⟨0, ⟨0, 0, .start "call_1" "terminal"⟩, true⟩]
    overtakingRun.Reachable ∧ overtakingRun.log = [] ++ e :: post ∧
      e.held.action.isProgress = true ∧
      ((∃ e' ∈ ([] : List Delivery), e'.held.Opens e.held.turn e.held.index) ∨
        ∃ c, c ≠ e.caller ∧ ((∃ h ∈ overtakingRun.holding c, h.Opens e.held.turn e.held.index) ∨
          ∃ e' ∈ post, e'.caller = c ∧ e'.held.Opens e.held.turn e.held.index)) :=
  ⟨overtakingRun_reachable, rfl, rfl, progress_follows_start overtakingRun_reachable rfl rfl⟩

end Streaming

end Session
end AcpBridge
