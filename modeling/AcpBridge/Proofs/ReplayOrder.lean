import Mathlib
import AcpBridge.Replay

/-!
# A replay, item by item

`Subscriber.applyItem` says what one trace item does, with no counting: an event is handled, a
chunk of the token stream goes down the token path, usage is recorded into the totals, and a new
turn resets the tracker. Only a chunk can fail. `Subscriber.applyItems` applies items in order
and stops at the first failure.

A replay is that run, counted (`replay_in_order`). When every item goes through, it counts the
event items, the chunks, and the turns, one more than the new-turn items. When a chunk fails,
the replay ends with that chunk's internal error of the token path, in the state the chunk left:
the items before it were all applied and none after it is.
-/

namespace AcpBridge

open Bridge Session

namespace Bridge.Subscriber

def applyItem (s : Subscriber) : TraceItem → Subscriber × Except BridgeError Unit
  | .event e => (s.handle e, .ok ())
  | .token c => s.onToken c
  | .usage u cost => (s.record u cost, .ok ())
  | .newTurn => (s.resetTurn, .ok ())

def applyItems (s : Subscriber) : List TraceItem → Subscriber × Except BridgeError Unit
  | [] => (s, .ok ())
  | item :: rest =>
    match s.applyItem item with
    | (s', .ok ()) => s'.applyItems rest
    | (s', .error e) => (s', .error e)

def tagged (tag : String) (items : List TraceItem) : Nat := items.countP (·.tag == tag)

theorem tagged_cons (tag : String) (item : TraceItem) (rest : List TraceItem) :
    tagged tag (item :: rest) = tagged tag [item] + tagged tag rest := by
  rw [tagged, tagged, tagged, ← List.countP_append, List.singleton_append]

variable {s : Subscriber}

theorem onToken_error {c : Agent.StreamChunk} {s' : Subscriber} {e : BridgeError}
    (h : s.onToken c = (s', .error e)) : ∃ d, e = .internal ErrorPolicy.tokenStreamingReason d := by
  unfold onToken at h
  rcases hrun : s.streamDeltas (c.choices.filterMap (·.delta)) with ⟨s₁, inner | ⟨⟩⟩
  · rw [hrun] at h
    cases h
    exact ⟨inner.message, rfl⟩
  · rw [hrun] at h
    cases h

theorem feed_eq (sum : Summary) (item : TraceItem) :
    s.feed sum item = ((s.applyItem item).1, (s.applyItem item).2.map fun _ =>
      ⟨sum.events + tagged "event" [item], sum.tokens + tagged "token" [item],
        sum.turns + tagged "new_turn" [item]⟩) := by
  cases item with
  | token c =>
    -- only a chunk has two outcomes, and the summary moves only on the good one
    rcases htoken : s.onToken c with ⟨s₁, e | ⟨⟩⟩
    · simp [feed, applyItem, htoken, Except.map]
    · simp [feed, applyItem, htoken, Except.map, tagged, TraceItem.tag]
  | event e => simp [feed, applyItem, Except.map, tagged, TraceItem.tag]
  | usage u cost => simp [feed, applyItem, Except.map, tagged, TraceItem.tag]
  | newTurn => simp [feed, applyItem, Except.map, tagged, TraceItem.tag]

theorem feedAll_eq (sum : Summary) (items : List TraceItem) :
    s.feedAll sum items = ((s.applyItems items).1, (s.applyItems items).2.map fun _ =>
      ⟨sum.events + tagged "event" items, sum.tokens + tagged "token" items,
        sum.turns + tagged "new_turn" items⟩) := by
  induction items generalizing s sum with
  | nil => rfl
  | cons item rest ih =>
    rcases happly : s.applyItem item with ⟨s₁, e | ⟨⟩⟩
    · simp [feedAll, applyItems, feed_eq, happly, Except.map]
    · -- the rest is fed from the summary the item leaves, which counts the item
      simp only [feedAll, applyItems, feed_eq, happly, Except.map, ih, tagged_cons "event" item rest,
        tagged_cons "token" item rest, tagged_cons "new_turn" item rest, Nat.add_assoc]

theorem applyItems_of_error {items : List TraceItem} {s' : Subscriber} {e : BridgeError}
    (h : s.applyItems items = (s', .error e)) :
    ∃ pre c post s₀, items = pre ++ .token c :: post ∧ s.applyItems pre = (s₀, .ok ()) ∧
      s₀.onToken c = (s', .error e) := by
  induction items generalizing s with
  | nil => cases h
  | cons item rest ih =>
    rcases happly : s.applyItem item with ⟨s₁, e₁ | ⟨⟩⟩
    · -- the first item fails, so it is a chunk: events, usage and new turns always go through
      simp only [applyItems, happly, Prod.mk.injEq, Except.error.injEq] at h
      obtain ⟨rfl, rfl⟩ := h
      cases item with
      | token c => exact ⟨[], c, rest, s, rfl, rfl, happly⟩
      | event _ => cases happly
      | usage _ _ => cases happly
      | newTurn => cases happly
    · simp only [applyItems, happly] at h
      obtain ⟨pre, c, post, s₀, rfl, hpre, hc⟩ := ih h
      exact ⟨item :: pre, c, post, s₀, rfl, by simp [applyItems, happly, hpre], hc⟩

end Bridge.Subscriber

open Bridge.Subscriber

/-- Trace replay order and early exit. A replay applies its items strictly in order: an event
item is handled, a chunk goes down the token path, usage is recorded into the totals, and a new
turn resets the tracker, stopping at the first failure; it ends in the state that run ends in.
If the run goes through, the replay returns the number of event items, the number of chunks,
and one turn more than the new-turn items. If it fails, the failure is a chunk's: the items
before it all went through, the chunk failed from the state they left with an internal error
of the token path, and the replay returns that error in the state the chunk left, no later item
applied. -/
theorem replay_in_order (s : Subscriber) (items : List TraceItem) :
    s.replay items = ((s.applyItems items).1, (s.applyItems items).2.map fun _ =>
        ⟨tagged "event" items, tagged "token" items, 1 + tagged "new_turn" items⟩) ∧
      ∀ s' e, s.applyItems items = (s', .error e) →
        ∃ pre c post s₀ d, items = pre ++ .token c :: post ∧ s.applyItems pre = (s₀, .ok ()) ∧
          s₀.onToken c = (s', .error e) ∧ e = .internal ErrorPolicy.tokenStreamingReason d := by
  refine ⟨?_, fun s' e h => ?_⟩
  · -- a replay feeds from the summary of no events, no chunks and its first turn
    rw [replay, feedAll_eq]
    simp
  · obtain ⟨pre, c, post, s₀, hsplit, hpre, hc⟩ := applyItems_of_error h
    obtain ⟨d, hd⟩ := onToken_error hc
    exact ⟨pre, c, post, s₀, d, hsplit, hpre, hc, hd⟩

-- On a closed line the chunk that starts a call fails to send the start, and the new turn after
-- it is never taken: the tracker keeps the call the chunk started.
example :
    let s : Subscriber := ⟨"s", true, "m", false, .empty, .empty, ⟨.queue 4 .stopped, {}, []⟩⟩
    let r := s.replay [.token (.toolCall 0 (some "call_1") (some "terminal") none), .newTurn]
    r.1.tracker.size = 1 ∧
      r.2 = .error (.internal ErrorPolicy.tokenStreamingReason "Connection closed") := by
  decide +kernel

end AcpBridge
