import AcpBridge.Replay
import AcpBridge.Proofs.CallHistory

/-!
# The token path on a client that takes everything

When every notification reaches the client and is taken, the token path never fails, and
what the client takes during a run of chunks is fixed by the tracker alone: for each delta of
each chunk, the updates its tool-call deltas ask for, in order, then its reasoning, then its
text (`feedAll_tokens`). The subscriber's other fields are left as they were.

## Accepting lines

`Line.Accepting` is the delivery that `feedAll_tokens` here, the replay lemmas of
`Proofs/ReplayRun`, `streamed_start_once` and `replay_metrics` assume: the client takes without
limit, and the route hands each notification over at once (inline, on a thread that may wait)
or through a queue whose consumer runs alongside the sender.
-/

namespace AcpBridge
namespace Bridge

open Session Agent

/-- A line on which every notification reaches the client and is taken. -/
def Line.Accepting (l : Line) : Prop :=
  l.client.limit = none ∧ (l.route = .inline false ∨ ∃ c, l.route = .queue c .alongside)

theorem Line.schedule_of_accepting {l : Line} (hl : l.Accepting) (n : Notification) :
    ∃ l', l.schedule n = (l', .ok ()) ∧ l'.client.taken = l.client.taken ++ [n] ∧
      l'.Accepting := by
  obtain ⟨hlimit, hroute⟩ := hl
  have hreceive := Client.receive_of_unlimited l.client n hlimit
  have hlimit' : (l.client.receive n).1.limit = none := by
    unfold Client.receive
    split <;> exact hlimit
  rcases hroute with hroute | ⟨c, hroute⟩
  · refine ⟨{ l with client := (l.client.receive n).1 }, ?_, hreceive.2, hlimit', .inl hroute⟩
    unfold schedule
    rw [hroute]
    dsimp only
    rw [← hreceive.1]
  · refine ⟨{ l with client := (l.client.receive n).1 }, ?_, hreceive.2, hlimit', .inr ⟨c, hroute⟩⟩
    unfold schedule
    rw [hroute]

namespace Subscriber

def toolDeltas (c : StreamChunk) : List ToolCallDelta :=
  (c.choices.filterMap (·.delta)).flatMap (·.toolCalls.getD [])

/-- What the token path sends for the deltas of chunks, from the tracker before them: for
each delta, the updates of its tool-call deltas, then its reasoning, then its text. -/
def tokenUpdates : Tracker → List Delta → List SessionUpdate
  | _, [] => []
  | t, d :: ds =>
    (t.trace (d.toolCalls.getD [])).flatten.map streamUpdate ++
      (d.reasoning.map SessionUpdate.thought).toList ++ (d.text.map SessionUpdate.message).toList ++
      tokenUpdates (t.observeAll (d.toolCalls.getD [])) ds

theorem tokenUpdates_append (t : Tracker) (ds es : List Delta) :
    tokenUpdates t (ds ++ es) =
      tokenUpdates t ds ++ tokenUpdates (t.observeAll (ds.flatMap (·.toolCalls.getD []))) es := by
  induction ds generalizing t with
  | nil => rfl
  | cons d ds ih => simp [tokenUpdates, ih, Tracker.observeAll_append]

variable {s : Subscriber}

@[simp] theorem notification_with_line (l : Line) :
    ({ s with line := l } : Subscriber).notification = s.notification := rfl

@[simp] theorem notification_with_tracker (t : Tracker) (l : Line) :
    ({ s with tracker := t, line := l } : Subscriber).notification = s.notification := rfl

theorem sendAll_of_accepting (hl : s.line.Accepting) (m : Bool) (us : List SessionUpdate) :
    ∃ l', s.sendAll m us = ({ s with line := l' }, .ok ()) ∧
      l'.client.taken = s.line.client.taken ++ us.map (s.notification · m) ∧ l'.Accepting := by
  induction us generalizing s with
  | nil => exact ⟨s.line, rfl, by simp, hl⟩
  | cons u rest ih =>
      obtain ⟨l₁, hsched, htaken₁, hl₁⟩ := Line.schedule_of_accepting hl (s.notification u m)
      obtain ⟨l₂, hrest, htaken₂, hl₂⟩ := ih (s := { s with line := l₁ }) hl₁
      refine ⟨l₂, ?_, ?_, hl₂⟩
      · simp only [sendAll, send, hsched]
        exact hrest
      · rw [htaken₂, htaken₁]
        simp

theorem toolCalls_of_accepting (hl : s.line.Accepting) (ds : List ToolCallDelta) :
    ∃ l', s.toolCalls ds = ({ s with tracker := s.tracker.observeAll ds, line := l' }, .ok ()) ∧
      l'.client.taken = s.line.client.taken ++
        ((s.tracker.trace ds).flatten.map streamUpdate).map (s.notification · false) ∧
      l'.Accepting := by
  induction ds generalizing s with
  | nil => exact ⟨s.line, rfl, by simp, hl⟩
  | cons d ds ih =>
      rcases hobserve : s.tracker.observe d with ⟨t₁, actions⟩
      obtain ⟨l₁, hsend, htaken₁, hl₁⟩ :=
        sendAll_of_accepting (s := { s with tracker := t₁ }) hl false (actions.map streamUpdate)
      obtain ⟨l₂, hrest, htaken₂, hl₂⟩ := ih (s := { s with tracker := t₁, line := l₁ }) hl₁
      refine ⟨l₂, ?_, ?_, hl₂⟩
      · simp only [toolCalls, hobserve, hsend]
        rw [hrest]
        simp [Tracker.observeAll, hobserve]
      · rw [htaken₂, htaken₁]
        simp [hobserve]

theorem streamDelta_of_accepting (hl : s.line.Accepting) (d : Delta) :
    ∃ l', s.streamDelta d =
        ({ s with tracker := s.tracker.observeAll (d.toolCalls.getD []), line := l' }, .ok ()) ∧
      l'.client.taken = s.line.client.taken ++
        ((s.tracker.trace (d.toolCalls.getD [])).flatten.map streamUpdate ++
          (d.reasoning.map SessionUpdate.thought).toList ++
          (d.text.map SessionUpdate.message).toList).map (s.notification · false) ∧
      l'.Accepting := by
  obtain ⟨l₁, hcalls, htaken₁, hl₁⟩ := toolCalls_of_accepting hl (d.toolCalls.getD [])
  let s₁ : Subscriber := { s with tracker := s.tracker.observeAll (d.toolCalls.getD []), line := l₁ }
  obtain ⟨l₂, hsend, htaken₂, hl₂⟩ := sendAll_of_accepting (s := s₁) hl₁ false
    ((d.reasoning.map SessionUpdate.thought).toList ++ (d.text.map SessionUpdate.message).toList)
  refine ⟨l₂, ?_, ?_, hl₂⟩
  · simp only [streamDelta, hcalls]
    exact hsend
  · rw [htaken₂, htaken₁]
    simp [s₁, List.append_assoc]

theorem streamDeltas_of_accepting (hl : s.line.Accepting) (ds : List Delta) :
    ∃ l', s.streamDeltas ds =
        ({ s with tracker := s.tracker.observeAll (ds.flatMap (·.toolCalls.getD [])), line := l' },
          .ok ()) ∧
      l'.client.taken = s.line.client.taken ++
        (tokenUpdates s.tracker ds).map (s.notification · false) ∧
      l'.Accepting := by
  induction ds generalizing s with
  | nil => exact ⟨s.line, rfl, by simp [tokenUpdates], hl⟩
  | cons d ds ih =>
      obtain ⟨l₁, hdelta, htaken₁, hl₁⟩ := streamDelta_of_accepting hl d
      obtain ⟨l₂, hrest, htaken₂, hl₂⟩ := ih (s := { s with
        tracker := s.tracker.observeAll (d.toolCalls.getD []), line := l₁ }) hl₁
      refine ⟨l₂, ?_, ?_, hl₂⟩
      · simp only [streamDeltas, hdelta]
        rw [hrest]
        simp [Tracker.observeAll_append]
      · rw [htaken₂, htaken₁]
        simp [tokenUpdates, List.append_assoc]

theorem onToken_of_accepting (hl : s.line.Accepting) (c : StreamChunk) :
    ∃ l', s.onToken c = ({ s with tracker := s.tracker.observeAll (toolDeltas c), line := l' },
        .ok ()) ∧
      l'.client.taken = s.line.client.taken ++
        (tokenUpdates s.tracker (c.choices.filterMap (·.delta))).map (s.notification · false) ∧
      l'.Accepting := by
  obtain ⟨l', hdeltas, htaken, hl'⟩ := streamDeltas_of_accepting hl (c.choices.filterMap (·.delta))
  refine ⟨l', ?_, htaken, hl'⟩
  simp only [onToken, hdeltas, ErrorPolicy.apply_ok]
  rfl

theorem feedAll_tokens (hl : s.line.Accepting) (sum : Summary) (chunks : List StreamChunk) :
    ∃ l', s.feedAll sum (chunks.map TraceItem.token) =
        ({ s with tracker := s.tracker.observeAll (chunks.flatMap toolDeltas), line := l' },
          .ok { sum with tokens := sum.tokens + chunks.length }) ∧
      l'.client.taken = s.line.client.taken ++
        (tokenUpdates s.tracker (chunks.flatMap (·.choices.filterMap (·.delta)))).map
          (s.notification · false) ∧
      l'.Accepting := by
  induction chunks generalizing s sum with
  | nil => exact ⟨s.line, rfl, by simp [tokenUpdates], hl⟩
  | cons c chunks ih =>
      obtain ⟨l₁, htoken, htaken₁, hl₁⟩ := onToken_of_accepting hl c
      obtain ⟨l₂, hrest, htaken₂, hl₂⟩ := ih (s := { s with
        tracker := s.tracker.observeAll (toolDeltas c), line := l₁ })
        hl₁ { sum with tokens := sum.tokens + 1 }
      refine ⟨l₂, ?_, ?_, hl₂⟩
      · simp only [List.map_cons, feedAll, feed, htoken]
        rw [hrest]
        simp [toolDeltas, Tracker.observeAll_append, Nat.add_assoc, Nat.add_comm 1]
      · rw [htaken₂, htaken₁]
        simp [tokenUpdates_append, toolDeltas]

end Subscriber

end Bridge
end AcpBridge
