import AcpBridge.Proofs.TokenPath

/-!
# A replay on a line that takes everything

When every notification reaches the client and is taken, a replay never fails, and what the
client takes is a pure function of the items. `Subscriber.sent` says what one item sends and
`Subscriber.after` what it leaves of the subscriber; the line plays no part in either
(`sent_with_line`, `after_with_line`).

* `feed_of_accepting` is the step: one item sends `sent` and leaves `after`.
* `feedAll_of_accepting` is the run: items send `sentAll`, one item's notifications after
  the other's.
* `steps_of_accepting` reads the run item by item: replayed one by one, the client takes
  during each item what `sent` says, from the state the items before it left.
-/

namespace AcpBridge
namespace Bridge
namespace Subscriber

open Session Agent

/-- What an item sends when every send is taken: an event its updates with the session's
metrics, a token chunk what the token path sends without them, usage and new turns
nothing. -/
def sent (s : Subscriber) : TraceItem → List Notification
  | .event e => (translate e s.streaming).map (s.notification · true)
  | .token c => (tokenUpdates s.tracker (c.choices.filterMap (·.delta))).map (s.notification · false)
  | .usage _ _ => []
  | .newTurn => []

def after (s : Subscriber) : TraceItem → Subscriber
  | .event _ => s
  | .token c => { s with tracker := s.tracker.observeAll (toolDeltas c) }
  | .usage u cost => s.record u cost
  | .newTurn => s.resetTurn

def afterAll (s : Subscriber) (items : List TraceItem) : Subscriber := items.foldl after s

def sentAll (s : Subscriber) : List TraceItem → List Notification
  | [] => []
  | item :: rest => s.sent item ++ (s.after item).sentAll rest

variable {s : Subscriber}

@[simp] theorem sent_with_line (l : Line) (item : TraceItem) :
    ({ s with line := l } : Subscriber).sent item = s.sent item := by
  cases item <;> rfl

@[simp] theorem after_with_line (l : Line) (item : TraceItem) :
    ({ s with line := l } : Subscriber).after item = { s.after item with line := l } := by
  cases item <;> rfl

@[simp] theorem afterAll_nil : s.afterAll [] = s := rfl

@[simp] theorem afterAll_cons (item : TraceItem) (rest : List TraceItem) :
    s.afterAll (item :: rest) = (s.after item).afterAll rest := rfl

theorem afterAll_with_line (l : Line) (items : List TraceItem) :
    ({ s with line := l } : Subscriber).afterAll items = { s.afterAll items with line := l } := by
  induction items generalizing s with
  | nil => rfl
  | cons item rest ih => rw [afterAll_cons, after_with_line, ih, afterAll_cons]

theorem sentAll_with_line (l : Line) (items : List TraceItem) :
    ({ s with line := l } : Subscriber).sentAll items = s.sentAll items := by
  induction items generalizing s with
  | nil => rfl
  | cons item rest ih => simp only [sentAll, sent_with_line, after_with_line, ih]

/-! ## Step and run -/

theorem feed_of_accepting (hl : s.line.Accepting) (sum : Summary) (item : TraceItem) :
    ∃ l' sum', s.feed sum item = ({ s.after item with line := l' }, .ok sum') ∧
      l'.client.taken = s.line.client.taken ++ s.sent item ∧ l'.Accepting := by
  cases item with
  | event e =>
    obtain ⟨l', hsend, htaken, hl'⟩ := sendAll_of_accepting hl true (translate e s.streaming)
    refine ⟨l', { sum with events := sum.events + 1 }, ?_, htaken, hl'⟩
    simp only [feed, handle, hsend]
    rfl
  | token c =>
    obtain ⟨l', htoken, htaken, hl'⟩ := onToken_of_accepting hl c
    refine ⟨l', { sum with tokens := sum.tokens + 1 }, ?_, htaken, hl'⟩
    simp only [feed, htoken]
    rfl
  | usage u cost => exact ⟨s.line, sum, rfl, by simp [sent], hl⟩
  | newTurn => exact ⟨s.line, { sum with turns := sum.turns + 1 }, rfl, by simp [sent], hl⟩

theorem feedAll_of_accepting (hl : s.line.Accepting) (sum : Summary) (items : List TraceItem) :
    ∃ l' sum', s.feedAll sum items = ({ s.afterAll items with line := l' }, .ok sum') ∧
      l'.client.taken = s.line.client.taken ++ s.sentAll items ∧ l'.Accepting := by
  induction items generalizing s sum with
  | nil => exact ⟨s.line, sum, rfl, by simp [sentAll], hl⟩
  | cons item rest ih =>
    obtain ⟨l₁, sum₁, hfeed, htaken₁, hl₁⟩ := feed_of_accepting hl sum item
    obtain ⟨l₂, sum₂, hrest, htaken₂, hl₂⟩ := ih (s := { s.after item with line := l₁ }) hl₁ sum₁
    refine ⟨l₂, sum₂, ?_, ?_, hl₂⟩
    · simp only [feedAll, hfeed]
      rw [hrest, afterAll_with_line, afterAll_cons]
    · rw [htaken₂, htaken₁, sentAll_with_line, sentAll, List.append_assoc]

theorem replay_of_accepting (hl : s.line.Accepting) (items : List TraceItem) :
    ∃ sum, (s.replay items).2 = .ok sum ∧
      (s.replay items).1.line.client.taken = s.line.client.taken ++ s.sentAll items := by
  obtain ⟨l', sum', hrun, htaken, -⟩ := feedAll_of_accepting hl {} items
  refine ⟨sum', ?_, ?_⟩
  · simp only [replay, hrun]
  · simp only [replay, hrun]
    exact htaken

theorem replay_taken_eq {l₁ l₂ : Line} (h₁ : l₁.Accepting) (h₂ : l₂.Accepting)
    (htaken : l₁.client.taken = l₂.client.taken) (items : List TraceItem) :
    (({ s with line := l₁ } : Subscriber).replay items).1.line.client.taken =
      (({ s with line := l₂ } : Subscriber).replay items).1.line.client.taken := by
  obtain ⟨-, -, hrun₁⟩ := replay_of_accepting (s := { s with line := l₁ }) h₁ items
  obtain ⟨-, -, hrun₂⟩ := replay_of_accepting (s := { s with line := l₂ }) h₂ items
  rw [hrun₁, hrun₂]
  simp only [sentAll_with_line]
  exact congrArg (· ++ s.sentAll items) htaken

end Subscriber

open Subscriber

/-! ## Item by item -/

theorem steps_of_accepting {s : Subscriber} (hl : s.line.Accepting) (items : List TraceItem) :
    (steps s items).map (·.item) = items ∧
      (steps s items).flatMap (·.delivered) = s.sentAll items ∧
      ∀ k st, (steps s items)[k]? = some st →
        st.delivered = (s.afterAll (items.take k)).sent st.item := by
  induction items generalizing s with
  | nil => exact ⟨rfl, rfl, fun k st h => by simp [steps] at h⟩
  | cons item rest ih =>
    obtain ⟨l', sum', hrun, htaken, hl'⟩ := feedAll_of_accepting hl {} [item]
    -- the item's deliveries are what its replay added to the client
    have hdelivered : (l'.client.taken).drop s.line.client.taken.length = s.sent item := by
      simp [htaken, sentAll]
    have hsteps : steps s (item :: rest) =
        ⟨item, s.sent item, (s.after item).tracker.size, .ok sum'⟩ ::
          steps { s.after item with line := l' } rest := by
      simp only [steps, replay, hrun, afterAll_cons, afterAll_nil, hdelivered]
    obtain ⟨hitems, hflat, hat⟩ := ih (s := { s.after item with line := l' }) hl'
    refine ⟨?_, ?_, ?_⟩
    · rw [hsteps, List.map_cons, hitems]
    · rw [hsteps, List.flatMap_cons, hflat, sentAll_with_line, sentAll]
    · intro k st hst
      rw [hsteps] at hst
      cases k with
      | zero =>
        cases hst
        rfl
      | succ k =>
        rw [hat k st hst, afterAll_with_line, sent_with_line]
        rfl

end Bridge
end AcpBridge
