import Mathlib
import AcpBridge.Proofs.ReplayRun

/-!
# Metrics over a replay

A subscriber with the session's totals attached sends each discrete update with the metrics
of the usage recorded so far, and token updates without them. Over a whole replay on a line
that takes everything this reads (`replay_metrics`): the notifications an event sends carry,
under the session's metrics key, the payload of the usage records before the event, their
counts summed kind by kind and their costs added as floats in order (`metricsAfter`); new
turns do not clear them. Before the first record they carry nothing, and the notifications
of the token path never carry anything.
-/

namespace AcpBridge

open Metrics Bridge Subscriber Session

def usageRecords (items : List TraceItem) : List (TokenUsage × Float) :=
  items.filterMap fun
    | .usage u cost => some (u, cost)
    | _ => none

namespace Metrics

def TokenUsage.sum (us : List TokenUsage) : TokenUsage :=
  ⟨(us.map (·.prompt)).sum, (us.map (·.completion)).sum, (us.map (·.cacheRead)).sum,
    (us.map (·.reasoning)).sum⟩

def costSum (costs : List Float) : Float := costs.foldl (· + ·) 0.0

/-- The metrics a discrete update carries after items: none before the first usage record,
then under `key` the payload of the records' summed usage and summed cost. -/
def metricsAfter (key : String) (items : List TraceItem) : Option Json :=
  match usageRecords items with
  | [] => none
  | records => some (.obj [(key, payload (TokenUsage.sum (records.map (·.1)))
      (costSum (records.map (·.2))))])

def Totals.recordAll (t : Totals) (records : List (TokenUsage × Float)) : Totals :=
  records.foldl (fun t r => t.record r.1 r.2) t

theorem TokenUsage.add_assoc (a b c : TokenUsage) : (a.add b).add c = a.add (b.add c) := by
  simp only [TokenUsage.add, Nat.add_assoc]

theorem TokenUsage.zero_add (u : TokenUsage) : TokenUsage.zero.add u = u := by
  simp only [TokenUsage.zero, TokenUsage.add, Nat.zero_add]

@[simp] theorem Totals.recordAll_nil (t : Totals) : t.recordAll [] = t := rfl

theorem Totals.recordAll_cons (t : Totals) (r : TokenUsage × Float)
    (rs : List (TokenUsage × Float)) :
    t.recordAll (r :: rs) = (t.record r.1 r.2).recordAll rs := rfl

theorem Totals.cost_recordAll (t : Totals) (rs : List (TokenUsage × Float)) :
    (t.recordAll rs).cost = (rs.map (·.2)).foldl (· + ·) t.cost := by
  induction rs generalizing t with
  | nil => rfl
  | cons r rs ih => rw [recordAll_cons, ih, List.map_cons, List.foldl_cons]; rfl

theorem Totals.usage_recordAll_cons (t : Totals) (r : TokenUsage × Float)
    (rs : List (TokenUsage × Float)) :
    (t.recordAll (r :: rs)).usage =
      some ((t.usage.getD .zero).add (TokenUsage.sum ((r :: rs).map (·.1)))) := by
  induction rs generalizing t r with
  | nil => rfl
  | cons r' rs ih =>
    rw [recordAll_cons, ih, Totals.record_usage, Option.getD_some, TokenUsage.add_assoc]
    -- `sum` of a cons is the head added to the sum of the rest, by definition
    rfl

theorem metadata_recordAll (key : String) (items : List TraceItem) :
    metadata? key (some (Totals.empty.recordAll (usageRecords items))) = metricsAfter key items := by
  unfold metricsAfter
  cases hrecords : usageRecords items with
  | nil => rfl
  | cons r rs =>
    simp only [metadata?, Option.bind_some, Totals.usage_recordAll_cons, Option.map_some,
      Totals.cost_recordAll, Totals.empty, Option.getD_none, TokenUsage.zero_add, costSum]

end Metrics

/-! ## The totals along a replay -/

namespace Bridge.Subscriber

variable {s : Subscriber}

theorem totals_afterAll (items : List TraceItem) :
    (s.afterAll items).totals = s.totals.recordAll (usageRecords items) := by
  induction items generalizing s with
  | nil => rfl
  | cons item rest ih =>
    rw [afterAll_cons, ih]
    cases item <;> rfl

theorem metricsKey_afterAll (items : List TraceItem) :
    (s.afterAll items).metricsKey = s.metricsKey ∧
      (s.afterAll items).statsAttached = s.statsAttached := by
  induction items generalizing s with
  | nil => exact ⟨rfl, rfl⟩
  | cons item rest ih =>
    rw [afterAll_cons]
    cases item <;> exact ih

theorem metadata_of_mem_sent_event {e : Agent.Event} {n : Notification} (hn : n ∈ s.sent (.event e)) :
    n.metadata = metadata? s.metricsKey (if s.statsAttached then some s.totals else none) := by
  obtain ⟨u, -, rfl⟩ := List.mem_map.mp hn
  rfl

theorem metadata_of_mem_sent_token {c : Agent.StreamChunk} {n : Notification}
    (hn : n ∈ s.sent (.token c)) : n.metadata = none := by
  obtain ⟨u, -, rfl⟩ := List.mem_map.mp hn
  rfl

end Bridge.Subscriber

/-- Over a replay on a line that takes everything, by a subscriber fresh from a
configuration with the session's totals attached: replayed item by item, the client takes
what the whole replay takes, and every notification an event sends carries the metrics of
the usage records before that event under the configured key, none before the first record;
every other notification carries none. -/
theorem replay_metrics (session : String) (config : Config) (line : Line) (hline : line.Accepting)
    (items : List TraceItem) :
    let s := Subscriber.ofConfig session config line true
    (s.replay items).1.line.client.taken = line.client.taken ++ (steps s items).flatMap (·.delivered) ∧
      (steps s items).map (·.item) = items ∧
      ∀ (k : Nat) (st : Step), (steps s items)[k]? = some st → ∀ n ∈ st.delivered,
        n.metadata = match st.item with
          | .event _ => metricsAfter config.metricsKey (items.take k)
          | _ => none := by
  intro s
  obtain ⟨hitems, hflat, hat⟩ := steps_of_accepting (s := s) hline items
  obtain ⟨-, -, htaken⟩ := replay_of_accepting (s := s) hline items
  refine ⟨by rw [htaken, hflat]; rfl, hitems, ?_⟩
  intro k st hst n hn
  rw [hat k st hst] at hn
  cases hitem : st.item with
  | event e =>
    rw [hitem] at hn
    rw [metadata_of_mem_sent_event hn, totals_afterAll, (metricsKey_afterAll _).1,
      (metricsKey_afterAll _).2]
    -- a fresh subscriber has empty totals, attached
    exact metadata_recordAll _ _
  | token c =>
    rw [hitem] at hn
    exact metadata_of_mem_sent_token hn
  | usage u cost =>
    rw [hitem] at hn
    cases hn
  | newTurn =>
    rw [hitem] at hn
    cases hn

/-- The metrics law on an inline line whose client takes everything, over a usage record, a
pause and a new turn. -/
theorem replay_metrics_inline :
    let line : Line := ⟨.inline false, {}, []⟩
    let items := [TraceItem.usage ⟨1200, 30, 0, 0⟩ 0.25, .event .pause, .newTurn, .event .pause]
    let s := Subscriber.ofConfig "s" {} line true
    line.Accepting ∧
      ((s.replay items).1.line.client.taken =
          line.client.taken ++ (steps s items).flatMap (·.delivered) ∧
        (steps s items).map (·.item) = items ∧
        ∀ (k : Nat) (st : Step), (steps s items)[k]? = some st → ∀ n ∈ st.delivered,
          n.metadata = match st.item with
            | .event _ => metricsAfter Config.defaults.metricsKey (items.take k)
            | _ => none) :=
  ⟨⟨rfl, .inl rfl⟩, replay_metrics "s" {} _ ⟨rfl, .inl rfl⟩ _⟩

end AcpBridge
