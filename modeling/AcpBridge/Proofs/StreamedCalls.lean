import Mathlib
import AcpBridge.Proofs.TokenPath

/-!
# What each streamed call sends in a turn

A turn folds tool-call deltas of many stream indices, interleaved in any order and split in
any way. By `Tracker.sentFor_eq` each index sees only its own deltas, and by `sent_none` what
they send is `sends` of them. This module reads that closed form back in the terms a client
sees.

## Starts

A call is announced once, by the delta that first makes both its id and its name known, with
its first id and its first name; a call whose first name is `think` is never announced
(`startsOf_trace`, `startsOf_sentFor`). On the token path with a client that takes everything,
these are exactly the tool calls the client is told about (`streamed_start_once`).

## Fragments

A started call sends every argument fragment it kept as progress, in arrival order, right
after its start; a think call sends the ones the filter passes as thoughts; any other call
sends nothing and holds its fragments until the turn ends, when they are counted as dropped
(`fragments_routed`).
-/

namespace AcpBridge

def Session.SessionUpdate.toolCallStart? : Session.SessionUpdate → Option Session.ToolCallStart
  | .toolCall s => some s
  | _ => none

namespace Session

open Agent Bridge

def callDeltas (ds : List ToolCallDelta) (i : Nat) : List ToolCallDelta := ds.filter (·.index == i)

def startsOf (actions : List StreamAction) : List ToolCallStart :=
  actions.filterMap fun a => (Subscriber.streamUpdate a).toolCallStart?

namespace CallState

def named (h : List ToolCallDelta) : Bool := (firstId h).isSome && (firstName h).isSome

/-- The tool call a call's deltas announce, if any: its first id, titled by its first name, of
the kind of that name, in progress and with no content. A think call announces none. -/
def announced (h : List ToolCallDelta) : List ToolCallStart :=
  match firstId h, firstName h with
  | some id, some n => if n = thinkTool then [] else [.new id n (ToolKind.ofToolName n)]
  | _, _ => []

end CallState

/-! ## A turn, index by index -/

theorem sentFor_empty (i : Nat) (ds : List ToolCallDelta) :
    Tracker.empty.sentFor i ds = CallState.sends (callDeltas ds i) := by
  rw [Tracker.sentFor_eq, ← CallState.sent_none]
  rfl

theorem trace_empty_getElem? (ds : List ToolCallDelta) (k : Nat) (hk : k < ds.length) :
    (Tracker.empty.trace ds)[k]? =
      some (CallState.stepActions (callDeltas (ds.take k) ds[k].index) ds[k]) := by
  rw [Tracker.trace_getElem _ _ _ hk]
  have hnone : Tracker.empty.state? ds[k].index = none := rfl
  rw [hnone]
  exact congrArg (fun p => some p.2) (CallState.step?_run? _ _)

theorem callDeltas_take_succ (ds : List ToolCallDelta) (k : Nat) (hk : k < ds.length) :
    callDeltas (ds.take (k + 1)) ds[k].index = callDeltas (ds.take k) ds[k].index ++ [ds[k]] := by
  unfold callDeltas
  rw [List.take_succ_eq_append_getElem hk, List.filter_append,
    List.filter_cons_of_pos (by simp), List.filter_nil]

theorem callDeltas_take_prefix (ds : List ToolCallDelta) (n i : Nat) :
    callDeltas (ds.take n) i <+: callDeltas ds i := by
  have hsplit : callDeltas ds i = callDeltas (ds.take n) i ++ callDeltas (ds.drop n) i := by
    unfold callDeltas
    rw [← List.filter_append, List.take_append_drop]
  rw [hsplit]
  exact List.prefix_append _ _

namespace CallState

theorem firstId_of_prefix {h H : List ToolCallDelta} (hpre : h <+: H) {id : String}
    (hid : firstId h = some id) : firstId H = some id := by
  obtain ⟨t, rfl⟩ := hpre
  unfold firstId at hid ⊢
  rw [List.findSome?_append, hid]
  rfl

theorem firstName_of_prefix {h H : List ToolCallDelta} (hpre : h <+: H) {n : String}
    (hn : firstName h = some n) : firstName H = some n := by
  obtain ⟨t, rfl⟩ := hpre
  unfold firstName at hn ⊢
  rw [List.findSome?_append, hn]
  rfl

theorem announced_of_prefix {h H : List ToolCallDelta} (hpre : h <+: H) (hnamed : named h = true) :
    announced h = announced H := by
  obtain ⟨id, hid⟩ := Option.isSome_iff_exists.mp (Bool.and_eq_true_iff.mp hnamed).1
  obtain ⟨n, hn⟩ := Option.isSome_iff_exists.mp (Bool.and_eq_true_iff.mp hnamed).2
  simp [announced, hid, hn, firstId_of_prefix hpre hid, firstName_of_prefix hpre hn]

end CallState

/-! ## Starts -/

theorem startsOf_append (xs ys : List StreamAction) :
    startsOf (xs ++ ys) = startsOf xs ++ startsOf ys := by
  simp [startsOf]

theorem startsOf_flatMap_emit (s : CallState) (fragments : List String) :
    startsOf (fragments.flatMap s.emit) = [] := by
  induction fragments with
  | nil => rfl
  | cons f rest ih =>
      rw [List.flatMap_cons, startsOf_append, ih, List.append_nil]
      unfold CallState.emit
      split
      · split <;> rfl
      · split <;> rfl

theorem startsOf_startOf_ofHistory {h : List ToolCallDelta}
    (hstarted : (CallState.ofHistory h).started = true) :
    startsOf (CallState.ofHistory h).startOf = CallState.announced h := by
  obtain ⟨id, n, hid, hn, hthink⟩ := CallState.named_of_started hstarted
  rw [CallState.ofHistory_of_named hid hn hthink]
  simp [startsOf, CallState.startOf, CallState.announced, hid, hn, hthink,
    Subscriber.streamUpdate, SessionUpdate.toolCallStart?]

theorem startsOf_sends (h : List ToolCallDelta) :
    startsOf (CallState.sends h) = CallState.announced h := by
  unfold CallState.sends
  by_cases hs : (CallState.ofHistory h).started = true
  · simp only [hs, if_true]
    rw [startsOf_append, startsOf_flatMap_emit, List.append_nil, startsOf_startOf_ofHistory hs]
  · simp only [hs, Bool.false_eq_true, if_false]
    -- a call that has not started is not named, or is named `think`: it announces nothing
    have hnone : CallState.announced h = [] := by
      unfold CallState.announced
      split
      · rename_i id n hid hn
        split
        · rfl
        · rename_i hthink
          simp [CallState.ofHistory, hid, hn, hthink] at hs
      · rfl
    rw [hnone]
    split
    · exact startsOf_flatMap_emit _ _
    · rfl

namespace CallState

theorem started_of_think {h H : List ToolCallDelta} (hpre : h <+: H)
    (hthink : firstName H = some thinkTool) : (ofHistory h).started = false := by
  cases hn : firstName h with
  | none => simp [ofHistory, hn]
  | some n =>
      have hn' : n = thinkTool := by
        have := firstName_of_prefix hpre hn
        rw [hthink] at this
        exact (Option.some.inj this).symm
      simp [ofHistory, hn, hn']

theorem started_eq_named {h H : List ToolCallDelta} (hpre : h <+: H)
    (hthink : firstName H ≠ some thinkTool) : (ofHistory h).started = named h := by
  cases hn : firstName h with
  | none => simp [ofHistory, named, hn]
  | some n =>
      have hn' : n ≠ thinkTool := by
        intro hn'
        exact hthink (hn' ▸ firstName_of_prefix hpre hn)
      simp [ofHistory, named, hn, hn']

theorem announced_of_think {H : List ToolCallDelta} (hthink : firstName H = some thinkTool) :
    announced H = [] := by
  unfold announced
  split
  · rename_i n _ hn
    rw [hthink] at hn
    simp [← Option.some.inj hn]
  · rfl

end CallState

theorem startsOf_stepActions {h H : List ToolCallDelta} {e : ToolCallDelta} (hpre : h ++ [e] <+: H) :
    startsOf (CallState.stepActions h e) =
      if CallState.named (h ++ [e]) && !CallState.named h then CallState.announced H else [] := by
  have hpre' : h <+: H := (List.prefix_append h [e]).trans hpre
  have hfragments : ∀ (b : Bool) (s : CallState) (fs : List String),
      startsOf (if b = true then fs.flatMap s.emit else []) = [] := by
    intro b s fs
    split
    · exact startsOf_flatMap_emit s fs
    · rfl
  unfold CallState.stepActions
  rw [startsOf_append, hfragments, List.append_nil]
  by_cases hthink : CallState.firstName H = some thinkTool
  · simp [CallState.started_of_think hpre hthink, CallState.announced_of_think hthink, startsOf]
  · rw [CallState.started_eq_named hpre hthink, CallState.started_eq_named hpre' hthink]
    by_cases hnew : (CallState.named (h ++ [e]) && !CallState.named h) = true
    · have hnamed : CallState.named (h ++ [e]) = true := (Bool.and_eq_true_iff.mp hnew).1
      have hstarted : (CallState.ofHistory (h ++ [e])).started = true := by
        rw [CallState.started_eq_named hpre hthink, hnamed]
      rw [if_pos hnew, if_pos hnew, startsOf_startOf_ofHistory hstarted,
        CallState.announced_of_prefix hpre hnamed]
    · rw [if_neg hnew, if_neg hnew]
      rfl

theorem toolCallStarts_flatten (L : List (List StreamAction)) :
    (L.flatten.map Subscriber.streamUpdate).filterMap SessionUpdate.toolCallStart? =
      L.flatMap startsOf := by
  induction L with
  | nil => rfl
  | cons actions L ih =>
      rw [List.flatten_cons, List.map_append, List.filterMap_append, ih, List.flatMap_cons,
        List.filterMap_map]
      rfl

theorem toolCallStarts_tokenUpdates (t : Tracker) (dels : List Delta) :
    (Subscriber.tokenUpdates t dels).filterMap SessionUpdate.toolCallStart? =
      (t.trace (dels.flatMap (·.toolCalls.getD []))).flatMap startsOf := by
  induction dels generalizing t with
  | nil => rfl
  | cons d rest ih =>
      have hreasoning : (d.reasoning.map SessionUpdate.thought).toList.filterMap
          SessionUpdate.toolCallStart? = [] := by
        cases d.reasoning <;> rfl
      have htext : (d.text.map SessionUpdate.message).toList.filterMap
          SessionUpdate.toolCallStart? = [] := by
        cases d.text <;> rfl
      simp only [Subscriber.tokenUpdates, List.filterMap_append, hreasoning, htext, ih,
        List.flatMap_cons, Tracker.trace_append, List.flatMap_append, List.append_nil]
      rw [toolCallStarts_flatten]

/-! ## Streamed starts on the token path -/

theorem startsOf_trace (ds : List ToolCallDelta) (k : Nat) (hk : k < ds.length) :
    (Tracker.empty.trace ds)[k]?.map startsOf =
      some (if CallState.named (callDeltas (ds.take (k + 1)) ds[k].index) &&
          !CallState.named (callDeltas (ds.take k) ds[k].index)
        then CallState.announced (callDeltas ds ds[k].index) else []) := by
  rw [trace_empty_getElem? ds k hk, Option.map_some, callDeltas_take_succ ds k hk]
  congr 1
  apply startsOf_stepActions
  rw [← callDeltas_take_succ ds k hk]
  exact callDeltas_take_prefix ds (k + 1) ds[k].index

theorem startsOf_sentFor (ds : List ToolCallDelta) (i : Nat) :
    startsOf (Tracker.empty.sentFor i ds) = CallState.announced (callDeltas ds i) := by
  rw [sentFor_empty, startsOf_sends]

/-- Exactly-once streamed starts. On a client that takes everything, the tool calls the token
path tells the client of during a turn are those its tracker starts, delta by delta. A delta
starts a call exactly when it is the first delta of its index to make both an id and a name
known, unless the index's first name is `think`; over the turn an index starts at most one
call, with its first id and its first name, and ids and names that come later change
nothing. -/
theorem streamed_start_once (s : Subscriber) (hline : s.line.Accepting) (sum : Summary)
    (chunks : List StreamChunk) :
    let ds := chunks.flatMap Subscriber.toolDeltas
    ∃ taken, (s.resetTurn.feedAll sum (chunks.map .token)).1.line.client.taken =
        s.line.client.taken ++ taken ∧
      taken.filterMap (·.update.toolCallStart?) = (Tracker.empty.trace ds).flatMap startsOf ∧
      (∀ k (hk : k < ds.length), (Tracker.empty.trace ds)[k]?.map startsOf =
        some (if CallState.named (callDeltas (ds.take (k + 1)) ds[k].index) &&
            !CallState.named (callDeltas (ds.take k) ds[k].index)
          then CallState.announced (callDeltas ds ds[k].index) else [])) ∧
      ∀ i, startsOf (Tracker.empty.sentFor i ds) = CallState.announced (callDeltas ds i) := by
  intro ds
  obtain ⟨l', hrun, htaken, -⟩ := Subscriber.feedAll_tokens (s := s.resetTurn) hline sum chunks
  have hdeltas : (chunks.flatMap (·.choices.filterMap (·.delta))).flatMap (·.toolCalls.getD []) =
      ds := by
    simp only [ds, List.flatMap_assoc]
    rfl
  -- the reset opens the turn with an empty tracker
  refine ⟨(Subscriber.tokenUpdates Tracker.empty (chunks.flatMap (·.choices.filterMap (·.delta)))).map
    (s.notification · false), ?_, ?_, startsOf_trace ds, startsOf_sentFor ds⟩
  · rw [hrun, htaken]
    rfl
  · rw [List.filterMap_map]
    show (Subscriber.tokenUpdates Tracker.empty _).filterMap SessionUpdate.toolCallStart? = _
    rw [toolCallStarts_tokenUpdates, hdeltas]

/-- The exactly-once law holds on a subscriber that hands its notifications inline to a client
without a limit, here for a call whose id and name come in separate chunks. -/
theorem streamed_start_once_inline :
    let s : Subscriber := ⟨"s", true, "m", false, .empty, .empty, ⟨.inline false, {}, []⟩⟩
    let chunks := [StreamChunk.toolCall 0 (some "call_x") none (some "a"),
      StreamChunk.toolCall 0 none (some "terminal") (some "b")]
    let ds := chunks.flatMap Subscriber.toolDeltas
    s.line.Accepting ∧
    ∃ taken, (s.resetTurn.feedAll {} (chunks.map .token)).1.line.client.taken =
        s.line.client.taken ++ taken ∧
      taken.filterMap (·.update.toolCallStart?) = (Tracker.empty.trace ds).flatMap startsOf ∧
      (∀ k (hk : k < ds.length), (Tracker.empty.trace ds)[k]?.map startsOf =
        some (if CallState.named (callDeltas (ds.take (k + 1)) ds[k].index) &&
            !CallState.named (callDeltas (ds.take k) ds[k].index)
          then CallState.announced (callDeltas ds ds[k].index) else [])) ∧
      ∀ i, startsOf (Tracker.empty.sentFor i ds) = CallState.announced (callDeltas ds i) :=
  ⟨⟨rfl, .inl rfl⟩, streamed_start_once _ ⟨rfl, .inl rfl⟩ {} _⟩

/-! ## Fragments -/

theorem waitingAt_observeAll (ds : List ToolCallDelta) (i : Nat) :
    (Tracker.empty.observeAll ds).waitingAt i = (CallState.ofHistory (callDeltas ds i)).pending := by
  unfold Tracker.waitingAt
  rw [Tracker.state?_observeAll]
  show ((CallState.run? none (callDeltas ds i)).map (·.pending)).getD [] = _
  rw [CallState.run?_none]
  split
  · rfl
  · rename_i hunknown
    rw [CallState.ofHistory_of_unknown _ (by simpa using hunknown)]
    rfl

theorem waiting_observeAll (ds : List ToolCallDelta) :
    (Tracker.empty.observeAll ds).waiting =
      ∑ j ∈ (ds.map (·.index)).toFinset, ((Tracker.empty.observeAll ds).waitingAt j).length := by
  have hnodup := Tracker.nodup_indices_observeAll (t := .empty) List.nodup_nil ds
  rw [Tracker.waiting_eq_sum hnodup, ← List.sum_toFinset _ hnodup]
  apply Finset.sum_subset
  · intro j hj
    rcases Tracker.mem_indices_observeAll (List.mem_toFinset.mp hj) with hj | hj
    · cases hj
    · exact List.mem_toFinset.mpr hj
  · intro j _ hj
    have hnot : j ∉ (Tracker.empty.observeAll ds).indices := fun h => hj (List.mem_toFinset.mpr h)
    simp [Tracker.waitingAt, Tracker.state?_of_not_mem hnot]

theorem flatMap_emit_of_progress {s : CallState} {id : String} (hthink : s.isThink = false)
    (hid : s.toolCallId = some id) (fragments : List String) :
    fragments.flatMap s.emit = fragments.map (.progress id) := by
  induction fragments with
  | nil => rfl
  | cons f rest ih => simp [CallState.emit, hthink, hid, ih]

theorem flatMap_emit_of_think {s : CallState} (hthink : s.isThink = true)
    (fragments : List String) :
    fragments.flatMap s.emit = (fragments.filterMap FragmentFilter.thought.pass).map .thought := by
  induction fragments with
  | nil => rfl
  | cons f rest ih =>
      rw [List.flatMap_cons, ih, List.filterMap_cons]
      unfold CallState.emit
      rw [if_pos hthink]
      cases FragmentFilter.thought.pass f <;> rfl

namespace CallState

theorem ofHistory_of_think {h : List ToolCallDelta} (hn : firstName h = some thinkTool) :
    (ofHistory h).isThink = true ∧ (ofHistory h).started = false ∧ (ofHistory h).pending = [] := by
  simp [ofHistory, hn]

theorem pending_of_unnamed {h H : List ToolCallDelta} (hpre : h <+: H)
    (hthink : firstName H ≠ some thinkTool) (hnamed : named h = false) :
    (ofHistory h).pending = fragments h := by
  have hstarted : (ofHistory h).started = false := by rw [started_eq_named hpre hthink, hnamed]
  have hnot : (firstName h == some thinkTool) = false := by
    cases hn : firstName h with
    | none => rfl
    | some m =>
        have hm : m ≠ thinkTool := fun hm => hthink (hm ▸ firstName_of_prefix hpre hn)
        simp [hm]
  show (if ((ofHistory h).started || (firstName h == some thinkTool)) = true then [] else _) = _
  rw [hstarted, hnot]
  rfl

theorem stepActions_of_naming {h : List ToolCallDelta} {e : ToolCallDelta} {id n : String}
    (hid : firstId (h ++ [e]) = some id) (hn : firstName (h ++ [e]) = some n)
    (hthink : n ≠ thinkTool) (hnew : named h = false) :
    stepActions h e = .start id n :: (fragments (h ++ [e])).map (.progress id) := by
  have hpre : h <+: h ++ [e] := List.prefix_append h [e]
  have hnotthink : firstName (h ++ [e]) ≠ some thinkTool := by
    rw [hn]
    exact fun heq => hthink (Option.some.inj heq)
  have hstarted : (ofHistory h).started = false := by
    rw [started_eq_named hpre hnotthink, hnew]
  have hknown : (h ++ [e]).any (·.identifies) = true := known_of_name hn
  unfold stepActions
  rw [ofHistory_of_named hid hn hthink, hstarted, pending_of_unnamed hpre hnotthink hnew,
    fragments_append_singleton h e hknown]
  simp [startOf, flowing, flatMap_emit_of_progress (s := ⟨some id, some n, false, true, []⟩) rfl rfl]

theorem sends_of_named {h : List ToolCallDelta} {id n : String} (hid : firstId h = some id)
    (hn : firstName h = some n) (hthink : n ≠ thinkTool) :
    sends h = .start id n :: (fragments h).map (.progress id) ∧ (ofHistory h).pending = [] := by
  have hstate := ofHistory_of_named hid hn hthink
  refine ⟨?_, by rw [hstate]⟩
  rw [sends, hstate]
  simp [startOf, flatMap_emit_of_progress (s := ⟨some id, some n, false, true, []⟩) rfl rfl]

theorem sends_of_think {h : List ToolCallDelta} (hthink : firstName h = some thinkTool) :
    sends h = ((fragments h).filterMap FragmentFilter.thought.pass).map .thought ∧
      (ofHistory h).pending = [] := by
  obtain ⟨hisThink, hstarted, hpending⟩ := ofHistory_of_think hthink
  refine ⟨?_, hpending⟩
  rw [sends, if_neg (by simp [hstarted]), if_pos hisThink, flatMap_emit_of_think hisThink]

theorem sends_of_unnamed {h : List ToolCallDelta} (hunnamed : firstId h = none ∨ firstName h = none)
    (hthink : firstName h ≠ some thinkTool) :
    sends h = [] ∧ (ofHistory h).pending = fragments h := by
  have hnamed : named h = false := by
    rcases hunnamed with hid | hn
    · simp [named, hid]
    · simp [named, hn]
  have hstarted : (ofHistory h).started = false := by
    rw [started_eq_named (List.prefix_refl h) hthink, hnamed]
  have hisThink : (ofHistory h).isThink = false := by
    simpa [ofHistory] using hthink
  refine ⟨?_, pending_of_unnamed (List.prefix_refl h) hthink hnamed⟩
  rw [sends, if_neg (by simp [hstarted]), if_neg (by simp [hisThink])]

end CallState

theorem trace_of_naming (ds : List ToolCallDelta) {k : Nat} (hk : k < ds.length) {id n : String}
    (hid : CallState.firstId (callDeltas ds ds[k].index) = some id)
    (hn : CallState.firstName (callDeltas ds ds[k].index) = some n) (hthink : n ≠ thinkTool)
    (hbefore : CallState.named (callDeltas (ds.take k) ds[k].index) = false)
    (hafter : CallState.named (callDeltas (ds.take (k + 1)) ds[k].index) = true) :
    (Tracker.empty.trace ds)[k]? = some (.start id n ::
      (CallState.fragments (callDeltas (ds.take (k + 1)) ds[k].index)).map (.progress id)) := by
  -- the naming delta's history is a prefix of the index's deltas, which fixes id and name
  have hpre := callDeltas_take_prefix ds (k + 1) ds[k].index
  obtain ⟨id', hid'⟩ := Option.isSome_iff_exists.mp (Bool.and_eq_true_iff.mp hafter).1
  obtain ⟨n', hn'⟩ := Option.isSome_iff_exists.mp (Bool.and_eq_true_iff.mp hafter).2
  have hid_eq : id' = id :=
    Option.some.inj ((CallState.firstId_of_prefix hpre hid').symm.trans hid)
  have hn_eq : n' = n := Option.some.inj ((CallState.firstName_of_prefix hpre hn').symm.trans hn)
  subst hid_eq hn_eq
  rw [trace_empty_getElem? ds k hk]
  rw [callDeltas_take_succ ds k hk] at hid' hn' ⊢
  rw [CallState.stepActions_of_naming hid' hn' hthink hbefore]

/-- No argument fragment is lost, duplicated or reordered. Over one turn, the fragments of an
index from its first delta with an id or a name on take one of three routes. A call that
starts sends its start and then each of them as progress under its first id, in order, and
the ones that waited go out in the delta that starts it, right after the start. A call named
`think` sends the ones the filter passes as thoughts. Any other call sends nothing and still
holds them when the turn ends; what reset counts as dropped is the sum of these. -/
theorem fragments_routed (ds : List ToolCallDelta) (i : Nat) :
    let h := callDeltas ds i
    let t := Tracker.empty.observeAll ds
    (∀ id n, CallState.firstId h = some id → CallState.firstName h = some n → n ≠ thinkTool →
      Tracker.empty.sentFor i ds = .start id n :: (CallState.fragments h).map (.progress id) ∧
      t.waitingAt i = [] ∧
      ∀ k (hk : k < ds.length), ds[k].index = i →
        CallState.named (callDeltas (ds.take k) i) = false →
        CallState.named (callDeltas (ds.take (k + 1)) i) = true →
        (Tracker.empty.trace ds)[k]? = some (.start id n ::
          (CallState.fragments (callDeltas (ds.take (k + 1)) i)).map (.progress id))) ∧
    (CallState.firstName h = some thinkTool →
      Tracker.empty.sentFor i ds =
        ((CallState.fragments h).filterMap FragmentFilter.thought.pass).map .thought ∧
      t.waitingAt i = []) ∧
    ((CallState.firstId h = none ∨ CallState.firstName h = none) →
      CallState.firstName h ≠ some thinkTool →
      Tracker.empty.sentFor i ds = [] ∧ t.waitingAt i = CallState.fragments h) ∧
    t.waiting = ∑ j ∈ (ds.map (·.index)).toFinset, (t.waitingAt j).length := by
  intro h t
  refine ⟨fun id n hid hn hthink => ?_, fun hthink => ?_, fun hunnamed hthink => ?_,
    waiting_observeAll ds⟩
  · obtain ⟨hsends, hpending⟩ := CallState.sends_of_named hid hn hthink
    refine ⟨by rw [sentFor_empty, hsends], by rw [waitingAt_observeAll, hpending], ?_⟩
    intro k hk hi
    subst hi
    exact trace_of_naming ds hk hid hn hthink
  · obtain ⟨hsends, hpending⟩ := CallState.sends_of_think hthink
    exact ⟨by rw [sentFor_empty, hsends], by rw [waitingAt_observeAll, hpending]⟩
  · obtain ⟨hsends, hpending⟩ := CallState.sends_of_unnamed hunnamed hthink
    exact ⟨by rw [sentFor_empty, hsends], by rw [waitingAt_observeAll, hpending]⟩

-- Index 0 holds its first fragment until its name comes, then flushes it right after the
-- start; a later id changes nothing. Index 1 is a think call.
example : Tracker.empty.trace
    [⟨0, some "call_1", some ⟨none, some "ab"⟩⟩, ⟨1, none, some ⟨some "think", some "x"⟩⟩,
      ⟨0, none, some ⟨some "terminal", some "cd"⟩⟩, ⟨0, some "call_2", some ⟨some "read", some "ef"⟩⟩] =
    [[], [.thought "x"],
      [.start "call_1" "terminal", .progress "call_1" "ab", .progress "call_1" "cd"],
      [.progress "call_1" "ef"]] := by
  rfl

end Session
end AcpBridge
