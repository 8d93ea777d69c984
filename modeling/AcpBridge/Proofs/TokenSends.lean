import Mathlib
import AcpBridge.Proofs.TokenPath

/-!
# The token path, send by send

A chunk of the token stream is taken in as a straight line of steps: for each delta of each
choice that has one, each tool-call delta is folded into the tracker and what the tracker then
asks is sent, and after them the reasoning and the text are sent. `tokenSteps` lists these
steps from the tracker the chunk starts with; which updates they send does not depend on
whether the sends succeed, since a send never touches the tracker.

`runSteps` runs such steps and stops at the first send that fails, and the token path is this
run (`streamDeltas_eq_runSteps`). Hence what one chunk does, for any line
(`onToken_sends_in_order`): the notifications it schedules are the updates of the steps in
order, each for the session and without metadata; if every one is scheduled the chunk
succeeds with every tool-call delta folded; if one fails, exactly the notifications up to and
including it were scheduled, exactly the deltas before it were folded, and the failure comes
back as an internal error of the token path.
-/

namespace AcpBridge
namespace Bridge

open Session Agent

namespace Line

/-- Schedule notifications in order, stopping at the first that fails. -/
def scheduleAll (l : Line) : List Notification → Line × Except BridgeError Unit
  | [] => (l, .ok ())
  | n :: ns =>
    match l.schedule n with
    | (l, .ok ()) => l.scheduleAll ns
    | (l, .error e) => (l, .error e)

end Line

/-- One step of the token path: fold a tool-call delta into the tracker, or send an update. -/
inductive TokenStep where
  | fold (d : ToolCallDelta)
  | send (u : SessionUpdate)

namespace TokenStep

@[simp] def update? : TokenStep → Option SessionUpdate
  | .send u => some u
  | .fold _ => none

@[simp] def delta? : TokenStep → Option ToolCallDelta
  | .fold d => some d
  | .send _ => none

variable (rest : List TokenStep)

@[simp] theorem updates_fold (d : ToolCallDelta) :
    (fold d :: rest).filterMap update? = rest.filterMap update? := rfl

@[simp] theorem updates_send (u : SessionUpdate) :
    (send u :: rest).filterMap update? = u :: rest.filterMap update? := rfl

@[simp] theorem deltas_fold (d : ToolCallDelta) :
    (fold d :: rest).filterMap delta? = d :: rest.filterMap delta? := rfl

@[simp] theorem deltas_send (u : SessionUpdate) :
    (send u :: rest).filterMap delta? = rest.filterMap delta? := rfl

end TokenStep

/-- The steps of tool-call deltas from a tracker: each delta is folded, then what the tracker
asks for it is sent. -/
def foldSteps : Tracker → List ToolCallDelta → List TokenStep
  | _, [] => []
  | t, d :: ds =>
    .fold d :: ((t.observe d).2.map Subscriber.streamUpdate).map .send ++
      foldSteps (t.observe d).1 ds

def textUpdates (d : Delta) : List SessionUpdate :=
  (d.reasoning.map SessionUpdate.thought).toList ++ (d.text.map SessionUpdate.message).toList

/-- The steps of the token path for deltas, from a tracker: for each delta, its tool-call
deltas, then its reasoning and its text. -/
def tokenSteps : Tracker → List Delta → List TokenStep
  | _, [] => []
  | t, d :: ds =>
    foldSteps t (d.toolCalls.getD []) ++ (textUpdates d).map .send ++
      tokenSteps (t.observeAll (d.toolCalls.getD [])) ds

theorem deltas_foldSteps (t : Tracker) (ds : List ToolCallDelta) :
    (foldSteps t ds).filterMap TokenStep.delta? = ds := by
  induction ds generalizing t with
  | nil => rfl
  | cons d ds ih => simp [foldSteps, TokenStep.delta?, ih]

theorem deltas_tokenSteps (t : Tracker) (dels : List Delta) :
    (tokenSteps t dels).filterMap TokenStep.delta? = dels.flatMap (·.toolCalls.getD []) := by
  induction dels generalizing t with
  | nil => rfl
  | cons d dels ih =>
      simp [tokenSteps, deltas_foldSteps, ih]

theorem updates_foldSteps (t : Tracker) (ds : List ToolCallDelta) :
    (foldSteps t ds).filterMap TokenStep.update? = (t.trace ds).flatten.map Subscriber.streamUpdate := by
  induction ds generalizing t with
  | nil => rfl
  | cons d ds ih => simp [foldSteps, Function.comp_def, ih]

theorem updates_tokenSteps (t : Tracker) (dels : List Delta) :
    (tokenSteps t dels).filterMap TokenStep.update? = Subscriber.tokenUpdates t dels := by
  induction dels generalizing t with
  | nil => rfl
  | cons d dels ih =>
      simp [tokenSteps, Subscriber.tokenUpdates, updates_foldSteps, textUpdates, Function.comp_def,
        ih]

namespace Subscriber

/-- Run steps of the token path, stopping at the first send that fails. -/
def runSteps (s : Subscriber) : List TokenStep → Subscriber × Except BridgeError Unit
  | [] => (s, .ok ())
  | .fold d :: rest => runSteps { s with tracker := (s.tracker.observe d).1 } rest
  | .send u :: rest =>
    match s.send false u with
    | (s, .ok ()) => s.runSteps rest
    | (s, .error e) => (s, .error e)

variable {s : Subscriber}

theorem notification_false (u : SessionUpdate) : s.notification u false = ⟨s.sessionId, u, none⟩ :=
  rfl

@[simp] theorem notification_with_tracker' (t : Tracker) :
    ({ s with tracker := t } : Subscriber).notification = s.notification := rfl

@[simp] theorem notification_with_streaming (b : Bool) :
    ({ s with streaming := b } : Subscriber).notification = s.notification := rfl

theorem send_eq (m : Bool) (u : SessionUpdate) :
    s.send m u = ({ s with line := (s.line.schedule (s.notification u m)).1 },
      (s.line.schedule (s.notification u m)).2) := rfl

theorem runSteps_append (s : Subscriber) (xs ys : List TokenStep) :
    s.runSteps (xs ++ ys) =
      match s.runSteps xs with
      | (s', .ok ()) => s'.runSteps ys
      | (s', .error e) => (s', .error e) := by
  induction xs generalizing s with
  | nil => rfl
  | cons x xs ih =>
      cases x with
      | fold d => exact ih _
      | send u =>
          rcases hsend : s.send false u with ⟨s₁, e | ⟨⟩⟩
          · simp [runSteps, hsend]
          · simp [runSteps, hsend, ih]

theorem runSteps_sends (s : Subscriber) (us : List SessionUpdate) :
    s.runSteps (us.map .send) = s.sendAll false us := by
  induction us generalizing s with
  | nil => rfl
  | cons u us ih =>
      rcases hsend : s.send false u with ⟨s₁, e | ⟨⟩⟩
      · simp [runSteps, sendAll, hsend]
      · simp [runSteps, sendAll, hsend, ih]

theorem tracker_runSteps {steps : List TokenStep} {s' : Subscriber}
    (h : s.runSteps steps = (s', .ok ())) :
    s'.tracker = s.tracker.observeAll (steps.filterMap TokenStep.delta?) := by
  induction steps generalizing s with
  | nil =>
      cases h
      rfl
  | cons x rest ih =>
      cases x with
      | fold d => exact ih h
      | send u =>
          rcases hsend : s.send false u with ⟨s₁, e | ⟨⟩⟩
          · simp [runSteps, hsend] at h
          · simp only [runSteps, hsend] at h
            rw [ih h, ← (Prod.mk.inj hsend).1]
            rfl

/-! ## The token path is a run of its steps -/

theorem toolCalls_eq_runSteps (s : Subscriber) (ds : List ToolCallDelta) :
    s.toolCalls ds = s.runSteps (foldSteps s.tracker ds) := by
  induction ds generalizing s with
  | nil => rfl
  | cons d ds ih =>
      rcases hobserve : s.tracker.observe d with ⟨t, actions⟩
      have hsteps : foldSteps s.tracker (d :: ds) =
          .fold d :: ((actions.map streamUpdate).map .send ++ foldSteps t ds) := by
        simp [foldSteps, hobserve]
      rw [hsteps]
      simp only [toolCalls, hobserve, runSteps, runSteps_append, runSteps_sends]
      rcases hsend : ({ s with tracker := t } : Subscriber).sendAll false (actions.map streamUpdate)
        with ⟨s₁, e | ⟨⟩⟩
      · rfl
      · -- the sends leave the tracker as the fold made it
        have htracker : s₁.tracker = t := by
          have hrun : ({ s with tracker := t } : Subscriber).runSteps
              ((actions.map streamUpdate).map .send) = (s₁, .ok ()) := by
            rw [runSteps_sends, hsend]
          have := tracker_runSteps hrun
          simpa [Function.comp_def] using this
        simp only
        rw [ih, htracker]

theorem streamDelta_eq_runSteps (s : Subscriber) (d : Delta) :
    s.streamDelta d =
      s.runSteps (foldSteps s.tracker (d.toolCalls.getD []) ++ (textUpdates d).map .send) := by
  rw [runSteps_append, ← toolCalls_eq_runSteps]
  simp only [runSteps_sends]
  unfold streamDelta
  rcases s.toolCalls (d.toolCalls.getD []) with ⟨s₁, e | ⟨⟩⟩ <;> rfl

theorem streamDeltas_eq_runSteps (s : Subscriber) (dels : List Delta) :
    s.streamDeltas dels = s.runSteps (tokenSteps s.tracker dels) := by
  induction dels generalizing s with
  | nil => rfl
  | cons d dels ih =>
      rw [tokenSteps, runSteps_append, ← streamDelta_eq_runSteps]
      unfold streamDeltas
      rcases hdelta : s.streamDelta d with ⟨s₁, e | ⟨⟩⟩
      · rfl
      · -- the delta's run folded its tool-call deltas, and only them
        have htracker : s₁.tracker = s.tracker.observeAll (d.toolCalls.getD []) := by
          rw [streamDelta_eq_runSteps] at hdelta
          rw [tracker_runSteps hdelta, List.filterMap_append, deltas_foldSteps]
          simp [Function.comp_def]
        simp only
        rw [ih, htracker]

/-! ## What a run schedules -/

theorem runSteps_of_scheduled {steps : List TokenStep} {l : Line}
    (h : s.line.scheduleAll ((steps.filterMap TokenStep.update?).map (s.notification · false)) =
      (l, .ok ())) :
    s.runSteps steps =
      ({ s with tracker := s.tracker.observeAll (steps.filterMap TokenStep.delta?), line := l },
        .ok ()) := by
  induction steps generalizing s with
  | nil =>
      cases h
      rfl
  | cons x rest ih =>
      cases x with
      | fold d =>
          have h' := ih (s := { s with tracker := (s.tracker.observe d).1 }) (by simpa using h)
          simpa [runSteps] using h'
      | send u =>
          rcases hsched : s.line.schedule (s.notification u false) with ⟨l₁, e | ⟨⟩⟩
          · simp [Line.scheduleAll, hsched] at h
          · simp only [TokenStep.updates_send, List.map_cons, Line.scheduleAll,
              hsched] at h
            have h' := ih (s := { s with line := l₁ }) (by simpa using h)
            simp only [runSteps, send_eq, hsched]
            simpa using h'

theorem runSteps_of_refused {steps : List TokenStep} {l : Line} {e : BridgeError}
    (h : s.line.scheduleAll ((steps.filterMap TokenStep.update?).map (s.notification · false)) =
      (l, .error e)) :
    ∃ pre u post l₀, steps = pre ++ .send u :: post ∧
      s.line.scheduleAll ((pre.filterMap TokenStep.update?).map (s.notification · false)) =
        (l₀, .ok ()) ∧
      l₀.schedule (s.notification u false) = (l, .error e) ∧
      s.runSteps steps =
        ({ s with tracker := s.tracker.observeAll (pre.filterMap TokenStep.delta?), line := l },
          .error e) := by
  induction steps generalizing s with
  | nil => cases h
  | cons x rest ih =>
      cases x with
      | fold d =>
          obtain ⟨pre, u, post, l₀, rfl, hpre, hu, hrun⟩ :=
            ih (s := { s with tracker := (s.tracker.observe d).1 }) (by simpa using h)
          refine ⟨.fold d :: pre, u, post, l₀, rfl, by simpa using hpre, by simpa using hu, ?_⟩
          simpa [runSteps] using hrun
      | send u =>
          rcases hsched : s.line.schedule (s.notification u false) with ⟨l₁, e' | ⟨⟩⟩
          · -- the first send fails: nothing was scheduled or folded before it
            simp only [TokenStep.updates_send, List.map_cons, Line.scheduleAll,
              hsched, Prod.mk.injEq, Except.error.injEq] at h
            obtain ⟨rfl, rfl⟩ := h
            refine ⟨[], u, rest, s.line, rfl, rfl, hsched, ?_⟩
            simp only [runSteps, send_eq, hsched]
            rfl
          · simp only [TokenStep.updates_send, List.map_cons, Line.scheduleAll,
              hsched] at h
            obtain ⟨pre, u', post, l₀, rfl, hpre, hu, hrun⟩ := ih (s := { s with line := l₁ }) h
            refine ⟨.send u :: pre, u', post, l₀, rfl, ?_, hu, ?_⟩
            · simpa [Line.scheduleAll, hsched] using hpre
            · simp only [runSteps, send_eq, hsched]
              simpa using hrun

theorem runSteps_with_streaming (b : Bool) (steps : List TokenStep) :
    ({ s with streaming := b } : Subscriber).runSteps steps =
      ({ (s.runSteps steps).1 with streaming := b }, (s.runSteps steps).2) := by
  induction steps generalizing s with
  | nil => rfl
  | cons x rest ih =>
      cases x with
      | fold d => exact ih (s := { s with tracker := (s.tracker.observe d).1 })
      | send u =>
          rcases hsched : s.line.schedule (s.notification u false) with ⟨l₁, e | ⟨⟩⟩
          · simp [runSteps, send_eq, hsched]
          · simp only [runSteps, send_eq, notification_with_streaming, hsched]
            exact ih (s := { s with line := l₁ })

theorem onToken_eq_runSteps (s : Subscriber) (c : StreamChunk) :
    s.onToken c =
      ((s.runSteps (tokenSteps s.tracker (c.choices.filterMap (·.delta)))).1,
        ErrorPolicy.tokenStreaming.apply
          (s.runSteps (tokenSteps s.tracker (c.choices.filterMap (·.delta)))).2) := by
  simp only [onToken, streamDeltas_eq_runSteps]

end Subscriber

/-- Token-path output order and error reporting. For every subscriber and every chunk, the
token path is the straight line of steps `tokenSteps` lists from the subscriber's tracker: it
folds every tool-call delta of the chunk in order, and the updates it sends are those the
tracker asks for. Each goes out for the subscriber's session without metadata, and the
streaming flag plays no part. If every notification is scheduled, the chunk succeeds with
every delta folded. If one is refused, the notifications scheduled are exactly those of the
steps before it and itself, the deltas folded are exactly those before it, and the chunk
fails with an internal error of the token path that carries the refusal's text. -/
theorem onToken_sends_in_order (s : Subscriber) (c : StreamChunk) :
    let steps := tokenSteps s.tracker (c.choices.filterMap (·.delta))
    let note := fun u => (⟨s.sessionId, u, none⟩ : Notification)
    steps.filterMap TokenStep.update? = Subscriber.tokenUpdates s.tracker (c.choices.filterMap (·.delta)) ∧
    steps.filterMap TokenStep.delta? = Subscriber.toolDeltas c ∧
    (∀ b, ({ s with streaming := b } : Subscriber).onToken c =
      ({ (s.onToken c).1 with streaming := b }, (s.onToken c).2)) ∧
    (∀ l, s.line.scheduleAll ((steps.filterMap TokenStep.update?).map note) = (l, .ok ()) →
      s.onToken c = ({ s with tracker := s.tracker.observeAll (Subscriber.toolDeltas c), line := l },
        .ok ())) ∧
    (∀ l e, s.line.scheduleAll ((steps.filterMap TokenStep.update?).map note) = (l, .error e) →
      ∃ pre u post l₀, steps = pre ++ .send u :: post ∧
        s.line.scheduleAll ((pre.filterMap TokenStep.update?).map note) = (l₀, .ok ()) ∧
        l₀.schedule (note u) = (l, .error e) ∧
        s.onToken c =
          ({ s with tracker := s.tracker.observeAll (pre.filterMap TokenStep.delta?), line := l },
            .error (.internal ErrorPolicy.tokenStreamingReason e.message))) := by
  intro steps note
  have hrun := Subscriber.onToken_eq_runSteps s c
  have hdeltas : steps.filterMap TokenStep.delta? = Subscriber.toolDeltas c :=
    deltas_tokenSteps _ _
  refine ⟨updates_tokenSteps _ _, hdeltas, ?_, ?_, ?_⟩
  · intro b
    have hrun' := Subscriber.onToken_eq_runSteps { s with streaming := b } c
    dsimp only at hrun'
    rw [hrun', hrun, Subscriber.runSteps_with_streaming]
  · intro l hl
    rw [hrun, Subscriber.runSteps_of_scheduled hl, hdeltas]
    rfl
  · intro l e hl
    obtain ⟨pre, u, post, l₀, hsplit, hpre, hu, hsteps⟩ := Subscriber.runSteps_of_refused hl
    refine ⟨pre, u, post, l₀, hsplit, hpre, hu, ?_⟩
    rw [hrun, hsteps]
    rfl

-- A client that takes one notification: the start of the call is taken, the progress of its
-- fragment is refused, and the chunk fails.
example :
    let s : Subscriber := ⟨"s", false, "m", false, .empty, .empty, ⟨.inline false, { limit := some 1 }, []⟩⟩
    let r := s.onToken
      (.toolCall 0 (some "call_1") (some "terminal") (some "x"))
    r.1.line.client.taken.map (·.update.kindName) = ["tool_call"] ∧
      r.2 = .error (.internal ErrorPolicy.tokenStreamingReason "Connection closed") := by
  decide +kernel

end Bridge
end AcpBridge
