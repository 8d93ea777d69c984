import Mathlib
import AcpBridge.Proofs.TokenSends

/-!
# The discrete path, send by send

A discrete event is dispatched as one straight line of schedules: its updates in order, each
for the session and with the session's metrics as they stand, since nothing on this path
changes the totals (`sendAll_eq_scheduleAll`). Such a line of schedules either schedules every
notification (`Line.scheduleAll_of_ok`) or stops at its first refusal and returns that refusal
as it is, having tried nothing after it (`Line.scheduleAll_of_error`).

The subscriber's entry point swallows the outcome: handling an event never fails and changes
nothing but the line. The tracker of the token path, the totals and the flags stay as they were
(`handle_delivers_prefix`).
-/

namespace AcpBridge
namespace Bridge

open Session Agent Metrics

namespace Line

theorem scheduleAll_of_ok {l l' : Line} {ns : List Notification} (h : l.scheduleAll ns = (l', .ok ()))
    {pre post : List Notification} {n : Notification} (hsplit : ns = pre ++ n :: post) :
    ∃ l₀ l₁, l.scheduleAll pre = (l₀, .ok ()) ∧ l₀.schedule n = (l₁, .ok ()) := by
  subst hsplit
  induction pre generalizing l with
  | nil =>
    rcases hsched : l.schedule n with ⟨l₁, e | ⟨⟩⟩
    · simp [scheduleAll, hsched] at h
    · exact ⟨l, l₁, rfl, hsched⟩
  | cons m pre ih =>
    rcases hsched : l.schedule m with ⟨l₁, e | ⟨⟩⟩
    · simp [scheduleAll, hsched] at h
    · simp only [List.cons_append, scheduleAll, hsched] at h
      obtain ⟨l₀, l₂, hpre, hn⟩ := ih h
      exact ⟨l₀, l₂, by simp [scheduleAll, hsched, hpre], hn⟩

theorem scheduleAll_of_error {l l' : Line} {ns : List Notification} {err : BridgeError}
    (h : l.scheduleAll ns = (l', .error err)) :
    ∃ pre n post l₀, ns = pre ++ n :: post ∧ l.scheduleAll pre = (l₀, .ok ()) ∧
      l₀.schedule n = (l', .error err) := by
  induction ns generalizing l with
  | nil => cases h
  | cons n rest ih =>
    rcases hsched : l.schedule n with ⟨l₁, e | ⟨⟩⟩
    · -- the first schedule is refused: nothing was scheduled before it
      simp only [scheduleAll, hsched, Prod.mk.injEq, Except.error.injEq] at h
      obtain ⟨rfl, rfl⟩ := h
      exact ⟨[], n, rest, l, rfl, rfl, hsched⟩
    · simp only [scheduleAll, hsched] at h
      obtain ⟨pre, m, post, l₀, rfl, hpre, hm⟩ := ih h
      exact ⟨n :: pre, m, post, l₀, rfl, by simp [scheduleAll, hsched, hpre], hm⟩

end Line

namespace Subscriber

variable {s : Subscriber}

theorem sendAll_eq_scheduleAll (m : Bool) (us : List SessionUpdate) :
    s.sendAll m us = ({ s with line := (s.line.scheduleAll (us.map (s.notification · m))).1 },
      (s.line.scheduleAll (us.map (s.notification · m))).2) := by
  induction us generalizing s with
  | nil => rfl
  | cons u rest ih =>
    rcases hsched : s.line.schedule (s.notification u m) with ⟨l₁, e | ⟨⟩⟩
    · simp [sendAll, send_eq, hsched, Line.scheduleAll]
    · simp only [sendAll, send_eq, hsched, List.map_cons, Line.scheduleAll]
      rw [ih, notification_with_line]

theorem handle_eq_dispatch (e : Event) : s.handle e = (s.dispatch e s.streaming).1 := rfl

end Subscriber

/-- Discrete-path delivery. Take any subscriber and any event, and let `run` schedule the
event's updates under the subscriber's streaming flag, in order, each for the subscriber's
session with the metrics of its totals under its key, stopping at the first refusal. Then
dispatching the event is that run: it leaves the line the run leaves and returns the run's
outcome. Handling the event keeps the line the run leaves and nothing else changes: not the
tracker of the token path, not the totals, not the flags. If the run succeeds, every update was
scheduled; if it fails, the updates before the refused one were scheduled, the refused one
failed with exactly the error returned, and none after it was tried. -/
theorem handle_delivers_prefix (s : Subscriber) (e : Event) :
    let us := translate e s.streaming
    let note := fun u => (⟨s.sessionId, u,
      metadata? s.metricsKey (if s.statsAttached then some s.totals else none)⟩ : Notification)
    let run := s.line.scheduleAll (us.map note)
    s.dispatch e s.streaming = ({ s with line := run.1 }, run.2) ∧
      s.handle e = { s with line := run.1 } ∧
      (∀ l, run = (l, .ok ()) → ∀ pre u post, us = pre ++ u :: post →
        ∃ l₀ l₁, s.line.scheduleAll (pre.map note) = (l₀, .ok ()) ∧ l₀.schedule (note u) = (l₁, .ok ())) ∧
      (∀ l err, run = (l, .error err) →
        ∃ pre u post l₀, us = pre ++ u :: post ∧ s.line.scheduleAll (pre.map note) = (l₀, .ok ()) ∧
          l₀.schedule (note u) = (l, .error err)) := by
  intro us note run
  have hdispatch : s.dispatch e s.streaming = ({ s with line := run.1 }, run.2) :=
    Subscriber.sendAll_eq_scheduleAll true us
  refine ⟨hdispatch, by rw [Subscriber.handle_eq_dispatch, hdispatch], ?_, ?_⟩
  · intro l hrun pre u post hsplit
    have hmap : us.map note = pre.map note ++ note u :: post.map note := by simp [hsplit]
    exact Line.scheduleAll_of_ok hrun hmap
  · intro l err hrun
    -- the refused notification is the note of an update; cut the updates where it stands
    obtain ⟨npre, n, npost, l₀, hsplit, hpre, hn⟩ := Line.scheduleAll_of_error hrun
    obtain ⟨pre, rest, hus, rfl, hrest⟩ := List.map_eq_append_iff.mp hsplit
    obtain ⟨u, post, rfl, rfl, -⟩ := List.map_eq_cons_iff.mp hrest
    exact ⟨pre, u, post, l₀, hus, hpre, hn⟩

-- A client that takes one notification: of a task list's two updates the plan is taken, the
-- close of its call is refused, and handling the event still succeeds.
example :
    let s : Subscriber := ⟨"s", false, "m", false, .empty, .empty, ⟨.inline false, { limit := some 1 }, []⟩⟩
    let e : Event := .observation ⟨"task_tracker", "c1", .taskTracker ⟨"view", []⟩⟩
    (s.handle e).line.client.taken.map (·.update.kindName) = ["plan"] ∧
      (s.dispatch e s.streaming).2 = .error .connectionClosed := by
  decide +kernel

end Bridge
end AcpBridge
