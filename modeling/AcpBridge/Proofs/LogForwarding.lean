import Mathlib
import AcpBridge.Cli.LoggingClient

/-!
# The notification log never changes forwarding

A logging client writes each notification to its log, then hands it to the client it wraps.
Whatever the log does (logging off because its directory could not be made, the file not yet
open or open, opening, writing or flushing failing), the wrapped client is stepped once per
notification with that notification, and its answer is the answer (`sessionUpdate_inner`,
`sessionUpdate_answer`). Over a run, the wrapped client goes through exactly the states and
answers it goes through without the log (`run_forwards`).

When logging is on and no entry fails, the log's file gains one line per notification, in
order, each holding the direction `<<<` and the notification's JSON-RPC message
(`run_appends`). What a write does to a file is taken from the system (`LogSystem.Appends`):
opening for appending keeps the text, a write adds its text at the end, a flush keeps the text.

The client the program runs keeps its log in the client itself (`Client.receive`); there too the
log is apart from forwarding and gains each notification's message (`Client.receive_log`).
-/

namespace AcpBridge
namespace Cli

open Bridge Session

variable {σ φ : Type}

/-- Hand notifications to a client one after another: the client after them and its answers in
order. -/
def stepAll (step : σ → Notification → σ × Except BridgeError Unit) :
    σ → List Notification → σ × List (Except BridgeError Unit)
  | s, [] => (s, [])
  | s, n :: ns =>
    let rest := stepAll step (step s n).1 ns
    (rest.1, (step s n).2 :: rest.2)

/-- How the system's file operations change the text of a file, as far as they succeed: opening
for appending keeps the text, a write adds its text at the end, a flush keeps the text. -/
structure LogSystem.Appends (sys : LogSystem φ) (text : String → φ → String) : Prop where
  openAppend : ∀ p w, (sys.openAppend p w).2 = .ok () → text p (sys.openAppend p w).1 = text p w
  write : ∀ p t w, (sys.write p t w).2 = .ok () → text p (sys.write p t w).1 = text p w ++ t
  flush : ∀ p w, (sys.flush p w).2 = .ok () → text p (sys.flush p w).1 = text p w

namespace LoggingClient

variable (sys : LogSystem φ) (step : σ → Notification → σ × Except BridgeError Unit)

/-- Hand notifications to a logging client one after another: the client and the system after
them, the answers in order, and the warnings in order. -/
def run : LoggingClient σ → φ → List Notification →
    (LoggingClient σ × φ) × List (Except BridgeError Unit) × List LogRecord
  | c, w, [] => ((c, w), [], [])
  | c, w, n :: ns =>
    let u := c.sessionUpdate sys step w n
    let rest := run u.1.1 u.1.2 ns
    (rest.1, u.2.1 :: rest.2.1, u.2.2.toList ++ rest.2.2)

/-! ## One notification -/

@[simp] theorem sessionUpdate_inner (c : LoggingClient σ) (w : φ) (n : Notification) :
    (c.sessionUpdate sys step w n).1.1.inner = (step c.inner n).1 := rfl

@[simp] theorem sessionUpdate_answer (c : LoggingClient σ) (w : φ) (n : Notification) :
    (c.sessionUpdate sys step w n).2.1 = (step c.inner n).2 := rfl

@[simp] theorem sessionUpdate_path (c : LoggingClient σ) (w : φ) (n : Notification) :
    (c.sessionUpdate sys step w n).1.1.path = c.path := rfl

theorem writeEntry_of_no_warning {c : LoggingClient σ} {w : φ} {n : Notification}
    (hon : c.enabled = true) (hquiet : (c.sessionUpdate sys step w n).2.2 = none) :
    (c.writeEntry sys n w).2 = .ok () ∧
      (c.sessionUpdate sys step w n).1.2 = (c.writeEntry sys n w).1.2 := by
  have hlogged : (c.sessionUpdate sys step w n).1.2 = (c.writeEntry sys n w).1.2 := by
    simp only [sessionUpdate, hon, if_true]
  refine ⟨?_, hlogged⟩
  simp only [sessionUpdate, hon, if_true] at hquiet
  cases hentry : (c.writeEntry sys n w).2 with
  | ok u => rfl
  | error why => simp [hentry] at hquiet

theorem writeEntry_appends {text : String → φ → String} (hsys : sys.Appends text)
    {c : LoggingClient σ} {n : Notification} {w : φ} (h : (c.writeEntry sys n w).2 = .ok ()) :
    text c.path (c.writeEntry sys n w).1.2 = text c.path w ++ logLine (sys.now w) n.toRpc := by
  unfold writeEntry at h ⊢
  generalize logLine (sys.now w) n.toRpc = line at h ⊢
  -- the text when writing starts is the text before, whether or not the file had to be opened
  have hopened : ∀ opening : φ × Except String Unit,
      (if c.opened then (w, .ok ()) else sys.openAppend c.path w) = opening →
      opening.2 = .ok () → text c.path opening.1 = text c.path w := by
    rintro opening rfl hok
    split
    · rfl
    · exact hsys.openAppend _ _ (by simpa [*] using hok)
  generalize hopening : (if c.opened then (w, .ok ()) else sys.openAppend c.path w) = opening
    at h ⊢
  obtain ⟨w₀, r₀ | ⟨⟩⟩ := opening
  · cases h
  have htext₀ := hopened _ hopening rfl
  dsimp only at h ⊢
  rcases hwritten : sys.write c.path line w₀ with ⟨w₁, r₁ | ⟨⟩⟩
  · simp [hwritten] at h
  have htext₁ : text c.path w₁ = text c.path w₀ ++ line := by
    have := hsys.write c.path line w₀ (by rw [hwritten])
    rwa [hwritten] at this
  simp only [hwritten] at h ⊢
  rw [hsys.flush _ _ h, htext₁, htext₀]

/-! ## A run -/

theorem run_forwards (c : LoggingClient σ) (w : φ) (ns : List Notification) :
    ((run sys step c w ns).1.1.inner, (run sys step c w ns).2.1) = stepAll step c.inner ns := by
  induction ns generalizing c w with
  | nil => rfl
  | cons n ns ih =>
    have hrest := ih (c.sessionUpdate sys step w n).1.1 (c.sessionUpdate sys step w n).1.2
    simp only [sessionUpdate_inner] at hrest
    simp only [run, stepAll, ← hrest, sessionUpdate_answer]

theorem run_appends {text : String → φ → String} (hsys : sys.Appends text)
    (c : LoggingClient σ) (w : φ) (ns : List Notification) (hon : c.enabled = true)
    (hquiet : (run sys step c w ns).2.2 = []) :
    ∃ stamps : List Stamp, stamps.length = ns.length ∧
      text c.path (run sys step c w ns).1.2 =
        text c.path w ++ String.join (List.zipWith (fun s n => logLine s n.toRpc) stamps ns) := by
  induction ns generalizing c w with
  | nil => exact ⟨[], rfl, by simp [run]⟩
  | cons n ns ih =>
    simp only [run, List.append_eq_nil_iff, Option.toList_eq_nil_iff] at hquiet ⊢
    obtain ⟨hfirst, hrest⟩ := hquiet
    obtain ⟨hentry, hafter⟩ := writeEntry_of_no_warning sys step hon hfirst
    -- the rest of the run logs to the same file, still on
    obtain ⟨stamps, hlen, htext⟩ :=
      ih (c.sessionUpdate sys step w n).1.1 (c.sessionUpdate sys step w n).1.2 hon hrest
    refine ⟨sys.now w :: stamps, by simp [hlen], ?_⟩
    rw [sessionUpdate_path] at htext
    rw [htext, hafter, writeEntry_appends sys hsys hentry]
    simp [String.append_assoc]

end LoggingClient

/-! ## The client the program runs -/

theorem Client.receive_log (cl : Client) (l : Option (List Json)) (n : Notification) :
    ({ cl with log := l } : Client).receive n =
      ({ (cl.receive n).1 with log := l.map (· ++ [n.toRpc]) }, (cl.receive n).2) := by
  unfold Client.receive
  by_cases haccept : cl.accepts = true
  · have haccept' : ({ cl with log := l } : Client).accepts = true := haccept
    simp only [haccept, haccept', if_true]
  · have haccept' : ¬({ cl with log := l } : Client).accepts = true := haccept
    simp only [haccept, haccept', Bool.false_eq_true, if_false]

/-- The notification log never changes forwarding. Over any system, whatever opening, writing
and flushing the log do, and from any state of a logging client (logging on or off, its file
open or not), a run hands each notification to the wrapped client once, as it is, and answers
with the wrapped client's answers: the wrapped client goes through exactly the states and
answers it goes through without the log. With logging on and no entry failing (no warning), the
log's file gains one line per notification, in order, with the direction `<<<` and the
notification's JSON-RPC message. The client the program runs keeps its log apart from
forwarding in the same way. -/
theorem logging_never_changes_forwarding (sys : LogSystem φ)
    (step : σ → Notification → σ × Except BridgeError Unit) (c : LoggingClient σ) (w : φ)
    (ns : List Notification) :
    ((c.run sys step w ns).1.1.inner, (c.run sys step w ns).2.1) = stepAll step c.inner ns ∧
    (∀ text : String → φ → String, sys.Appends text → c.enabled = true →
      (c.run sys step w ns).2.2 = [] →
      ∃ stamps : List Stamp, stamps.length = ns.length ∧
        text c.path (c.run sys step w ns).1.2 =
          text c.path w ++ String.join (List.zipWith (fun s n => logLine s n.toRpc) stamps ns)) ∧
    ∀ (cl : Client) (l : Option (List Json)) (n : Notification),
      ({ cl with log := l } : Client).receive n =
        ({ (cl.receive n).1 with log := l.map (· ++ [n.toRpc]) }, (cl.receive n).2) :=
  ⟨LoggingClient.run_forwards sys step c w ns,
    fun _ hsys hon hquiet => LoggingClient.run_appends sys step hsys c w ns hon hquiet,
    Client.receive_log⟩

/-- A log kept as one text by a system where nothing fails, in front of a client without limit:
with the client made in a directory that could be made, handing one notification over gives no
warning, and the log gains the notification's line. -/
theorem logging_never_changes_forwarding_quiet :
    let sys : LogSystem String := ⟨fun _ => ⟨2026, 1, 1, 0, 0, 0⟩, fun _ w => (w, .ok ()),
      fun _ t w => (w ++ t, .ok ()), fun _ w => (w, .ok ())⟩
    let c := LoggingClient.create ({} : Client) "logs" ⟨2026, 1, 1, 0, 0, 0⟩ (.ok ())
    let n : Notification := ⟨"s1", .thought "a", none⟩
    sys.Appends (fun _ w => w) ∧ c.enabled = true ∧
      (c.run sys (fun cl m => cl.receive m) "" [n]).2.2 = [] ∧
      ∃ stamps : List Stamp, stamps.length = [n].length ∧
        (c.run sys (fun cl m => cl.receive m) "" [n]).1.2 =
          "" ++ String.join (List.zipWith (fun s m => logLine s m.toRpc) stamps [n]) := by
  intro sys c n
  have hsys : sys.Appends (fun _ w => w) :=
    ⟨fun _ _ _ => rfl, fun _ _ _ _ => rfl, fun _ _ _ => rfl⟩
  have hon : c.enabled = true := rfl
  have hquiet : (c.run sys (fun cl m => cl.receive m) "" [n]).2.2 = [] := rfl
  exact ⟨hsys, hon, hquiet,
    (logging_never_changes_forwarding sys _ c "" [n]).2.1 _ hsys hon hquiet⟩

end Cli
end AcpBridge
