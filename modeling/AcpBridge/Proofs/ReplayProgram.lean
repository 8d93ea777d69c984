import Mathlib
import AcpBridge.Proofs.ReplayRun
import AcpBridge.Cli.Run
import AcpBridge.Proofs.AlongsideDelivery
import AcpBridge.Proofs.TraceLines

/-!
# The program's replay

The program replays a trace through a queue whose consumer runs alongside the replay and
writes each notification on standard output. On a host whose answers do not change, what it
writes is what the library's replay of the same items hands a client that takes every
notification, one JSON-RPC line each, in order (`replay_refines_library`): with the session
and the configuration the command line and the configuration files give, with or without the
notification log. A configuration, a trace or a trace text that fails writes nothing and
ends with status 1.

The queue is the channel of `Proofs/ChannelDelivery`, with a producer that may wait: a run of it
can always reach the consumer's end, and every run that reached it answered each schedule Ok and
passed the library's notifications in order, so what the program writes is what that run
passed to the client.

The queue is set up before the trace is read, and a queue of more places than
`Bridge.queueLimit` cannot be: the program then panics and writes nothing, whatever the
trace (`replay_of_large_capacity`), though the configuration loaded and the trace may parse
(`replay_panics_of_large_capacity`).

## Lines change only by scheduling

A replay changes its line only by scheduling notifications on it: a property of lines that
every schedule keeps holds after the whole replay (`line_replay`). A queue whose consumer
runs alongside holds nothing back (`Line.AlongsideEmpty`), so draining it after the replay
adds nothing.
-/

namespace AcpBridge
namespace Bridge
namespace Subscriber

open Session Agent

section LineInvariant

variable {P : Line → Prop} (hP : ∀ l n, P l → P (l.schedule n).1)
include hP

theorem line_sendAll (s : Subscriber) (m : Bool) (us : List SessionUpdate) (h : P s.line) :
    P (s.sendAll m us).1.line := by
  induction us generalizing s with
  | nil => exact h
  | cons u rest ih =>
    have hsend : P (s.send m u).1.line := hP _ _ h
    unfold sendAll
    rcases hs : s.send m u with ⟨s', _ | _⟩
    · rw [hs] at hsend
      exact hsend
    · rw [hs] at hsend
      exact ih s' hsend

theorem line_toolCalls (s : Subscriber) (ds : List ToolCallDelta) (h : P s.line) :
    P (s.toolCalls ds).1.line := by
  induction ds generalizing s with
  | nil => exact h
  | cons d rest ih =>
    unfold toolCalls
    rcases hobs : s.tracker.observe d with ⟨tracker, actions⟩
    have hsend := line_sendAll hP ({ s with tracker := tracker } : Subscriber) false
      (actions.map streamUpdate) h
    dsimp only
    rcases hs : ({ s with tracker := tracker } : Subscriber).sendAll false (actions.map streamUpdate)
      with ⟨s', _ | _⟩
    · rw [hs] at hsend
      exact hsend
    · rw [hs] at hsend
      exact ih s' hsend

theorem line_streamDelta (s : Subscriber) (d : Delta) (h : P s.line) : P (s.streamDelta d).1.line := by
  have hcalls := line_toolCalls hP s (d.toolCalls.getD []) h
  unfold streamDelta
  rcases hs : s.toolCalls (d.toolCalls.getD []) with ⟨s', _ | _⟩
  · rw [hs] at hcalls
    exact hcalls
  · rw [hs] at hcalls
    exact line_sendAll hP s' false _ hcalls

theorem line_streamDeltas (s : Subscriber) (ds : List Delta) (h : P s.line) :
    P (s.streamDeltas ds).1.line := by
  induction ds generalizing s with
  | nil => exact h
  | cons d rest ih =>
    have hdelta := line_streamDelta hP s d h
    unfold streamDeltas
    rcases hs : s.streamDelta d with ⟨s', _ | _⟩
    · rw [hs] at hdelta
      exact hdelta
    · rw [hs] at hdelta
      exact ih s' hdelta

theorem line_feed (s : Subscriber) (sum : Summary) (item : TraceItem) (h : P s.line) :
    P (s.feed sum item).1.line := by
  cases item with
  | event e => exact line_sendAll hP s true _ h
  | token c =>
    have htoken : P (s.onToken c).1.line := line_streamDeltas hP s _ h
    rcases hs : s.onToken c with ⟨s', _ | _⟩
    · simpa only [feed, hs] using htoken
    · simpa only [feed, hs] using htoken
  | usage u cost => exact h
  | newTurn => exact h

theorem line_replay (s : Subscriber) (items : List TraceItem) (h : P s.line) :
    P (s.replay items).1.line := by
  -- the run: each item keeps the property, and a failure stops with the line it left
  suffices hall : ∀ (s : Subscriber) (sum : Summary), P s.line → P (s.feedAll sum items).1.line from
    hall s {} h
  induction items with
  | nil => intro s sum h; exact h
  | cons item rest ih =>
    intro s sum h
    have hfeed := line_feed hP s sum item h
    unfold feedAll
    rcases hs : s.feed sum item with ⟨s', _ | sum'⟩
    · rw [hs] at hfeed
      exact hfeed
    · rw [hs] at hfeed
      exact ih s' sum' hfeed

end LineInvariant

end Subscriber

def Line.AlongsideEmpty (l : Line) : Prop := (∃ c, l.route = .queue c .alongside) ∧ l.queued = []

theorem Line.AlongsideEmpty.schedule {l : Line} (h : l.AlongsideEmpty) (n : Session.Notification) :
    (l.schedule n).1.AlongsideEmpty := by
  obtain ⟨⟨c, hroute⟩, hqueued⟩ := h
  unfold Line.schedule
  rw [hroute]
  exact ⟨⟨c, rfl⟩, hqueued⟩

theorem Line.AlongsideEmpty.drain_client {l : Line} (h : l.AlongsideEmpty) : l.drain.client = l.client := by
  simp [Line.drain, h.2, Client.receiveAll]

end Bridge

namespace Cli

open Bridge Session

/-- The library's replay of items: a fresh subscriber of a configuration, with the session's
totals attached, on a client that takes every notification at once. -/
def libraryReplay (session : String) (config : Config) (items : List TraceItem) :
    Subscriber × Except BridgeError Summary :=
  (Subscriber.ofConfig session config ⟨.inline false, {}, []⟩ true).replay items

section Queue

variable (session : String) (config : Config) (log : Option (List Json)) (items : List TraceItem)

theorem queue_taken :
    ((Subscriber.ofConfig session config ⟨.queue config.channelCapacity .alongside, { log := log }, []⟩
      true).replay items).1.line.drain.client.taken = (libraryReplay session config items).1.line.client.taken := by
  let s := Subscriber.ofConfig session config ⟨.queue config.channelCapacity .alongside, { log := log }, []⟩ true
  -- the queue holds nothing back, so draining it adds nothing
  have hempty : (s.replay items).1.line.AlongsideEmpty :=
    Subscriber.line_replay (fun _ n h => h.schedule n) s items ⟨⟨_, rfl⟩, rfl⟩
  have hqueue : (⟨.queue config.channelCapacity .alongside, { log := log }, []⟩ : Line).Accepting :=
    ⟨rfl, .inr ⟨_, rfl⟩⟩
  have hinline : (⟨.inline false, {}, []⟩ : Line).Accepting := ⟨rfl, .inl rfl⟩
  rw [hempty.drain_client]
  exact Subscriber.replay_taken_eq (s := s) hqueue hinline rfl items

theorem queue_outcome_ne_error (e : BridgeError) :
    ((Subscriber.ofConfig session config ⟨.queue config.channelCapacity .alongside, { log := log }, []⟩
      true).replay items).2 ≠ .error e := by
  obtain ⟨sum, hsum, -⟩ := Subscriber.replay_of_accepting
    (s := Subscriber.ofConfig session config ⟨.queue config.channelCapacity .alongside, { log := log }, []⟩ true)
    ⟨rfl, .inr ⟨_, rfl⟩⟩ items
  rw [hsum]
  intro h
  cases h

end Queue

theorem libraryReplay_ok (session : String) (config : Config) (items : List TraceItem) :
    ∃ sum, (libraryReplay session config items).2 = .ok sum := by
  obtain ⟨sum, hsum, -⟩ := Subscriber.replay_of_accepting
    (s := Subscriber.ofConfig session config ⟨.inline false, {}, []⟩ true) ⟨rfl, .inl rfl⟩ items
  exact ⟨sum, hsum⟩

/-! ## The program on a host that does not change -/

variable (host : Host Id) (lookup : String → Option String) (cwd : String) (args : ReplayArgs)

@[simp] theorem run_sessionOf (given : Option String) :
    Id.run (sessionOf host given) = given.getD (Id.run host.freshId) := by
  cases given <;> rfl

theorem run_of_replay {argv : List String} (h : parse lookup argv = .replay args) :
    run host lookup cwd argv = replay host lookup cwd args := by
  simp only [run, h]

def loaded : Except ConfigError Config :=
  Id.run (loadConfig host lookup (homeDir lookup (Id.run host.accountHome)) cwd args.workingDir)

def configured : Except ConfigError Config :=
  (loaded host lookup cwd args).map (·.withArgs args.noStreaming args.debug)

theorem loaded_of_configured {config : Config} (h : configured host lookup cwd args = .ok config) :
    ∃ base, loaded host lookup cwd args = .ok base ∧ base.withArgs args.noStreaming args.debug = config := by
  unfold configured at h
  cases hload : loaded host lookup cwd args with
  | error e =>
    rw [hload] at h
    cases h
  | ok base =>
    rw [hload] at h
    cases h
    exact ⟨base, rfl, rfl⟩

theorem loaded_of_configured_error {e : ConfigError} (h : configured host lookup cwd args = .error e) :
    loaded host lookup cwd args = .error e := by
  unfold configured at h
  cases hload : loaded host lookup cwd args with
  | error e' =>
    rw [hload] at h
    cases h
    rfl
  | ok base =>
    rw [hload] at h
    cases h

theorem replay_of_config_error {e : ConfigError} (h : configured host lookup cwd args = .error e) :
    Id.run (replay host lookup cwd args) = { status := 1, err := explain e.message none } := by
  have hload := loaded_of_configured_error host lookup cwd args h
  simp only [loaded] at hload
  simp only [replay, Id.run_bind, Id.run_pure, hload]

theorem replay_of_large_capacity {config : Config} (hconfig : configured host lookup cwd args = .ok config)
    (hcap : queueLimit < config.channelCapacity) :
    (Id.run (replay host lookup cwd args)).status = panicStatus ∧
      (Id.run (replay host lookup cwd args)).out = "" := by
  obtain ⟨base, hload, rfl⟩ := loaded_of_configured host lookup cwd args hconfig
  obtain ⟨why, hwhy⟩ := refusal_of_exceeds .alongside hcap
  simp only [loaded] at hload
  simp only [replay, Id.run_bind, hload, hwhy]
  exact ⟨rfl, rfl⟩

section Fits

/- From here on the configuration is loaded and its queue can be set up: the run goes on to
read the trace. -/
variable {host lookup cwd args} {config : Config} (hconfig : configured host lookup cwd args = .ok config)
  (hcap : config.channelCapacity ≤ queueLimit)
include hconfig hcap

theorem replay_of_trace_error {why : String} (htrace : Id.run (traceText host args.trace) = .error why) :
    (Id.run (replay host lookup cwd args)).status = 1 ∧ (Id.run (replay host lookup cwd args)).out = "" := by
  obtain ⟨base, hload, rfl⟩ := loaded_of_configured host lookup cwd args hconfig
  simp only [loaded] at hload
  simp only [replay, Id.run_bind, hload, run_sessionOf, refusal_of_fits _ hcap, htrace]
  exact ⟨rfl, rfl⟩

theorem replay_of_parse_error {text : String} {e : TraceError}
    (htrace : Id.run (traceText host args.trace) = .ok text) (hparse : parseTrace text = .error e) :
    (Id.run (replay host lookup cwd args)).status = 1 ∧ (Id.run (replay host lookup cwd args)).out = "" := by
  obtain ⟨base, hload, rfl⟩ := loaded_of_configured host lookup cwd args hconfig
  simp only [loaded] at hload
  simp only [replay, Id.run_bind, hload, run_sessionOf, refusal_of_fits _ hcap, htrace, hparse]
  exact ⟨rfl, rfl⟩

theorem replay_of_items {text : String} {items : List TraceItem}
    (htrace : Id.run (traceText host args.trace) = .ok text) (hitems : parseTrace text = .ok items) :
    (Id.run (replay host lookup cwd args)).status = 0 ∧
      (Id.run (replay host lookup cwd args)).out = String.join ((libraryReplay
        (args.session.getD (Id.run host.freshId)) config items).1.line.client.taken.map Notification.line) := by
  obtain ⟨base, hload, rfl⟩ := loaded_of_configured host lookup cwd args hconfig
  simp only [loaded] at hload
  simp only [replay, Id.run_bind, hload, run_sessionOf, refusal_of_fits _ hcap, htrace, hitems]
  split
  · -- the replay gave its summary: status 0, and a line for each notification the client took
    refine ⟨rfl, ?_⟩
    simp only [Id.run_pure, queue_taken]
  · rename_i e heq
    exact absurd heq (queue_outcome_ne_error _ _ _ _ e)

end Fits

/-- What the program writes is what the library's replay hands its client: for every command
line that asks for a replay, a configuration that fails, a trace that cannot be read or a trace
text that is not a trace ends the program with status 1 before it writes anything; otherwise,
while the queue can be set up, the library's replay succeeds, the program ends with status 0,
and it writes one line for each notification the library's client takes, in order. Those
notifications `ns` go through the program's queue: a run of the channel in which the producer,
which may wait, offers them can always reach the consumer's end, and in every run that did,
each schedule answered Ok and the lines written are those of the notifications the consumer
passed, in the order it passed them. -/
theorem replay_refines_library (argv : List String) (hargs : parse lookup argv = .replay args) :
    let exit := Id.run (run host lookup cwd argv)
    let session := args.session.getD (Id.run host.freshId)
    ((∃ e, configured host lookup cwd args = .error e) → exit.status = 1 ∧ exit.out = "") ∧
    ∀ config, configured host lookup cwd args = .ok config → config.channelCapacity ≤ queueLimit →
      ((∃ why, Id.run (traceText host args.trace) = .error why) → exit.status = 1 ∧ exit.out = "") ∧
      ∀ text, Id.run (traceText host args.trace) = .ok text →
        ((∃ e, parseTrace text = .error e) → exit.status = 1 ∧ exit.out = "") ∧
        ∀ items, parseTrace text = .ok items →
          let ns := (libraryReplay session config items).1.line.client.taken
          (∃ sum, (libraryReplay session config items).2 = .ok sum) ∧ exit.status = 0 ∧
          exit.out = String.join (ns.map Notification.line) ∧
          (∃ ch, Channel.Reachable ns.length config.channelCapacity true ch ∧ ch.finished = true) ∧
          ∀ ch, Channel.Reachable ns.length config.channelCapacity true ch → ch.finished = true →
            ch.results = List.replicate ns.length (.ok ()) ∧
            exit.out = String.join (((passes ch.calls).filterMap (ns[·]?)).map Notification.line) := by
  intro exit session
  have hexit : exit = Id.run (replay host lookup cwd args) := by
    simp only [exit, run_of_replay host lookup cwd args hargs]
  rw [hexit]
  refine ⟨?_, fun config hconfig hcap => ⟨?_, fun text htrace => ⟨?_, fun items hitems => ?_⟩⟩⟩
  · rintro ⟨e, he⟩
    rw [replay_of_config_error host lookup cwd args he]
    exact ⟨rfl, rfl⟩
  · rintro ⟨why, htrace⟩
    exact replay_of_trace_error hconfig hcap htrace
  · rintro ⟨e, hparse⟩
    exact replay_of_parse_error hconfig hcap htrace hparse
  · intro ns
    obtain ⟨hstatus, hout⟩ := replay_of_items hconfig hcap htrace hitems
    refine ⟨libraryReplay_ok _ _ _, hstatus, hout, Channel.exists_finished _ _ _, ?_⟩
    -- a run of the queue that reached its end passed the notifications in the producer's order
    intro ch hch hfin
    obtain ⟨hresults, hpasses⟩ := hch.passes_of_finished hfin
    refine ⟨hresults, ?_⟩
    rw [hout, hpasses, filterMap_range_getElem?]

/-- A host with nothing on disk but a configuration file of the given text in the working
directory "wd", and the given text on standard input. -/
def quietHost (configText input : String) : Host Id where
  entry path := pure (if path = "wd/octo-acp.json" then .ok (.file configText) else .error .notFound)
  makeDirs _ := pure (.ok ())
  append _ _ := pure (.ok ())
  input := pure input
  now := pure ⟨2026, 1, 1, 0, 0, 0⟩
  freshId := pure "fresh"
  accountHome := pure none

/-- A trace of one pause event on standard input: it reads as that event, and the program
replays it as the library does. -/
theorem replay_refines_library_pause :
    let text := "\x7b\"type\": \"event\", \"event\": \x7b\"kind\": \"PauseEvent\"\x7d\x7d"
    let exit := Id.run (run (quietHost "\x7b\x7d" text) (fun _ => none) "wd" ["replay", "--session", "sess"])
    let ns := (libraryReplay "sess" {} [.event .pause]).1.line.client.taken
    parseTrace text = .ok [.event .pause] ∧
      (∃ sum, (libraryReplay "sess" {} [.event .pause]).2 = .ok sum) ∧ exit.status = 0 ∧
      exit.out = String.join (ns.map Notification.line) ∧
      (∃ ch, Channel.Reachable ns.length (({} : Config).channelCapacity) true ch ∧ ch.finished = true) ∧
      ∀ ch, Channel.Reachable ns.length (({} : Config).channelCapacity) true ch → ch.finished = true →
        ch.results = List.replicate ns.length (.ok ()) ∧
        exit.out = String.join (((passes ch.calls).filterMap (ns[·]?)).map Notification.line) := by
  have hitem : TraceItem.ofLine "\x7b\"type\": \"event\", \"event\": \x7b\"kind\": \"PauseEvent\"\x7d\x7d" =
      .ok (.event .pause) := by rfl
  have hparse := parseTrace_of_line (by decide) (by decide +kernel) hitem
  intro text exit ns
  exact ⟨hparse, (((replay_refines_library (quietHost "\x7b\x7d" text) (fun _ => none) "wd"
    { session := some "sess" } ["replay", "--session", "sess"] (by decide)).2 {} (by decide +kernel)
    (by decide)).2 text rfl).2 [.event .pause] hparse⟩

/-- With a queue of `2 ^ 64 - 1` places configured, the configuration loads and the empty trace
parses, yet the program panics: it ends with status 101 and writes nothing. -/
theorem replay_panics_of_large_capacity :
    configured (quietHost "\x7b\"channel_capacity\": 18446744073709551615\x7d" "") (fun _ => none) "wd"
        { session := some "sess" } = .ok { channelCapacity := 18446744073709551615 } ∧
      parseTrace "" = .ok [] ∧
      (Id.run (run (quietHost "\x7b\"channel_capacity\": 18446744073709551615\x7d" "") (fun _ => none) "wd"
        ["replay", "--session", "sess"])).status = panicStatus ∧
      (Id.run (run (quietHost "\x7b\"channel_capacity\": 18446744073709551615\x7d" "") (fun _ => none) "wd"
        ["replay", "--session", "sess"])).out = "" := by
  have hargs : parse (fun _ => none) ["replay", "--session", "sess"] = .replay { session := some "sess" } := by
    decide
  have hconfig : configured (quietHost "\x7b\"channel_capacity\": 18446744073709551615\x7d" "") (fun _ => none)
      "wd" { session := some "sess" } = .ok { channelCapacity := 18446744073709551615 } := by
    decide +kernel
  rw [run_of_replay _ _ _ _ hargs]
  exact ⟨hconfig, rfl, replay_of_large_capacity _ _ _ _ hconfig (by decide)⟩

end Cli

end AcpBridge
