import Mathlib
import AcpBridge.Bridge.Route

/-!
# Delivery through the bounded queue

In channel mode, one producer schedules notifications into a bounded queue while a consumer
task takes them out one at a time and passes each to the client, awaiting the client's answer
before taking the next. The queue has `max c 1` places for a configured capacity `c`, and it
can be set up only while that is at most `queueLimit` (`refusal_eq_none_iff`).

`Channel.Step` interleaves the producer's and the consumer's steps in any order. The producer
tries to queue its next notification; on a full queue it waits if it may (a plain thread, or a
worker of a runtime with several threads), else its send fails. The consumer may also be
stopped, which closes the queue and drops what it held.

## What every run keeps

The queue never holds more than its places; the notifications passed to the client are a
prefix of those whose scheduling answered Ok, each passed once, and a call is answered before
the next is passed; a consumer that ran to its end passed exactly those
(`channel_delivery`). `Line.schedule` on a queue whose consumer runs afterwards, or was
stopped, is the producer's step on such a channel (`schedule_afterwards`, `schedule_stopped`).
-/

namespace AcpBridge
namespace Bridge

open Session

/-! ## Setting a queue up -/

theorem refusal_eq_none_iff (c : Nat) (k : Consumer) :
    (Route.queue c k).refusal = none ↔ max c 1 ≤ queueLimit := by
  unfold Route.refusal
  by_cases hlimit : queueLimit < max c 1
  · simp only [if_pos hlimit, reduceCtorEq, false_iff]
    omega
  · simp only [if_neg hlimit, true_iff]
    omega

theorem refusal_of_fits {c : Nat} (k : Consumer) (h : c ≤ queueLimit) :
    (Route.queue c k).refusal = none :=
  (refusal_eq_none_iff c k).mpr (max_le h (by decide))

theorem refusal_of_exceeds {c : Nat} (k : Consumer) (h : queueLimit < c) :
    ∃ why, (Route.queue c k).refusal = some why := by
  apply Option.ne_none_iff_exists'.mp
  rw [Ne, refusal_eq_none_iff]
  omega

/-! ## The queue and its consumer -/

/-- What the consumer does with a notification, named by its place in the producer's order. -/
inductive Call where
  | pass (index : Nat)
  | answer (index : Nat) (result : Except BridgeError Unit)

def passes (calls : List Call) : List Nat :=
  calls.filterMap fun
    | .pass i => some i
    | .answer _ _ => none

def succeeded : Except BridgeError Unit → Bool
  | .ok _ => true
  | .error _ => false

def okIndices (results : List (Except BridgeError Unit)) : List Nat :=
  (List.range results.length).filter fun i => (results[i]?.map succeeded).getD false

theorem okIndices_append_singleton (results : List (Except BridgeError Unit))
    (r : Except BridgeError Unit) :
    okIndices (results ++ [r]) =
      okIndices results ++ if succeeded r then [results.length] else [] := by
  unfold okIndices
  rw [List.length_append, List.length_singleton, List.range_succ, List.filter_append]
  congr 1
  · apply List.filter_congr
    intro i hi
    rw [List.getElem?_append_left (List.mem_range.mp hi)]
  · cases hr : succeeded r <;> simp [hr]

theorem nodup_okIndices (results : List (Except BridgeError Unit)) : (okIndices results).Nodup :=
  (List.nodup_range).filter _

theorem succeeded_of_mem_okIndices {results : List (Except BridgeError Unit)} {i : Nat}
    (hi : i ∈ okIndices results) : ∃ r, results[i]? = some r ∧ succeeded r = true := by
  obtain ⟨-, hok⟩ := List.mem_filter.mp hi
  cases hr : results[i]? with
  | none => simp [hr] at hok
  | some r => exact ⟨r, rfl, by simpa [hr] using hok⟩

/-- A channel with one producer and its consumer. Notifications are named by their place in
the producer's order; `results` holds the answers of its schedules so far. -/
structure Channel where
  places : Nat
  canWait : Bool
  results : List (Except BridgeError Unit)
  waiting : Bool
  queue : List Nat
  inFlight : Option Nat
  calls : List Call
  closed : Bool
  dropped : Bool
  finished : Bool

namespace Channel

def start (capacity : Nat) (canWait : Bool) : Channel :=
  ⟨max capacity 1, canWait, [], false, [], none, [], false, false, false⟩

def enqueue (ch : Channel) : Channel :=
  { ch with
    queue := ch.queue ++ [ch.results.length]
    results := ch.results ++ [.ok ()]
    waiting := false }

def refuse (ch : Channel) (e : BridgeError) : Channel :=
  { ch with results := ch.results ++ [.error e], waiting := false }

def offer (ch : Channel) : Channel :=
  if ch.closed then ch.refuse .connectionClosed
  else if ch.queue.length < ch.places then ch.enqueue
  else if ch.canWait then { ch with waiting := true }
  else ch.refuse (.sendFailed queueFullReason)

@[simp] theorem enqueue_queue (ch : Channel) : ch.enqueue.queue = ch.queue ++ [ch.results.length] :=
  rfl
@[simp] theorem enqueue_results (ch : Channel) : ch.enqueue.results = ch.results ++ [.ok ()] := rfl
@[simp] theorem enqueue_calls (ch : Channel) : ch.enqueue.calls = ch.calls := rfl
@[simp] theorem enqueue_inFlight (ch : Channel) : ch.enqueue.inFlight = ch.inFlight := rfl
@[simp] theorem enqueue_closed (ch : Channel) : ch.enqueue.closed = ch.closed := rfl
@[simp] theorem enqueue_dropped (ch : Channel) : ch.enqueue.dropped = ch.dropped := rfl
@[simp] theorem enqueue_finished (ch : Channel) : ch.enqueue.finished = ch.finished := rfl
@[simp] theorem enqueue_places (ch : Channel) : ch.enqueue.places = ch.places := rfl

@[simp] theorem refuse_queue (ch : Channel) (e : BridgeError) : (ch.refuse e).queue = ch.queue := rfl
@[simp] theorem refuse_results (ch : Channel) (e : BridgeError) :
    (ch.refuse e).results = ch.results ++ [.error e] := rfl
@[simp] theorem refuse_calls (ch : Channel) (e : BridgeError) : (ch.refuse e).calls = ch.calls := rfl
@[simp] theorem refuse_inFlight (ch : Channel) (e : BridgeError) :
    (ch.refuse e).inFlight = ch.inFlight := rfl
@[simp] theorem refuse_closed (ch : Channel) (e : BridgeError) :
    (ch.refuse e).closed = ch.closed := rfl
@[simp] theorem refuse_dropped (ch : Channel) (e : BridgeError) :
    (ch.refuse e).dropped = ch.dropped := rfl
@[simp] theorem refuse_finished (ch : Channel) (e : BridgeError) :
    (ch.refuse e).finished = ch.finished := rfl
@[simp] theorem refuse_places (ch : Channel) (e : BridgeError) :
    (ch.refuse e).places = ch.places := rfl

@[simp] theorem offer_places (ch : Channel) : ch.offer.places = ch.places := by
  unfold offer
  split
  · rfl
  · split
    · rfl
    · split <;> rfl

/-- The steps of a run in which the producer schedules `total` notifications. -/
inductive Step (total : Nat) : Channel → Channel → Prop
  | offer (ch : Channel) (hidle : ch.waiting = false) (hheld : ch.dropped = false)
      (hmore : ch.results.length < total) : Step total ch ch.offer
  | wake (ch : Channel) (hwaiting : ch.waiting = true) (hopen : ch.closed = false)
      (hroom : ch.queue.length < ch.places) : Step total ch ch.enqueue
  | wakeClosed (ch : Channel) (hwaiting : ch.waiting = true) (hclosed : ch.closed = true) :
      Step total ch (ch.refuse .connectionClosed)
  | drop (ch : Channel) (hidle : ch.waiting = false) (hdone : ch.results.length = total) :
      Step total ch { ch with dropped := true }
  | receive (ch : Channel) (i : Nat) (rest : List Nat) (hopen : ch.closed = false)
      (hidle : ch.inFlight = none) (hqueue : ch.queue = i :: rest) :
      Step total ch { ch with queue := rest, inFlight := some i, calls := ch.calls ++ [.pass i] }
  | answer (ch : Channel) (i : Nat) (r : Except BridgeError Unit) (hopen : ch.closed = false)
      (hcall : ch.inFlight = some i) :
      Step total ch { ch with inFlight := none, calls := ch.calls ++ [.answer i r] }
  | finish (ch : Channel) (hopen : ch.closed = false) (hidle : ch.inFlight = none)
      (hempty : ch.queue = []) (hdropped : ch.dropped = true) :
      Step total ch { ch with finished := true }
  | stop (ch : Channel) (hrunning : ch.finished = false) :
      Step total ch { ch with closed := true, queue := [] }

inductive Reachable (total capacity : Nat) (canWait : Bool) : Channel → Prop
  | start : Reachable total capacity canWait (Channel.start capacity canWait)
  | step {ch ch' : Channel} : Reachable total capacity canWait ch → Step total ch ch' →
      Reachable total capacity canWait ch'

/-! ## The invariant of every run -/

@[simp] theorem passes_append (xs ys : List Call) : passes (xs ++ ys) = passes xs ++ passes ys := by
  simp [passes]

@[simp] theorem passes_pass (i : Nat) : passes [.pass i] = [i] := rfl

@[simp] theorem passes_answer (i : Nat) (r : Except BridgeError Unit) : passes [.answer i r] = [] :=
  rfl

/-- The calls of a consumer that answered each call before passing the next: every call
passed and answered, then the one in flight. -/
def Alternating (calls : List Call) (inFlight : Option Nat) : Prop :=
  ∃ done : List (Nat × Except BridgeError Unit),
    calls = done.flatMap (fun c => [.pass c.1, .answer c.1 c.2]) ++ (inFlight.map .pass).toList

/-- What every run keeps. -/
structure Delivers (total : Nat) (ch : Channel) : Prop where
  bounded : ch.queue.length ≤ ch.places
  passed_prefix : passes ch.calls <+: okIndices ch.results
  passed_queued : ch.closed = false → passes ch.calls ++ ch.queue = okIndices ch.results
  alternating : Alternating ch.calls ch.inFlight
  dropped : ch.dropped = true → ch.waiting = false ∧ ch.results.length = total
  finished : ch.finished = true → ch.dropped = true ∧ ch.closed = false ∧ ch.queue = []

theorem delivers_start (total capacity : Nat) (canWait : Bool) :
    Delivers total (Channel.start capacity canWait) where
  bounded := Nat.zero_le _
  passed_prefix := List.nil_prefix
  passed_queued _ := rfl
  alternating := ⟨[], rfl⟩
  dropped h := by cases h
  finished h := by cases h

variable {total : Nat} {ch : Channel}

theorem Delivers.refuse (hd : Delivers total ch) (e : BridgeError) (hheld : ch.dropped = false) :
    Delivers total (ch.refuse e) where
  bounded := hd.bounded
  passed_prefix := by
    simpa [okIndices_append_singleton, succeeded] using hd.passed_prefix
  passed_queued hopen := by
    simpa [okIndices_append_singleton, succeeded] using hd.passed_queued hopen
  alternating := hd.alternating
  dropped h := by simp [hheld] at h
  finished h := by simpa [hheld] using (hd.finished h).1

theorem Delivers.enqueue (hd : Delivers total ch) (hheld : ch.dropped = false)
    (hopen : ch.closed = false) (hroom : ch.queue.length < ch.places) :
    Delivers total ch.enqueue where
  bounded := by simp only [enqueue_queue, enqueue_places, List.length_append,
    List.length_singleton]; omega
  passed_prefix := by
    rw [enqueue_calls, enqueue_results, okIndices_append_singleton, ← hd.passed_queued hopen]
    exact (List.prefix_append _ _).trans (List.prefix_append _ _)
  passed_queued _ := by
    rw [enqueue_calls, enqueue_queue, enqueue_results, okIndices_append_singleton,
      ← hd.passed_queued hopen]
    simp [succeeded]
  alternating := hd.alternating
  dropped h := by simp [hheld] at h
  finished h := by simpa [hheld] using (hd.finished h).1

theorem Delivers.held_of_waiting (hd : Delivers total ch) (hwaiting : ch.waiting = true) :
    ch.dropped = false := by
  cases hdr : ch.dropped
  · rfl
  · simp [(hd.dropped hdr).1] at hwaiting

theorem Delivers.offer (hd : Delivers total ch) (hheld : ch.dropped = false) :
    Delivers total ch.offer := by
  unfold Channel.offer
  by_cases hclosed : ch.closed = true
  · rw [if_pos hclosed]
    exact hd.refuse _ hheld
  rw [if_neg hclosed]
  by_cases hroom : ch.queue.length < ch.places
  · rw [if_pos hroom]
    exact hd.enqueue hheld (by simpa using hclosed) hroom
  rw [if_neg hroom]
  by_cases hwait : ch.canWait = true
  · -- the producer blocks; nothing else changes
    rw [if_pos hwait]
    exact { hd with
      dropped := fun h => by simp [hheld] at h
      finished := fun h => by simpa [hheld] using (hd.finished h).1 }
  · rw [if_neg hwait]
    exact hd.refuse _ hheld

theorem Delivers.receive (hd : Delivers total ch) {i : Nat} {rest : List Nat}
    (hopen : ch.closed = false) (hidle : ch.inFlight = none) (hqueue : ch.queue = i :: rest) :
    Delivers total { ch with queue := rest, inFlight := some i, calls := ch.calls ++ [.pass i] } := by
  obtain ⟨done, hcalls⟩ := hd.alternating
  have hsplit := hd.passed_queued hopen
  rw [hqueue] at hsplit
  refine ⟨?_, ?_, ?_, ?_, hd.dropped, ?_⟩
  · have hbound := hd.bounded
    rw [hqueue, List.length_cons] at hbound
    show rest.length ≤ ch.places
    omega
  · show passes (ch.calls ++ [.pass i]) <+: okIndices ch.results
    rw [passes_append, passes_pass, ← hsplit]
    exact ⟨rest, by simp⟩
  · intro _
    show passes (ch.calls ++ [.pass i]) ++ rest = okIndices ch.results
    rw [passes_append, passes_pass, ← hsplit]
    simp
  · refine ⟨done, ?_⟩
    rw [hcalls, hidle]
    simp
  · -- a finished consumer has nothing queued
    intro hfin
    have hempty := (hd.finished hfin).2.2
    rw [hqueue] at hempty
    cases hempty

theorem Delivers.answer (hd : Delivers total ch) {i : Nat} (r : Except BridgeError Unit)
    (hcall : ch.inFlight = some i) :
    Delivers total { ch with inFlight := none, calls := ch.calls ++ [.answer i r] } := by
  obtain ⟨done, hcalls⟩ := hd.alternating
  refine ⟨hd.bounded, ?_, ?_, ?_, hd.dropped, hd.finished⟩
  · show passes (ch.calls ++ [.answer i r]) <+: okIndices ch.results
    simpa using hd.passed_prefix
  · intro h
    show passes (ch.calls ++ [.answer i r]) ++ ch.queue = okIndices ch.results
    simpa using hd.passed_queued h
  · refine ⟨done ++ [(i, r)], ?_⟩
    rw [hcall] at hcalls
    simp [hcalls]

theorem Delivers.step {ch' : Channel} (hd : Delivers total ch) (hstep : Step total ch ch') :
    Delivers total ch' := by
  cases hstep with
  | offer hidle hheld hmore => exact hd.offer hheld
  | wake hwaiting hopen hroom => exact hd.enqueue (hd.held_of_waiting hwaiting) hopen hroom
  | wakeClosed hwaiting hclosed => exact hd.refuse _ (hd.held_of_waiting hwaiting)
  | drop hidle hdone =>
      exact { hd with
        dropped := fun _ => ⟨hidle, hdone⟩
        finished := fun h => ⟨rfl, (hd.finished h).2⟩ }
  | receive i rest hopen hidle hqueue => exact hd.receive hopen hidle hqueue
  | answer i r hopen hcall => exact hd.answer r hcall
  | finish hopen hidle hempty hdropped =>
      exact { hd with finished := fun _ => ⟨hdropped, hopen, hempty⟩ }
  | stop hrunning =>
      -- the queue's notifications are dropped: what was passed stays a prefix
      refine ⟨Nat.zero_le _, ?_, (fun h => by cases h), hd.alternating, hd.dropped, ?_⟩
      · show passes ch.calls <+: okIndices ch.results
        exact hd.passed_prefix
      · intro hfin
        simp [hrunning] at hfin

theorem Reachable.delivers {capacity : Nat} {canWait : Bool} (hch : Reachable total capacity canWait ch) :
    Delivers total ch := by
  induction hch with
  | start => exact delivers_start total capacity canWait
  | step _ hstep ih => exact ih.step hstep

theorem Reachable.places {capacity : Nat} {canWait : Bool} (hch : Reachable total capacity canWait ch) :
    ch.places = max capacity 1 := by
  induction hch with
  | start => rfl
  | step _ hstep ih =>
      cases hstep with
      | offer => rw [offer_places]; exact ih
      | wake | wakeClosed | drop | receive | answer | finish | stop => exact ih

/-! ## The routes that stand for a channel -/

theorem schedule_afterwards {l : Line} {c : Nat} (hroute : l.route = .queue c .afterwards)
    (n : Notification) {ch : Channel} (hplaces : ch.places = max c 1) (hwait : ch.canWait = false)
    (hopen : ch.closed = false) (hlen : ch.queue.length = l.queued.length) :
    ch.offer.results = ch.results ++ [(l.schedule n).2] ∧
      ch.offer.queue.length = (l.schedule n).1.queued.length := by
  unfold offer Line.schedule
  rw [hroute, hopen, hplaces, hlen, hwait]
  by_cases hroom : l.queued.length < max c 1
  · simp [hroom, hlen, enqueue]
  · simp [hroom, hlen, refuse]

theorem schedule_stopped {l : Line} {c : Nat} (hroute : l.route = .queue c .stopped)
    (n : Notification) {ch : Channel} (hclosed : ch.closed = true) :
    ch.offer.results = ch.results ++ [(l.schedule n).2] ∧ ch.offer.queue = ch.queue := by
  unfold offer Line.schedule
  rw [hroute, if_pos hclosed]
  exact ⟨rfl, rfl⟩

end Channel

/-! ## Delivery -/

open Channel in
/-- Delivery through the bridge. A queue can be set up exactly for the capacities `c` with
`max c 1` at most `queueLimit`. On any interleaving of one producer with the consumer, the
queue never holds more than `max c 1` notifications; those passed to the client are a prefix
of the ones whose schedule answered Ok, each passed once, so none whose schedule failed; each
call is answered before the next is passed; and once the producer dropped its handle and the
consumer ran to its end, exactly the accepted ones were passed. Inline, a schedule hands the
notification to the client once and answers with the client's answer; inside a runtime with
a single thread it fails without reaching the client. -/
theorem channel_delivery (total c : Nat) (canWait : Bool) (ch : Channel)
    (hch : Reachable total c canWait ch) :
    (∀ k, (Route.queue c k).refusal = none ↔ max c 1 ≤ queueLimit) ∧
    ch.queue.length ≤ max c 1 ∧
    passes ch.calls <+: okIndices ch.results ∧
    (passes ch.calls).Nodup ∧
    (∀ i e, ch.results[i]? = some (.error e) → i ∉ passes ch.calls) ∧
    Alternating ch.calls ch.inFlight ∧
    (ch.finished = true → ch.results.length = total ∧ passes ch.calls = okIndices ch.results) ∧
    (∀ (client : Client) (queued : List Notification) (n : Notification),
      (Line.mk (.inline false) client queued).schedule n =
          (⟨.inline false, (client.receive n).1, queued⟩, (client.receive n).2) ∧
      (Line.mk (.inline true) client queued).schedule n =
          (⟨.inline true, client, queued⟩, .error (.sendFailed inlineBusyReason))) := by
  have hd := hch.delivers
  refine ⟨refusal_eq_none_iff c, hch.places ▸ hd.bounded, hd.passed_prefix,
    (nodup_okIndices _).sublist hd.passed_prefix.sublist, ?_, hd.alternating, ?_,
    fun _ _ _ => ⟨rfl, rfl⟩⟩
  · -- what was passed was accepted
    intro i e hi hpass
    obtain ⟨r, hr, hok⟩ := succeeded_of_mem_okIndices (hd.passed_prefix.subset hpass)
    rw [hi, Option.some.injEq] at hr
    rw [← hr] at hok
    cases hok
  · intro hfin
    obtain ⟨hdropped, hopen, hempty⟩ := hd.finished hfin
    refine ⟨(hd.dropped hdropped).2, ?_⟩
    have hall := hd.passed_queued hopen
    rwa [hempty, List.append_nil] at hall

/-- One notification through a queue of capacity 0, lifted to one place: scheduled, passed,
answered, then the handle dropped and the consumer done. -/
theorem channel_delivery_one :
    let ch : Channel :=
      ⟨1, true, [.ok ()], false, [], none, [.pass 0, .answer 0 (.ok ())], false, true, true⟩
    Channel.Reachable 1 0 true ch ∧
      ((∀ k, (Route.queue 0 k).refusal = none ↔ max 0 1 ≤ queueLimit) ∧
      ch.queue.length ≤ max 0 1 ∧
      passes ch.calls <+: okIndices ch.results ∧
      (passes ch.calls).Nodup ∧
      (∀ i e, ch.results[i]? = some (.error e) → i ∉ passes ch.calls) ∧
      Channel.Alternating ch.calls ch.inFlight ∧
      (ch.finished = true → ch.results.length = 1 ∧ passes ch.calls = okIndices ch.results) ∧
      (∀ (client : Client) (queued : List Notification) (n : Notification),
        (Line.mk (.inline false) client queued).schedule n =
            (⟨.inline false, (client.receive n).1, queued⟩, (client.receive n).2) ∧
        (Line.mk (.inline true) client queued).schedule n =
            (⟨.inline true, client, queued⟩, .error (.sendFailed inlineBusyReason)))) := by
  intro ch
  have hch : Channel.Reachable 1 0 true ch :=
    ((((((@Channel.Reachable.start 1 0 true).step (.offer _ rfl rfl (by decide))).step
      (.receive _ 0 [] rfl rfl rfl)).step (.answer _ 0 (.ok ()) rfl rfl)).step
      (.drop _ rfl rfl)).step (.finish _ rfl rfl rfl rfl))
  exact ⟨hch, channel_delivery 1 0 true ch hch⟩

/-- A capacity that fits a machine word of 64 bits, for which the queue cannot be set up. -/
theorem spawn_refuses_large_capacity :
    2 ^ 61 < 2 ^ 64 ∧ (Route.queue (2 ^ 61) .alongside).refusal =
      some "a semaphore may not have more than MAX_PERMITS permits (2305843009213693951)" :=
  ⟨by decide, by rfl⟩

end Bridge
end AcpBridge
