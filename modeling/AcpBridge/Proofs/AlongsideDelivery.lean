import Mathlib
import AcpBridge.Proofs.ChannelDelivery
import AcpBridge.Proofs.TokenSends

/-!
# A queue whose consumer runs alongside

The program replays on a worker thread, which may wait on a full queue, while the consumer
runs alongside it until every handle is dropped. On such a channel nothing is refused while the
queue is open: an offer to a full queue waits, and a place comes
(`Channel.Reachable.accepted_of_open`). Whatever the interleaving, the run can always go on to
the consumer's end (`Channel.Reachable.progress`, `Channel.Reachable.finishes`), and a consumer
that reached its end passed every notification once, in the producer's order
(`Channel.Reachable.passes_of_finished`).

`Line.schedule` on a queue whose consumer runs alongside hands each notification to the client
at once and answers Ok. That is such a channel seen from its two ends: scheduling notifications
on the line leaves the client with exactly what any finished run of the channel passed to it,
and every schedule answered as the channel answered the producer
(`Line.scheduleAll_alongside_of_finished`).
-/

namespace AcpBridge
namespace Bridge

open Session

namespace Channel

variable {total capacity : Nat} {canWait : Bool} {ch ch' : Channel}

theorem offer_cases (ch : Channel) :
    ch.offer = ch.enqueue ∨ ch.offer = { ch with waiting := true } ∨
      ∃ e, ch.offer = ch.refuse e := by
  unfold offer
  split
  · exact .inr (.inr ⟨_, rfl⟩)
  · split
    · exact .inl rfl
    · split
      · exact .inr (.inl rfl)
      · exact .inr (.inr ⟨_, rfl⟩)

theorem offer_canWait (ch : Channel) : ch.offer.canWait = ch.canWait := by
  rcases offer_cases ch with h | h | ⟨e, h⟩ <;> rw [h] <;> rfl

theorem offer_closed (ch : Channel) : ch.offer.closed = ch.closed := by
  rcases offer_cases ch with h | h | ⟨e, h⟩ <;> rw [h] <;> rfl

theorem offer_of_room (hopen : ch.closed = false) (hroom : ch.queue.length < ch.places) :
    ch.offer = ch.enqueue := by
  unfold offer
  rw [if_neg (by simp [hopen]), if_pos hroom]

theorem offer_of_open (hopen : ch.closed = false) (hwait : ch.canWait = true) :
    ch.offer = ch.enqueue ∨ ch.offer = { ch with waiting := true } := by
  by_cases hroom : ch.queue.length < ch.places
  · exact .inl (offer_of_room hopen hroom)
  · right
    unfold offer
    rw [if_neg (by simp [hopen]), if_neg hroom, if_pos hwait]

theorem Reachable.canWait_eq (hch : Reachable total capacity canWait ch) : ch.canWait = canWait := by
  induction hch with
  | start => rfl
  | step _ hstep ih =>
    cases hstep with
    | offer => rw [offer_canWait]; exact ih
    | wake | wakeClosed | drop | receive | answer | finish | stop => exact ih

theorem Reachable.reflTransGen (hch : Reachable total capacity canWait ch)
    (hrun : Relation.ReflTransGen (Step total) ch ch') : Reachable total capacity canWait ch' := by
  induction hrun with
  | refl => exact hch
  | tail _ hstep ih => exact ih.step hstep

/-! ## Nothing is refused while the queue is open -/

theorem okIndices_of_accepted {results : List (Except BridgeError Unit)}
    (h : ∀ r ∈ results, r = .ok ()) : okIndices results = List.range results.length := by
  unfold okIndices
  apply List.filter_eq_self.mpr
  intro i hi
  rw [List.getElem?_eq_getElem (List.mem_range.mp hi), h _ (List.getElem_mem _)]
  rfl

theorem Reachable.accepted_of_open (hch : Reachable total capacity true ch)
    (hopen : ch.closed = false) : ∀ r ∈ ch.results, r = .ok () := by
  induction hch with
  | start => intro r hr; cases hr
  | @step ch₀ _ hprev hstep ih =>
    cases hstep with
    | offer =>
      have hopen₀ : ch₀.closed = false := by rwa [offer_closed] at hopen
      -- the offer queues the notification or makes the producer wait
      rcases offer_of_open hopen₀ hprev.canWait_eq with hoffer | hoffer
      · rw [hoffer]
        intro r hr
        rcases List.mem_append.mp hr with hr | hr
        · exact ih hopen₀ r hr
        · exact List.mem_singleton.mp hr
      · rw [hoffer]
        exact ih hopen₀
    | wake =>
      intro r hr
      rcases List.mem_append.mp hr with hr | hr
      · exact ih hopen r hr
      · exact List.mem_singleton.mp hr
    | wakeClosed _ hclosed =>
      -- a refusal needs a closed queue
      simp [hclosed] at hopen
    | drop | receive | answer | finish => exact ih hopen
    | stop => cases hopen

/-! ## The producer's pace -/

/-- The producer offers no more than its notifications, and waits only with one left to
offer. -/
structure Paced (total : Nat) (ch : Channel) : Prop where
  results_le : ch.results.length ≤ total
  waiting_lt : ch.waiting = true → ch.results.length < total

theorem Paced.step (hp : Paced total ch) (hstep : Step total ch ch') : Paced total ch' := by
  cases hstep with
  | offer _ _ hmore =>
    rcases offer_cases ch with h | h | ⟨e, h⟩ <;> rw [h]
    · exact ⟨by simp; omega, by simp [enqueue]⟩
    · exact ⟨hp.results_le, fun _ => hmore⟩
    · exact ⟨by simp; omega, by simp [refuse]⟩
  | wake hwaiting =>
    have hlt := hp.waiting_lt hwaiting
    exact ⟨by simp; omega, by simp [enqueue]⟩
  | wakeClosed hwaiting =>
    have hlt := hp.waiting_lt hwaiting
    exact ⟨by simp; omega, by simp [refuse]⟩
  | drop hidle => exact ⟨hp.results_le, by simp [hidle]⟩
  | receive | answer | finish | stop => exact ⟨hp.results_le, hp.waiting_lt⟩

theorem Reachable.paced (hch : Reachable total capacity canWait ch) : Paced total ch := by
  induction hch with
  | start => exact ⟨Nat.zero_le _, fun h => by cases h⟩
  | step _ hstep ih => exact ih.step hstep

/-! ## The run goes on to its end -/

/-- What is left of a run: the notifications still to offer, those queued, the call in flight,
the wait, the producer's handle and the consumer's end. -/
def remaining (total : Nat) (ch : Channel) : Nat :=
  4 * (total - ch.results.length) + 2 * ch.queue.length + (if ch.inFlight.isSome then 1 else 0) +
    (if ch.waiting then 0 else 1) + (if ch.dropped then 0 else 1) + (if ch.finished then 0 else 1)

theorem Reachable.progress (hch : Reachable total capacity canWait ch) (hopen : ch.closed = false)
    (hrun : ch.finished = false) :
    ∃ ch', Step total ch ch' ∧ ch'.closed = false ∧ remaining total ch' < remaining total ch := by
  have hp := hch.paced
  have hplaces : 0 < ch.places := by rw [hch.places]; omega
  cases hflight : ch.inFlight with
  | some i =>
    -- the client answers the call in flight
    refine ⟨_, .answer ch i (.ok ()) hopen hflight, hopen, ?_⟩
    simp [remaining, hflight]
  | none =>
    cases hqueue : ch.queue with
    | cons i rest =>
      -- the consumer takes the oldest notification
      refine ⟨_, .receive ch i rest hopen hflight hqueue, hopen, ?_⟩
      simp [remaining, hqueue, hflight]
      omega
    | nil =>
      cases hwaiting : ch.waiting with
      | true =>
        -- the waiting producer finds the empty queue
        have hlt := hp.waiting_lt hwaiting
        refine ⟨_, .wake ch hwaiting hopen (by rw [hqueue]; exact hplaces), hopen, ?_⟩
        simp [remaining, hqueue, hwaiting, enqueue]
        omega
      | false =>
        cases hdropped : ch.dropped with
        | true =>
          refine ⟨_, .finish ch hopen hflight hqueue hdropped, hopen, ?_⟩
          simp [remaining, hrun]
        | false =>
          by_cases hmore : ch.results.length < total
          · -- an offer to the empty queue is queued at once
            have hoffer := offer_of_room hopen (by rw [hqueue]; exact hplaces)
            refine ⟨_, .offer ch hwaiting hdropped hmore, by rw [hoffer]; exact hopen, ?_⟩
            rw [hoffer]
            simp [remaining, hqueue, hwaiting, enqueue]
            omega
          · -- every notification was offered: the producer drops its handle
            have hdone : ch.results.length = total := by have := hp.results_le; omega
            refine ⟨_, .drop ch hwaiting hdone, hopen, ?_⟩
            simp [remaining, hdropped]

theorem Reachable.finishes (hch : Reachable total capacity canWait ch) (hopen : ch.closed = false) :
    ∃ ch', Relation.ReflTransGen (Step total) ch ch' ∧ ch'.finished = true := by
  -- induction on what is left of the run: each step of `progress` leaves less
  induction hk : remaining total ch using Nat.strong_induction_on generalizing ch with
  | _ k ih =>
    cases hfin : ch.finished with
    | true => exact ⟨ch, .refl, hfin⟩
    | false =>
      obtain ⟨ch₁, hstep, hopen₁, hless⟩ := hch.progress hopen hfin
      obtain ⟨ch', hrest, hdone⟩ := ih _ (hk ▸ hless) (hch.step hstep) hopen₁ rfl
      exact ⟨ch', .head hstep hrest, hdone⟩

theorem exists_finished (total capacity : Nat) (canWait : Bool) :
    ∃ ch, Reachable total capacity canWait ch ∧ ch.finished = true := by
  obtain ⟨ch, hrun, hfin⟩ := (@Reachable.start total capacity canWait).finishes rfl
  exact ⟨ch, Reachable.start.reflTransGen hrun, hfin⟩

/-! ## What a finished run passed -/

theorem Reachable.passes_of_finished (hch : Reachable total capacity true ch)
    (hfin : ch.finished = true) :
    ch.results = List.replicate total (.ok ()) ∧ passes ch.calls = List.range total := by
  have hd := hch.delivers
  obtain ⟨hdropped, hopen, hempty⟩ := hd.finished hfin
  have hlen := (hd.dropped hdropped).2
  have hok := hch.accepted_of_open hopen
  refine ⟨List.eq_replicate_iff.mpr ⟨hlen, hok⟩, ?_⟩
  have hall := hd.passed_queued hopen
  rw [hempty, List.append_nil, okIndices_of_accepted hok, hlen] at hall
  exact hall

end Channel

theorem filterMap_range_getElem? (ns : List Notification) :
    (List.range ns.length).filterMap (ns[·]?) = ns := by
  induction ns with
  | nil => rfl
  | cons n ns ih =>
    rw [List.length_cons, List.range_succ_eq_map, List.filterMap_cons, List.filterMap_map]
    simp only [List.getElem?_cons_zero, Function.comp_def, List.getElem?_cons_succ, ih]

namespace Line

theorem scheduleAll_alongside {l : Line} {c : Nat} (hroute : l.route = .queue c .alongside)
    (ns : List Notification) :
    l.scheduleAll ns = ({ l with client := l.client.receiveAll ns }, .ok ()) := by
  induction ns generalizing l with
  | nil => rfl
  | cons n ns ih =>
    have hsched : l.schedule n = ({ l with client := (l.client.receive n).1 }, .ok ()) := by
      unfold schedule
      rw [hroute]
    simp only [scheduleAll, hsched]
    exact ih hroute

theorem scheduleAll_alongside_of_finished {l : Line} {c : Nat}
    (hroute : l.route = .queue c .alongside) (ns : List Notification) {ch : Channel}
    (hch : Channel.Reachable ns.length c true ch) (hfin : ch.finished = true) :
    ch.results = List.replicate ns.length (.ok ()) ∧
      l.scheduleAll ns =
        ({ l with client := l.client.receiveAll ((passes ch.calls).filterMap (ns[·]?)) }, .ok ()) := by
  obtain ⟨hresults, hpasses⟩ := hch.passes_of_finished hfin
  refine ⟨hresults, ?_⟩
  rw [scheduleAll_alongside hroute, hpasses, filterMap_range_getElem?]

end Line

end Bridge
end AcpBridge
