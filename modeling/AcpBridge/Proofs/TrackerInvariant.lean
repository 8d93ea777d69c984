import Mathlib
import AcpBridge.Proofs.ConcurrentStream

/-!
# The tracker's representation invariant

Every tracker that observing and resetting can build from the empty one keeps one entry per
stream index, and every entry is a `CallState.Valid` call: it is known by an id or a name,
what is set is a non-empty text, it thinks exactly when its name is `think`, a started call
has both an id and a name and does not think, a call that started or thinks holds no
fragment, and a call with an id and a name that does not think has started. So no call is
ever `ready` between two calls of the tracker: the start is made in the step that makes it
possible.

A step also keeps what it found (`CallState.Keeps`): an id or a name once set stays, and a
started call stays started.

## The step, phase by phase

`CallState.observe` first takes in the delta's id and name (`identify`), which keeps the
part of the invariant that does not speak of starting and of fragments (`Coherent`), and
then settles the call (`settle`), which restores the rest whatever it found.
-/

namespace AcpBridge
namespace Session

open Agent

theorem ne_empty_of_nonEmpty {o : Option String} {t : String} (h : nonEmpty o = some t) :
    t ≠ "" := by
  cases o with
  | none => cases h
  | some u =>
      simp [nonEmpty] at h
      obtain ⟨hu, rfl⟩ := h
      exact hu

namespace CallState

/-- The part of the invariant that taking in an id and a name keeps: what is set is a
non-empty text, the call thinks exactly when its name is `think`, and a started call has an
id and a name and does not think. -/
structure Coherent (s : CallState) : Prop where
  id_ne : ∀ id, s.toolCallId = some id → id ≠ ""
  name_ne : ∀ n, s.name = some n → n ≠ ""
  isThink_iff : s.isThink = true ↔ s.name = some thinkTool
  named_of_started : s.started = true → s.toolCallId.isSome ∧ s.name.isSome ∧ s.isThink = false

/-- The representation invariant of a tracked call. -/
structure Valid (s : CallState) : Prop extends s.Coherent where
  known : s.toolCallId.isSome ∨ s.name.isSome
  pending_of_flowing : s.flowing = true → s.pending = []
  started_of_named : s.toolCallId.isSome → s.name.isSome → s.isThink = false → s.started = true

/-- What a step keeps of a call: an id or a name once set, and a start once made. -/
structure Keeps (s s' : CallState) : Prop where
  toolCallId : ∀ id, s.toolCallId = some id → s'.toolCallId = some id
  name : ∀ n, s.name = some n → s'.name = some n
  started : s.started = true → s'.started = true

theorem Keeps.refl (s : CallState) : s.Keeps s := ⟨fun _ h => h, fun _ h => h, id⟩

theorem Valid.ready_eq_false {s : CallState} (hs : s.Valid) : s.ready = false := by
  cases hready : s.ready
  · rfl
  · simp only [ready, Bool.and_eq_true, Bool.not_eq_true'] at hready
    obtain ⟨⟨⟨hstarted, hthink⟩, hid⟩, hn⟩ := hready
    have := hs.started_of_named hid hn hthink
    rw [hstarted] at this
    cases this

theorem coherent_empty : CallState.empty.Coherent where
  id_ne := by simp [CallState.empty]
  name_ne := by simp [CallState.empty]
  isThink_iff := by simp [CallState.empty]
  named_of_started := by simp [CallState.empty]

/-! ## Taking in an id and a name -/

section Identify

variable (s : CallState) (d : ToolCallDelta)

@[simp] theorem identify_toolCallId : (s.identify d).toolCallId = s.toolCallId.or d.callId := by
  obtain ⟨id, n, think, started, pending⟩ := s
  cases id <;> cases n <;> cases hd : d.name <;> simp [identify, hd]

@[simp] theorem identify_name : (s.identify d).name = s.name.or d.name := by
  obtain ⟨id, n, think, started, pending⟩ := s
  cases id <;> cases n <;> cases hd : d.name <;> simp [identify, hd]

@[simp] theorem identify_pending : (s.identify d).pending = s.pending := by
  obtain ⟨id, n, think, started, pending⟩ := s
  cases id <;> cases n <;> cases hd : d.name <;> simp [identify, hd]

theorem identify_isThink :
    (s.identify d).isThink =
      match s.name, d.name with
      | none, some n => n == thinkTool
      | _, _ => s.isThink := by
  obtain ⟨id, n, think, started, pending⟩ := s
  cases id <;> cases n <;> cases hd : d.name <;> simp [identify, hd]

theorem keeps_identify : s.Keeps (s.identify d) where
  toolCallId := fun id h => by simp [h]
  name := fun n h => by simp [h]
  started := fun h => by rw [started_identify, h]

end Identify

theorem Coherent.identify {s : CallState} (hs : s.Coherent) (d : ToolCallDelta) :
    (s.identify d).Coherent where
  id_ne := by
    intro id hid
    rw [identify_toolCallId] at hid
    cases hs' : s.toolCallId with
    | some id' =>
        rw [hs', Option.some_or] at hid
        exact hs.id_ne id (hs' ▸ hid)
    | none =>
        rw [hs', Option.none_or] at hid
        exact ne_empty_of_nonEmpty hid
  name_ne := by
    intro n hn
    rw [identify_name] at hn
    cases hs' : s.name with
    | some n' =>
        rw [hs', Option.some_or] at hn
        exact hs.name_ne n (hs' ▸ hn)
    | none =>
        rw [hs', Option.none_or] at hn
        exact ne_empty_of_nonEmpty hn
  isThink_iff := by
    have hthink := hs.isThink_iff
    rw [identify_isThink, identify_name]
    cases hs' : s.name with
    | some n' =>
        rw [hs'] at hthink
        simpa using hthink
    | none =>
        rw [hs'] at hthink
        cases hd : d.name with
        | some n => simp
        | none => simpa using hthink
  named_of_started := by
    intro hstarted
    rw [started_identify] at hstarted
    obtain ⟨hid, hn, hthink⟩ := hs.named_of_started hstarted
    obtain ⟨id, hid⟩ := Option.isSome_iff_exists.mp hid
    obtain ⟨n, hn⟩ := Option.isSome_iff_exists.mp hn
    refine ⟨by simp [hid], by simp [hn], ?_⟩
    rw [identify_isThink, hn]
    exact hthink

/-! ## Settling a call -/

theorem valid_settle {s : CallState} (hs : s.Coherent) (hknown : s.toolCallId.isSome ∨ s.name.isSome)
    (arguments : Option String) : (s.settle arguments).1.Valid := by
  rw [settle_fst]
  exact {
    id_ne := hs.id_ne
    name_ne := hs.name_ne
    isThink_iff := hs.isThink_iff
    named_of_started := by
      intro hstarted
      cases hready : s.ready
      · rw [hready, Bool.or_false] at hstarted
        exact hs.named_of_started hstarted
      · simp only [ready, Bool.and_eq_true, Bool.not_eq_true'] at hready
        exact ⟨hready.1.2, hready.2, hready.1.1.2⟩
    known := hknown
    pending_of_flowing := by
      intro hflow
      simp only [flowing] at hflow
      simp [hflow]
    started_of_named := by
      intro hid hn hthink
      dsimp only at hid hn hthink ⊢
      cases hstarted : s.started
      · simp [ready, hstarted, hthink, hid, hn]
      · rfl }

theorem keeps_settle (s : CallState) (arguments : Option String) : s.Keeps (s.settle arguments).1 := by
  rw [settle_fst]
  exact ⟨fun _ h => h, fun _ h => h, fun h => by simp [h]⟩

theorem Keeps.trans {s t u : CallState} (h₁ : s.Keeps t) (h₂ : t.Keeps u) : s.Keeps u :=
  ⟨fun id h => h₂.toolCallId id (h₁.toolCallId id h), fun n h => h₂.name n (h₁.name n h),
    fun h => h₂.started (h₁.started h)⟩

/-! ## One observed delta -/

theorem known_identify {s : CallState} {d : ToolCallDelta}
    (h : (s.toolCallId.isSome ∨ s.name.isSome) ∨ d.identifies = true) :
    (s.identify d).toolCallId.isSome ∨ (s.identify d).name.isSome := by
  rw [identify_toolCallId, identify_name, Option.isSome_or, Option.isSome_or]
  unfold ToolCallDelta.identifies at h
  simp only [Bool.or_eq_true] at h ⊢
  tauto

theorem valid_observe {s : CallState} (hs : s.Coherent) {d : ToolCallDelta}
    (hknown : (s.toolCallId.isSome ∨ s.name.isSome) ∨ d.identifies = true) :
    (s.observe d).1.Valid := by
  rw [observe_eq_settle]
  exact valid_settle (hs.identify d) (known_identify hknown) d.arguments

theorem Valid.observe {s : CallState} (hs : s.Valid) (d : ToolCallDelta) : (s.observe d).1.Valid :=
  valid_observe hs.toCoherent (.inl hs.known)

theorem valid_observe_empty {d : ToolCallDelta} (hd : d.identifies = true) :
    (CallState.empty.observe d).1.Valid :=
  valid_observe coherent_empty (.inr hd)

theorem keeps_observe (s : CallState) (d : ToolCallDelta) : s.Keeps (s.observe d).1 := by
  rw [observe_eq_settle]
  exact (keeps_identify s d).trans (keeps_settle _ _)

end CallState

/-! ## The tracker -/

inductive TrackerOp where
  | observe (d : ToolCallDelta)
  | reset

namespace Tracker

def apply (t : Tracker) : TrackerOp → Tracker
  | .observe d => (t.observe d).1
  | .reset => t.reset

def applyAll (t : Tracker) (ops : List TrackerOp) : Tracker := ops.foldl apply t

@[simp] theorem applyAll_nil (t : Tracker) : t.applyAll [] = t := rfl

@[simp] theorem applyAll_cons (t : Tracker) (op : TrackerOp) (ops : List TrackerOp) :
    t.applyAll (op :: ops) = (t.apply op).applyAll ops := rfl

/-- The invariant of a tracker: one entry per stream index, every entry a valid call. -/
structure Valid (t : Tracker) : Prop where
  nodup : t.indices.Nodup
  calls : ∀ c ∈ t.calls, c.2.Valid

theorem valid_empty : Tracker.empty.Valid := ⟨List.nodup_nil, fun _ h => nomatch h⟩

theorem valid_reset (t : Tracker) : t.reset.Valid := valid_empty

theorem mem_calls_of_state? {t : Tracker} {i : Nat} {s : CallState} (h : t.state? i = some s) :
    (i, s) ∈ t.calls := by
  unfold state? at h
  obtain ⟨c, hc, rfl⟩ := Option.map_eq_some_iff.mp h
  have hkey : c.1 = i := by simpa using List.find?_some hc
  rw [← hkey]
  exact List.mem_of_find?_eq_some hc

theorem mem_put {t : Tracker} {i : Nat} {s : CallState} {c : Nat × CallState}
    (hc : c ∈ (t.put i s).calls) : c = (i, s) ∨ c ∈ t.calls := by
  unfold put at hc
  split at hc
  · obtain ⟨c', hc', rfl⟩ := List.mem_map.mp hc
    by_cases hi : c'.1 = i
    · left
      simp [hi]
    · right
      simpa [hi] using hc'
  · rcases List.mem_append.mp hc with hc | hc
    · exact .inr hc
    · exact .inl (List.mem_singleton.mp hc)

theorem calls_put {t : Tracker} (ht : ∀ c ∈ t.calls, c.2.Valid) (i : Nat) {s : CallState}
    (hs : s.Valid) : ∀ c ∈ (t.put i s).calls, c.2.Valid := by
  intro c hc
  rcases mem_put hc with rfl | hc
  · exact hs
  · exact ht c hc

theorem Valid.observe {t : Tracker} (ht : t.Valid) (d : ToolCallDelta) : (t.observe d).1.Valid := by
  refine ⟨nodup_indices_observe ht.nodup d, ?_⟩
  unfold Tracker.observe
  split
  · rename_i s hs
    exact calls_put ht.calls _ ((ht.calls _ (mem_calls_of_state? hs)).observe d)
  · split
    · exact ht.calls
    · rename_i hunknown
      have hd : d.identifies = true := by
        rw [CallState.isNone_and_isNone] at hunknown
        simpa using hunknown
      exact calls_put ht.calls _ (CallState.valid_observe_empty hd)

theorem Valid.apply {t : Tracker} (ht : t.Valid) : ∀ op, (t.apply op).Valid
  | .observe d => ht.observe d
  | .reset => valid_reset t

theorem Valid.applyAll {t : Tracker} (ht : t.Valid) (ops : List TrackerOp) : (t.applyAll ops).Valid := by
  induction ops generalizing t with
  | nil => exact ht
  | cons op ops ih => exact ih (ht.apply op)

theorem keeps_observe (t : Tracker) (d : ToolCallDelta) {i : Nat} {s : CallState}
    (hs : t.state? i = some s) : ∃ s', (t.observe d).1.state? i = some s' ∧ s.Keeps s' := by
  rw [state?_observe]
  split
  · rename_i hi
    subst hi
    rw [hs]
    exact ⟨_, rfl, CallState.keeps_observe s d⟩
  · exact ⟨s, hs, CallState.Keeps.refl s⟩

end Tracker

/-- The tracker's representation invariant. Every tracker built from the empty one by any
calls of observe and reset has one entry per stream index, and each entry is a valid call, so
none is ready to start between calls. From such a tracker, observing any delta keeps every
entry, with its id and its name once set and its start once made. -/
theorem tracker_invariant (ops : List TrackerOp) :
    let t := Tracker.empty.applyAll ops
    t.indices.Nodup ∧ (∀ c ∈ t.calls, c.2.Valid ∧ c.2.ready = false) ∧
      ∀ d i s, t.state? i = some s → ∃ s', (t.observe d).1.state? i = some s' ∧ s.Keeps s' := by
  intro t
  have ht : t.Valid := Tracker.valid_empty.applyAll ops
  refine ⟨ht.nodup, fun c hc => ⟨ht.calls c hc, (ht.calls c hc).ready_eq_false⟩, ?_⟩
  intro d i s hs
  exact t.keeps_observe d hs

end Session
end AcpBridge
