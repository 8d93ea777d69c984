import Mathlib
import AcpBridge.Proofs.FieldDecoding
import AcpBridge.Agent.Event.Encode
import AcpBridge.Agent.Event.Decode

/-!
# Agent events on the wire

Decoding the value in memory of an event gives the event back (`Event.decode_toJson`): every
kind of event tagged by `kind`, actions and observations tagged by `tool` inside them, members
left out when absent and read back from their defaults, and options written as `null`. The
same holds of every action, observation and event of a call on its own, so the raw input and
raw output the bridge passes on carry them without loss.

What comes back is the event as held in memory, its free JSON (an action's arguments, a
state update's value) in map form (`Event.inMemory`). The one condition is that integers fit
the fields they are read into: a file editor's lines are signed 64-bit integers and a
terminal's exit code a signed 32-bit one (`Event.Fits`).
-/

namespace AcpBridge
namespace Agent

open Json Fields

/-! ## Ranges and free JSON -/

def SignedFits (bits : Nat) (n : Int) : Prop := -2 ^ (bits - 1) ≤ n ∧ n < 2 ^ (bits - 1)

def Action.Fits : Action → Prop
  | .fileEditor a => (∀ n ∈ a.insertLine, SignedFits 64 n) ∧ ∀ r ∈ a.viewRange, ∀ n ∈ r, SignedFits 64 n
  | _ => True

def Observation.Fits : Observation → Prop
  | .terminal o => ∀ n ∈ o.exitCode, SignedFits 32 n
  | _ => True

def ActionEvent.Fits (e : ActionEvent) : Prop := ∀ a ∈ e.action, a.Fits

def Event.Fits : Event → Prop
  | .action e => e.Fits
  | .observation e => e.observation.Fits
  | _ => True

def Action.freeJson : Action → List Json
  | .generic arguments => [arguments]
  | _ => []

def ActionEvent.freeJson (e : ActionEvent) : List Json := e.action.toList.flatMap Action.freeJson

def Event.freeJson : Event → List Json
  | .action e => e.freeJson
  | .stateUpdate _ value => [value]
  | _ => []

def Action.inMemory : Action → Action
  | .generic arguments => .generic (normalize arguments)
  | a => a

def ActionEvent.inMemory (e : ActionEvent) : ActionEvent := { e with action := e.action.map Action.inMemory }

def Event.inMemory : Event → Event
  | .action e => .action e.inMemory
  | .stateUpdate key value => .stateUpdate key (normalize value)
  | e => e

theorem Action.inMemory_of_mapForm (a : Action) (h : ∀ j ∈ a.freeJson, normalize j = j) :
    a.inMemory = a := by
  cases a with
  | generic arguments => simp [inMemory, h arguments (by simp [freeJson])]
  | fileEditor _ | terminal _ | taskTracker _ | think _ | finish _ => rfl

theorem ActionEvent.inMemory_of_mapForm (e : ActionEvent) (h : ∀ j ∈ e.freeJson, normalize j = j) :
    e.inMemory = e := by
  obtain ⟨toolName, toolCallId, action, thought, reasoning⟩ := e
  cases action with
  | none => rfl
  | some a =>
    have ha : a.inMemory = a := a.inMemory_of_mapForm fun j hj => h j (by simpa [freeJson] using hj)
    simp [inMemory, ha]

theorem Event.inMemory_of_mapForm (e : Event) (h : ∀ j ∈ e.freeJson, normalize j = j) :
    e.inMemory = e := by
  cases e with
  | action e => simp [inMemory, e.inMemory_of_mapForm h]
  | stateUpdate key value => simp [inMemory, h value (by simp [freeJson])]
  | observation _ | rejection _ | agentError _ | message _ _ | systemPrompt _ _ | pause
    | condensation _ _ | condensationRequest => rfl

/-! ## Members, names and numbers -/

@[simp] theorem reverse_optMember (k : String) (f : α → Json) (o : Option α) :
    (optMember k f o).reverse = optMember k f o := by
  cases o <;> rfl

@[simp] theorem get?_optMember (k k' : String) (f : α → Json) (o : Option α) :
    (Json.obj (optMember k f o)).get? k' = if k = k' then o.map f else none := by
  cases o <;> by_cases h : k = k' <;> simp [optMember, get?_cons, h]

theorem Role.decode_name (src : Source) (r : Role) : Role.decode src (.str r.name) = .ok r := by
  cases r <;> rfl

theorem TaskStatus.decode_name (src : Source) (s : TaskStatus) :
    TaskStatus.decode src (.str s.name) = .ok s := by
  cases s <;> rfl

theorem normalize_intJson_ne_null (n : Int) : normalize (intJson n) ≠ .null := by
  unfold intJson
  split <;> simp [Json.normalize]

theorem decode_signed_intJson {lo hi n : Int} {expected : String} {src : Source} (hlo : lo ≤ n)
    (hhi : n ≤ hi) : Decode.signed lo hi expected src (normalize (intJson n)) = .ok n := by
  unfold intJson
  split
  · rename_i hn
    have hcast : ((n.toNat : Nat) : Int) = n := Int.toNat_of_nonneg hn
    simp [Json.normalize, Decode.signed, hcast, hhi]
  · simp [Json.normalize, Decode.signed, hlo]

theorem decode_i64 {n : Int} {src : Source} (h : SignedFits 64 n) :
    Decode.i64 src (normalize (intJson n)) = .ok n := by
  have hpow : Int.pow 2 63 = 2 ^ (64 - 1) := rfl
  obtain ⟨hlo, hhi⟩ := h
  exact decode_signed_intJson (by rw [hpow]; exact hlo) (by rw [hpow]; omega)

theorem decode_i32 {n : Int} {src : Source} (h : SignedFits 32 n) :
    Decode.i32 src (normalize (intJson n)) = .ok n := by
  have hpow : Int.pow 2 31 = 2 ^ (32 - 1) := rfl
  obtain ⟨hlo, hhi⟩ := h
  exact decode_signed_intJson (by rw [hpow]; exact hlo) (by rw [hpow]; omega)

/-! ## Texts and tasks -/

theorem TextContent.decode_toJson (src : Source) (t : TextContent) :
    TextContent.decode src (normalize t.toJson) = .ok t := by
  obtain ⟨text⟩ := t
  have hms := shows_toMap [("text", .str text)]
  exact decode_of_reads _ hms.nodup ((Reads.present_written hms (.str text) (by simp [get?_cons]) rfl).map _)

theorem Task.decode_toJson (src : Source) (t : Task) : Task.decode src (normalize t.toJson) = .ok t := by
  obtain ⟨title, notes, status⟩ := t
  have hms := shows_toMap [("title", .str title), ("notes", .str notes), ("status", .str status.name)]
  refine decode_of_reads _ hms.nodup (.seq (.seq (.map ?_ _) ?_) ?_)
  · exact Reads.present_written hms (.str title) (by simp [get?_cons]) rfl
  · exact Reads.present_written hms (.str notes) (by simp [get?_cons]) rfl
  · exact Reads.present_written hms (.str status.name) (by simp [get?_cons]) (TaskStatus.decode_name _ _)

/-! ## Actions -/

section Fields

variable {src : Source} {ms : List (String × Json)}

theorem FileEdit.decode_fields (a : FileEdit) (hfits : (Action.fileEditor a).Fits)
    (hms : Shows ms a.fields) : FileEdit.decode src (.obj ms) = .ok a := by
  obtain ⟨hline, hrange⟩ := hfits
  refine decode_of_reads _ hms.nodup (.seq (.seq (.seq (.seq (.seq (.seq (.map ?_ _) ?_) ?_) ?_) ?_) ?_) ?_)
  · exact Reads.present_written hms (.str a.command) (by simp [fields, get?_cons, get?_append]) rfl
  · exact Reads.present_written hms (.str a.path) (by simp [fields, get?_cons, get?_append]) rfl
  · exact Reads.maybe_written hms Json.str (by simp [fields, get?_cons, get?_append])
      fun _ _ => Decode.option_string
  · exact Reads.maybe_written hms Json.str (by simp [fields, get?_cons, get?_append])
      fun _ _ => Decode.option_string
  · exact Reads.maybe_written hms Json.str (by simp [fields, get?_cons, get?_append])
      fun _ _ => Decode.option_string
  · exact Reads.maybe_written hms intJson (by simp [fields, get?_cons, get?_append])
      fun n hn => Decode.option_of_ne_null (normalize_intJson_ne_null n) (decode_i64 (hline n hn))
  · exact Reads.maybe_written hms (fun r => .arr (r.map intJson)) (by simp [fields, get?_cons, get?_append])
      fun r hr => Decode.option_of_ne_null (by simp [Json.normalize])
        (Decode.list_normalize fun n hn => decode_i64 (hrange r hr n hn))

theorem TerminalCommand.decode_fields (a : TerminalCommand) (hms : Shows ms a.fields) :
    TerminalCommand.decode src (.obj ms) = .ok a := by
  refine decode_of_reads _ hms.nodup (.seq (.seq (.map ?_ _) ?_) ?_)
  · exact Reads.present_written hms (.str a.command) (by simp [fields, get?_cons, get?_append]) rfl
  · exact Reads.present_written hms (.bool a.isInput) (by simp [fields, get?_cons, get?_append]) rfl
  · exact Reads.maybe_written hms Json.float (by simp [fields, get?_cons, get?_append])
      fun _ _ => Decode.option_of_ne_null (by simp [Json.float, Json.normalize]) rfl

theorem TaskUpdate.decode_fields (name : String) (a : TaskUpdate) (hms : Shows ms a.fields) :
    TaskUpdate.decodeAs name src (.obj ms) = .ok a := by
  refine decode_of_reads _ hms.nodup (.seq (.map ?_ _) ?_)
  · exact Reads.present_written hms (.str a.command) (by simp [fields, get?_cons]) rfl
  · exact Reads.present_written hms (.arr (a.tasks.map Task.toJson)) (by simp [fields, get?_cons])
      (Decode.list_normalize fun t _ => t.decode_toJson _)

end Fields

theorem Action.tagged (src : Source) (a : Action) :
    ∃ ms, Decode.tagged "tool" "Action" toolTags src (normalize a.toJson) =
      .ok ((toolTags.findIdx? (· == a.tool)).getD 0, .obj ms) ∧ Shows ms a.fields :=
  tagged_normalize "tool" "Action" toolTags src (.str a.tool) a.fields
    (by cases a <;> simp [fields, FileEdit.fields, TerminalCommand.fields, TaskUpdate.fields, get?_cons,
      get?_append])
    (by cases a <;> rfl)

theorem Action.decode_toJson (src : Source) (a : Action) (hfits : a.Fits) :
    Action.decode src (normalize a.toJson) = .ok a.inMemory := by
  obtain ⟨ms, htag, hms⟩ := Action.tagged src a
  simp only [Action.decode, htag, bind, Except.bind]
  -- the tool's index picks the decoder of the members after the tag
  cases a with
  | fileEditor f =>
    rw [FileEdit.decode_fields f hfits hms]
    rfl
  | terminal t =>
    rw [TerminalCommand.decode_fields t hms]
    rfl
  | taskTracker u =>
    rw [TaskUpdate.decode_fields _ u hms]
    rfl
  | think thought =>
    have hread : (required "thought" Decode.string).Reads .buffered ms thought :=
      Reads.present_written hms (.str thought) (by simp [fields, get?_cons]) rfl
    rw [decode_of_reads _ hms.nodup hread]
    rfl
  | finish message =>
    have hread : (required "message" Decode.string).Reads .buffered ms message :=
      Reads.present_written hms (.str message) (by simp [fields, get?_cons]) rfl
    rw [decode_of_reads _ hms.nodup hread]
    rfl
  | generic arguments =>
    have hread : (withDefault "arguments" Decode.value Json.null).Reads .buffered ms (normalize arguments) :=
      Reads.present_written hms arguments (by simp [fields, get?_cons]) (Decode.value_normalize arguments)
    rw [decode_of_reads _ hms.nodup hread]
    rfl

/-! ## Observations -/

section Fields

variable {src : Source} {ms : List (String × Json)}

theorem FileEditResult.decode_fields (o : FileEditResult) (hms : Shows ms o.fields) :
    FileEditResult.decode src (.obj ms) = .ok o := by
  refine decode_of_reads _ hms.nodup (.seq (.seq (.seq (.map ?_ _) ?_) ?_) ?_)
  · exact Reads.present_written hms (.str o.command) (by simp [fields, get?_cons, get?_append]) rfl
  · exact Reads.maybe_written hms Json.str (by simp [fields, get?_cons, get?_append])
      fun _ _ => Decode.option_string
  · exact Reads.present_written hms (.str o.output) (by simp [fields, get?_cons, get?_append]) rfl
  · exact Reads.maybe_written hms Json.str (by simp [fields, get?_cons, get?_append])
      fun _ _ => Decode.option_string

theorem TerminalResult.decode_fields (o : TerminalResult) (hfits : (Observation.terminal o).Fits)
    (hms : Shows ms o.fields) : TerminalResult.decode src (.obj ms) = .ok o := by
  refine decode_of_reads _ hms.nodup (.seq (.map ?_ _) ?_)
  · exact Reads.present_written hms (.str o.output) (by simp [fields, get?_cons, get?_append]) rfl
  · exact Reads.maybe_written hms intJson (by simp [fields, get?_cons, get?_append])
      fun n hn => Decode.option_of_ne_null (normalize_intJson_ne_null n) (decode_i32 (hfits n hn))

end Fields

theorem Observation.tagged (src : Source) (o : Observation) :
    ∃ ms, Decode.tagged "tool" "Observation" toolTags src (normalize o.toJson) =
      .ok ((toolTags.findIdx? (· == o.tool)).getD 0, .obj ms) ∧ Shows ms o.fields :=
  tagged_normalize "tool" "Observation" toolTags src (.str o.tool) o.fields
    (by cases o <;> simp [fields, FileEditResult.fields, TerminalResult.fields, TaskUpdate.fields,
      get?_cons, get?_append])
    (by cases o <;> rfl)

theorem Observation.decode_toJson (src : Source) (o : Observation) (hfits : o.Fits) :
    Observation.decode src (normalize o.toJson) = .ok o := by
  obtain ⟨ms, htag, hms⟩ := Observation.tagged src o
  simp only [Observation.decode, htag, bind, Except.bind]
  cases o with
  | fileEditor r =>
    rw [FileEditResult.decode_fields r hms]
    rfl
  | terminal r =>
    rw [TerminalResult.decode_fields r hfits hms]
    rfl
  | taskTracker u =>
    rw [TaskUpdate.decode_fields _ u hms]
    rfl
  | think =>
    rw [decode_of_reads _ hms.nodup (Reads.pure Observation.think)]
    rfl
  | finish =>
    rw [decode_of_reads _ hms.nodup (Reads.pure Observation.finish)]
    rfl
  | generic content =>
    have hread : (withDefault "content" Decode.string "").Reads .buffered ms content :=
      Reads.present_written hms (.str content) (by simp [fields, get?_cons]) rfl
    rw [decode_of_reads _ hms.nodup hread]
    rfl

/-! ## The events of a call -/

section Fields

variable {src : Source} {ms : List (String × Json)}

theorem ActionEvent.decode_fields (e : ActionEvent) (hfits : e.Fits) (hms : Shows ms e.fields) :
    ActionEvent.decode src (.obj ms) = .ok e.inMemory := by
  refine decode_of_reads _ hms.nodup (.seq (.seq (.seq (.seq (.map ?_ _) ?_) ?_) ?_) ?_)
  · exact Reads.present_written hms (.str e.toolName) (by simp [fields, get?_cons]) rfl
  · exact Reads.present_written hms (.str e.toolCallId) (by simp [fields, get?_cons]) rfl
  · -- the action is written even when absent, as `null`
    exact Reads.present_written hms (Json.opt Action.toJson e.action) (by simp [fields, get?_cons])
      (Decode.option_normalize_map (fun a _ => by simp [Action.toJson, Json.normalize])
        fun a ha => a.decode_toJson _ (hfits a ha))
  · exact Reads.present_written hms (.arr (e.thought.map TextContent.toJson)) (by simp [fields, get?_cons])
      (Decode.list_normalize fun t _ => t.decode_toJson _)
  · exact Reads.present_written hms (Json.optStr e.reasoning) (by simp [fields, get?_cons])
      (Decode.option_optStr e.reasoning)

theorem ObservationEvent.decode_fields (e : ObservationEvent) (hfits : e.observation.Fits)
    (hms : Shows ms e.fields) : ObservationEvent.decode src (.obj ms) = .ok e := by
  refine decode_of_reads _ hms.nodup (.seq (.seq (.map ?_ _) ?_) ?_)
  · exact Reads.present_written hms (.str e.toolName) (by simp [fields, get?_cons]) rfl
  · exact Reads.present_written hms (.str e.toolCallId) (by simp [fields, get?_cons]) rfl
  · exact Reads.present_written hms e.observation.toJson (by simp [fields, get?_cons])
      (e.observation.decode_toJson _ hfits)

theorem Rejection.decode_fields (e : Rejection) (hms : Shows ms e.fields) :
    Rejection.decode src (.obj ms) = .ok e := by
  refine decode_of_reads _ hms.nodup (.seq (.seq (.map ?_ _) ?_) ?_)
  · exact Reads.present_written hms (.str e.toolName) (by simp [fields, get?_cons]) rfl
  · exact Reads.present_written hms (.str e.toolCallId) (by simp [fields, get?_cons]) rfl
  · exact Reads.present_written hms (.str e.reason) (by simp [fields, get?_cons]) rfl

theorem AgentError.decode_fields (e : AgentError) (hms : Shows ms e.fields) :
    AgentError.decode src (.obj ms) = .ok e := by
  refine decode_of_reads _ hms.nodup (.seq (.seq (.map ?_ _) ?_) ?_)
  · exact Reads.present_written hms (.str e.toolName) (by simp [fields, get?_cons]) rfl
  · exact Reads.present_written hms (.str e.toolCallId) (by simp [fields, get?_cons]) rfl
  · exact Reads.present_written hms (.str e.error) (by simp [fields, get?_cons]) rfl

end Fields

/-! ## Events -/

theorem Event.tagged (src : Source) (e : Event) :
    ∃ ms, Decode.tagged "kind" "Event" eventKinds src (normalize e.toJson) =
      .ok ((eventKinds.findIdx? (· == e.kindName)).getD 0, .obj ms) ∧ Shows ms e.fields :=
  tagged_normalize "kind" "Event" eventKinds src (.str e.kindName) e.fields
    (by cases e <;> simp [fields, ActionEvent.fields, ObservationEvent.fields, Rejection.fields,
      AgentError.fields, get?_cons])
    (by cases e <;> rfl)

theorem Event.decode_toJson (src : Source) (e : Event) (hfits : e.Fits) :
    Event.decode src (normalize e.toJson) = .ok e.inMemory := by
  obtain ⟨ms, htag, hms⟩ := Event.tagged src e
  simp only [Event.decode, htag, bind, Except.bind]
  -- the kind's index picks the decoder of the members after the tag
  cases e with
  | action e =>
    rw [ActionEvent.decode_fields e hfits hms]
    rfl
  | observation e =>
    rw [ObservationEvent.decode_fields e hfits hms]
    rfl
  | rejection e =>
    rw [Rejection.decode_fields e hms]
    rfl
  | agentError e =>
    rw [AgentError.decode_fields e hms]
    rfl
  | message role content =>
    have hread : messageFields.Reads .buffered ms (.message role content) :=
      .seq ((Reads.present_written hms (.str role.name) (by simp [fields, get?_cons])
        (Role.decode_name _ _)).map _)
        (Reads.present_written hms (.str content) (by simp [fields, get?_cons]) rfl)
    rw [decode_of_reads _ hms.nodup hread]
    rfl
  | systemPrompt prompt tools =>
    have hread : systemPromptFields.Reads .buffered ms (.systemPrompt prompt tools) :=
      .seq ((Reads.present_written hms (.str prompt) (by simp [fields, get?_cons]) rfl).map _)
        (Reads.present_written hms (.arr (tools.map .str)) (by simp [fields, get?_cons])
          (Decode.list_normalize fun _ _ => rfl))
    rw [decode_of_reads _ hms.nodup hread]
    rfl
  | pause =>
    rw [decode_of_reads _ hms.nodup (Reads.pure Event.pause)]
    rfl
  | condensation forgotten summary =>
    have hread : condensationFields.Reads .buffered ms (.condensation forgotten summary) :=
      .seq ((Reads.present_written hms (.arr (forgotten.map .str)) (by simp [fields, get?_cons])
        (Decode.list_normalize fun _ _ => rfl)).map _)
        (Reads.present_written hms (Json.optStr summary) (by simp [fields, get?_cons])
          (Decode.option_optStr summary))
    rw [decode_of_reads _ hms.nodup hread]
    rfl
  | condensationRequest =>
    rw [decode_of_reads _ hms.nodup (Reads.pure Event.condensationRequest)]
    rfl
  | stateUpdate key value =>
    have hread : stateUpdateFields.Reads .buffered ms (.stateUpdate key (normalize value)) :=
      .seq ((Reads.present_written hms (.str key) (by simp [fields, get?_cons]) rfl).map _)
        (Reads.present_written hms value (by simp [fields, get?_cons]) (Decode.value_normalize value))
    rw [decode_of_reads _ hms.nodup hread]
    rfl

/-- Agent events round-trip through their value in memory: an event whose integers fit their
fields and whose free JSON is in map form, as values in memory are, decodes to itself, and so
does every action, observation and event of a call on its own. -/
theorem event_round_trip :
    (∀ e : Event, e.Fits → (∀ j ∈ e.freeJson, normalize j = j) →
      Event.decode .value (normalize e.toJson) = .ok e) ∧
    (∀ a : Action, a.Fits → (∀ j ∈ a.freeJson, normalize j = j) →
      Action.decode .value (normalize a.toJson) = .ok a) ∧
    (∀ o : Observation, o.Fits → Observation.decode .value (normalize o.toJson) = .ok o) ∧
    (∀ e : ActionEvent, e.Fits → (∀ j ∈ e.freeJson, normalize j = j) →
      ActionEvent.decode .value (normalize e.toJson) = .ok e) ∧
    (∀ e : ObservationEvent, e.observation.Fits →
      ObservationEvent.decode .value (normalize e.toJson) = .ok e) ∧
    (∀ e : Rejection, Rejection.decode .value (normalize e.toJson) = .ok e) ∧
    ∀ e : AgentError, AgentError.decode .value (normalize e.toJson) = .ok e := by
  refine ⟨fun e hfits hmap => ?_, fun a hfits hmap => ?_, fun o hfits => o.decode_toJson _ hfits,
    fun e hfits hmap => ?_, fun e hfits => e.decode_fields hfits (shows_toMap e.fields),
    fun e => e.decode_fields (shows_toMap e.fields), fun e => e.decode_fields (shows_toMap e.fields)⟩
  · rw [e.decode_toJson _ hfits, e.inMemory_of_mapForm hmap]
  · rw [a.decode_toJson _ hfits, a.inMemory_of_mapForm hmap]
  · have hdecode : ActionEvent.decode .value (normalize e.toJson) = .ok e.inMemory :=
      e.decode_fields hfits (shows_toMap e.fields)
    rw [hdecode, e.inMemory_of_mapForm hmap]

/-- A file editor's view of lines 1 to 20 inserted at line 3: its integers fit their 64-bit
fields, it has no free JSON, and it decodes back to itself. -/
theorem event_round_trip_view :
    let e : Event := .action ⟨"file_editor", "call_1",
      some (.fileEditor ⟨"view", "/tmp/a.txt", none, none, none, some 3, some [1, 20]⟩), [], none⟩
    e.Fits ∧ (∀ j ∈ e.freeJson, normalize j = j) ∧
      Event.decode .value (normalize e.toJson) = .ok e := by
  intro e
  have hfits : e.Fits := by
    simp only [e, Event.Fits, ActionEvent.Fits, Option.mem_def, Option.some.injEq, forall_eq',
      Action.Fits, List.mem_cons, List.not_mem_nil, or_false, forall_eq_or_imp, forall_eq,
      SignedFits]
    omega
  have hmap : ∀ j ∈ e.freeJson, normalize j = j := by
    simp [e, Event.freeJson, ActionEvent.freeJson, Action.freeJson]
  exact ⟨hfits, hmap, event_round_trip.1 e hfits hmap⟩

end Agent
end AcpBridge
