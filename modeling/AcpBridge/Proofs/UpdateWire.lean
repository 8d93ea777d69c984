import Mathlib
import AcpBridge.Proofs.FieldDecoding
import AcpBridge.Proofs.ReplayRun
import AcpBridge.Session.Update.Decode

/-!
# Session updates on the wire

Decoding the value in memory of a notification gives the notification back: every kind of
update, the content blocks and tool-call content tagged by `type`, the locations and plan
entries, and the fields that are left out when empty or absent (`Notification.decode_toJson`).
What comes back is the notification as held in memory, its free JSON (raw input, raw output,
metadata) in map form (`Notification.inMemory`); a notification whose free JSON is already
in map form is that form itself.

Two things would not come back: free JSON present as `null` reads as absent, and a line
number must fit 32 bits. No notification a subscriber sends has either, on the event path or
the token path (`Notification.Clear`, `clear_of_mem_sent`).
-/

namespace AcpBridge
namespace Session

open Json Fields Agent

/-! ## Free JSON and lines -/

def SessionUpdate.freeJson : SessionUpdate → List Json
  | .toolCall s => s.rawInput.toList
  | .toolCallUpdate p => p.rawOutput.toList
  | _ => []

/-- The line numbers of an update's locations. -/
def SessionUpdate.lines : SessionUpdate → List Nat
  | .toolCall s => s.locations.filterMap (·.line)
  | _ => []

def Notification.freeJson (n : Notification) : List Json := n.update.freeJson ++ n.metadata.toList

def SessionUpdate.inMemory : SessionUpdate → SessionUpdate
  | .toolCall s => .toolCall { s with rawInput := s.rawInput.map normalize }
  | .toolCallUpdate p => .toolCallUpdate { p with rawOutput := p.rawOutput.map normalize }
  | u => u

def Notification.inMemory (n : Notification) : Notification :=
  { n with update := n.update.inMemory, metadata := n.metadata.map normalize }

def SessionUpdate.Clear (u : SessionUpdate) : Prop :=
  (∀ j ∈ u.freeJson, j ≠ .null) ∧ ∀ l ∈ u.lines, l < 2 ^ 32

def Notification.Clear (n : Notification) : Prop :=
  n.update.Clear ∧ ∀ j, n.metadata = some j → j ≠ .null

theorem map_normalize_of_mapForm {o : Option Json} (h : ∀ j, o = some j → normalize j = j) :
    o.map normalize = o := by
  cases o with
  | none => rfl
  | some j => simpa using h j rfl

theorem Notification.inMemory_of_mapForm (n : Notification) (h : ∀ j ∈ n.freeJson, normalize j = j) :
    n.inMemory = n := by
  obtain ⟨sid, u, md⟩ := n
  have hmeta : md.map normalize = md :=
    map_normalize_of_mapForm fun j hj => h j (by simp [Notification.freeJson, hj])
  cases u with
  | toolCall s =>
    have hraw : s.rawInput.map normalize = s.rawInput :=
      map_normalize_of_mapForm fun j hj => h j (by simp [Notification.freeJson, SessionUpdate.freeJson, hj])
    simp [Notification.inMemory, SessionUpdate.inMemory, hraw, hmeta]
  | toolCallUpdate p =>
    have hraw : p.rawOutput.map normalize = p.rawOutput :=
      map_normalize_of_mapForm fun j hj => h j (by simp [Notification.freeJson, SessionUpdate.freeJson, hj])
    simp [Notification.inMemory, SessionUpdate.inMemory, hraw, hmeta]
  | messageChunk c => simp [Notification.inMemory, SessionUpdate.inMemory, hmeta]
  | thoughtChunk c => simp [Notification.inMemory, SessionUpdate.inMemory, hmeta]
  | plan entries => simp [Notification.inMemory, SessionUpdate.inMemory, hmeta]

/-! ## Looking up written members -/

@[simp] theorem reverse_member? (k : String) (f : α → Json) (o : Option α) :
    (member? k f o).reverse = member? k f o := by
  cases o <;> rfl

@[simp] theorem get?_member? (k k' : String) (f : α → Json) (o : Option α) :
    (Json.obj (member? k f o)).get? k' = if k = k' then o.map f else none := by
  cases o <;> by_cases h : k = k' <;> simp [member?, get?_cons, h]

@[simp] theorem reverse_ite_nil (c : Prop) [Decidable c] (m : String × Json) :
    (if c then [] else [m]).reverse = if c then [] else [m] := by
  split <;> rfl

@[simp] theorem get?_ite_nil (c : Prop) [Decidable c] (m : String × Json) (k : String) :
    (Json.obj (if c then [] else [m])).get? k = if c then none else if m.1 = k then some m.2 else none := by
  split <;> simp [get?_cons]

/-! ## Names and numbers -/

theorem ToolKind.decode_name (src : Source) (k : ToolKind) : ToolKind.decode src (.str k.name) = .ok k := by
  cases k <;> rfl

theorem ToolCallStatus.decode_name (src : Source) (s : ToolCallStatus) :
    ToolCallStatus.decode src (.str s.name) = .ok s := by
  cases s <;> rfl

theorem Priority.decode_name (src : Source) (p : Priority) : Priority.decode src (.str p.name) = .ok p := by
  cases p <;> rfl

theorem EntryStatus.decode_name (src : Source) (s : EntryStatus) :
    EntryStatus.decode src (.str s.name) = .ok s := by
  cases s <;> rfl

theorem decode_line {src : Source} {n : Nat} (h : n < 2 ^ 32) :
    Decode.option Decode.u32 src (normalize (Json.nat n)) = .ok (some n) := by
  have hn : n ≤ Nat.pow 2 32 - 1 := by
    show n ≤ 2 ^ 32 - 1
    omega
  simp [Decode.option, Decode.u32, Decode.unsigned, Json.nat, Json.normalize, hn]

/-! ## Blocks, locations and plan entries -/

theorem ContentBlock.decode_toJson (src : Source) (c : ContentBlock) :
    ContentBlock.decode src (normalize c.toJson) = .ok c := by
  obtain ⟨text⟩ := c
  obtain ⟨ms, htag, hms⟩ := tagged_normalize "type" "ContentBlock" ["text"] src (.str "text")
    [("text", .str text)] (by simp [get?_cons]) rfl
  simp only [ContentBlock.decode, ContentBlock.toJson, htag, bind, Except.bind]
  refine decode_of_reads _ hms.nodup (.map ?_ _)
  exact Reads.present_written hms (.str text) (by simp [get?_cons]) rfl

theorem ContentBlock.decode_toCallContent (src : Source) (c : ContentBlock) :
    ContentBlock.decodeCallContent src (normalize c.toCallContent) = .ok c := by
  obtain ⟨ms, htag, hms⟩ := tagged_normalize "type" "ToolCallContent" ["content"] src
    (.str "content") [("content", c.toJson)] (by simp [get?_cons]) rfl
  simp only [ContentBlock.decodeCallContent, ContentBlock.toCallContent, htag, bind, Except.bind]
  exact decode_of_reads _ hms.nodup
    (Reads.present_written hms c.toJson (by simp [get?_cons]) (c.decode_toJson _))

theorem Location.decode_toJson (src : Source) (l : Location) (hline : ∀ n, l.line = some n → n < 2 ^ 32) :
    Location.decode src (normalize l.toJson) = .ok l := by
  obtain ⟨path, line⟩ := l
  have hms := shows_toMap ([("path", .str path)] ++ member? "line" Json.nat line)
  refine decode_of_reads _ hms.nodup (.seq (.map ?_ _) ?_)
  · exact Reads.present_written hms (.str path) (by simp [get?_cons, get?_append]) rfl
  · exact Reads.maybe_written hms Json.nat (by simp [get?_cons, get?_append])
      fun n hn => decode_line (hline n hn)

theorem PlanEntry.decode_toJson (src : Source) (e : PlanEntry) :
    PlanEntry.decode src (normalize e.toJson) = .ok e := by
  obtain ⟨content, priority, status⟩ := e
  have hms := shows_toMap [("content", .str content), ("priority", .str priority.name),
    ("status", .str status.name)]
  refine decode_of_reads _ hms.nodup (.seq (.seq (.map ?_ _) ?_) ?_)
  · exact Reads.present_written hms (.str content) (by simp [get?_cons]) rfl
  · exact Reads.present_written hms (.str priority.name) (by simp [get?_cons]) (Priority.decode_name _ _)
  · exact Reads.present_written hms (.str status.name) (by simp [get?_cons]) (EntryStatus.decode_name _ _)

/-! ## Tool calls -/

def ToolCallStart.members (s : ToolCallStart) : List (String × Json) :=
  [("toolCallId", .str s.toolCallId), ("title", .str s.title), ("kind", .str s.kind.name),
    ("status", .str s.status.name)] ++
  (if s.content.isEmpty then [] else [("content", .arr (s.content.map ContentBlock.toCallContent))]) ++
  (if s.locations.isEmpty then [] else [("locations", .arr (s.locations.map Location.toJson))]) ++
  member? "rawInput" id s.rawInput

def ToolCallProgress.members (p : ToolCallProgress) : List (String × Json) :=
  [("toolCallId", .str p.toolCallId)] ++ member? "status" (fun s => .str s.name) p.status ++
    member? "title" .str p.title ++ member? "kind" (fun k => .str k.name) p.kind ++
    member? "content" (fun cs => .arr (cs.map ContentBlock.toCallContent)) p.content ++
    member? "rawOutput" id p.rawOutput

theorem toJson_toolCall (s : ToolCallStart) :
    (SessionUpdate.toolCall s).toJson = .obj (("sessionUpdate", .str "tool_call") :: s.members) := rfl

theorem toJson_toolCallUpdate (p : ToolCallProgress) :
    (SessionUpdate.toolCallUpdate p).toJson =
      .obj (("sessionUpdate", .str "tool_call_update") :: p.members) := rfl

theorem ToolCallStart.decode_members {ms : List (String × Json)} (s : ToolCallStart)
    (hclear : (SessionUpdate.toolCall s).Clear) (hms : Shows ms s.members) :
    ToolCallStart.decode .buffered (.obj ms) = .ok { s with rawInput := s.rawInput.map normalize } := by
  obtain ⟨hnull, hlines⟩ := hclear
  refine decode_of_reads _ hms.nodup (.seq (.seq (.seq (.seq (.seq (.seq (.map ?_ _) ?_) ?_) ?_) ?_) ?_) ?_)
  · exact Reads.present_written hms (.str s.toolCallId) (by simp [members, get?_cons, get?_append]) rfl
  · exact Reads.present_written hms (.str s.title) (by simp [members, get?_cons, get?_append]) rfl
  · exact Reads.present_written hms (.str s.kind.name) (by simp [members, get?_cons, get?_append])
      (ToolKind.decode_name _ _)
  · exact Reads.present_written hms (.str s.status.name) (by simp [members, get?_cons, get?_append])
      (ToolCallStatus.decode_name _ _)
  · exact Reads.list_written hms ContentBlock.toCallContent (by simp [members, get?_cons, get?_append])
      fun c _ => c.decode_toCallContent _
  · exact Reads.list_written hms Location.toJson (by simp [members, get?_cons, get?_append])
      fun l hl => l.decode_toJson _ fun n hn => hlines n (List.mem_filterMap.mpr ⟨l, hl, hn⟩)
  · exact Reads.maybe_value hms (by simp [members, get?_cons, get?_append])
      fun j hj => hnull j (by simp [SessionUpdate.freeJson, hj])

theorem ToolCallProgress.decode_members {ms : List (String × Json)} (p : ToolCallProgress)
    (hnull : ∀ j, p.rawOutput = some j → j ≠ .null) (hms : Shows ms p.members) :
    ToolCallProgress.decode .buffered (.obj ms) = .ok { p with rawOutput := p.rawOutput.map normalize } := by
  refine decode_of_reads _ hms.nodup (.seq (.seq (.seq (.seq (.seq (.map ?_ _) ?_) ?_) ?_) ?_) ?_)
  · exact Reads.present_written hms (.str p.toolCallId) (by simp [members, get?_cons, get?_append]) rfl
  · exact Reads.maybe_written hms (fun s => .str s.name) (by simp [members, get?_cons, get?_append])
      fun s _ => Decode.option_of_ne_null (by simp [Json.normalize]) (ToolCallStatus.decode_name _ s)
  · exact Reads.maybe_written hms Json.str (by simp [members, get?_cons, get?_append])
      fun _ _ => Decode.option_string
  · exact Reads.maybe_written hms (fun k => .str k.name) (by simp [members, get?_cons, get?_append])
      fun k _ => Decode.option_of_ne_null (by simp [Json.normalize]) (ToolKind.decode_name _ k)
  · exact Reads.maybe_written hms (fun cs => .arr (cs.map ContentBlock.toCallContent))
      (by simp [members, get?_cons, get?_append])
      fun cs _ => Decode.option_of_ne_null (by simp [Json.normalize])
        (Decode.list_normalize fun c _ => c.decode_toCallContent _)
  · exact Reads.maybe_value hms (by simp [members, get?_cons, get?_append]) hnull

/-! ## Updates and notifications -/

theorem SessionUpdate.decode_toJson (src : Source) (u : SessionUpdate) (h : u.Clear) :
    SessionUpdate.decode src (normalize u.toJson) = .ok u.inMemory := by
  cases u with
  | toolCall s =>
    obtain ⟨ms, htag, hms⟩ := tagged_normalize "sessionUpdate" "SessionUpdate" updateKinds src
      (.str "tool_call") s.members (by simp [ToolCallStart.members, get?_cons, get?_append]) rfl
    simp only [SessionUpdate.decode, toJson_toolCall, htag, bind, Except.bind,
      ToolCallStart.decode_members s h hms]
    rfl
  | toolCallUpdate p =>
    have hnull : ∀ j, p.rawOutput = some j → j ≠ .null :=
      fun j hj => h.1 j (by simp [SessionUpdate.freeJson, hj])
    obtain ⟨ms, htag, hms⟩ := tagged_normalize "sessionUpdate" "SessionUpdate" updateKinds src
      (.str "tool_call_update") p.members (by simp [ToolCallProgress.members, get?_cons, get?_append]) rfl
    simp only [SessionUpdate.decode, toJson_toolCallUpdate, htag, bind, Except.bind,
      ToolCallProgress.decode_members p hnull hms]
    rfl
  | messageChunk c =>
    obtain ⟨ms, htag, hms⟩ := tagged_normalize "sessionUpdate" "SessionUpdate" updateKinds src
      (.str "agent_message_chunk") [("content", c.toJson)] (by simp [get?_cons]) rfl
    simp only [SessionUpdate.decode, SessionUpdate.toJson, htag, bind, Except.bind]
    exact decode_of_reads _ hms.nodup
      ((Reads.present_written hms c.toJson (by simp [get?_cons]) (c.decode_toJson _)).map _)
  | thoughtChunk c =>
    obtain ⟨ms, htag, hms⟩ := tagged_normalize "sessionUpdate" "SessionUpdate" updateKinds src
      (.str "agent_thought_chunk") [("content", c.toJson)] (by simp [get?_cons]) rfl
    simp only [SessionUpdate.decode, SessionUpdate.toJson, htag, bind, Except.bind]
    exact decode_of_reads _ hms.nodup
      ((Reads.present_written hms c.toJson (by simp [get?_cons]) (c.decode_toJson _)).map _)
  | plan entries =>
    obtain ⟨ms, htag, hms⟩ := tagged_normalize "sessionUpdate" "SessionUpdate" updateKinds src
      (.str "plan") [("entries", .arr (entries.map PlanEntry.toJson))] (by simp [get?_cons]) rfl
    simp only [SessionUpdate.decode, SessionUpdate.toJson, htag, bind, Except.bind]
    exact decode_of_reads _ hms.nodup
      ((Reads.present_written hms (.arr (entries.map PlanEntry.toJson)) (by simp [get?_cons])
        (Decode.list_normalize fun e _ => e.decode_toJson _)).map _)

theorem Notification.decode_toJson (src : Source) (n : Notification) (h : n.Clear) :
    Notification.decode src (normalize n.toJson) = .ok n.inMemory := by
  obtain ⟨sid, u, md⟩ := n
  obtain ⟨hu, hmeta⟩ := h
  have hms := shows_toMap ([("sessionId", .str sid), ("update", u.toJson)] ++ member? "_meta" id md)
  show _ = (Except.ok ⟨sid, u.inMemory, md.map normalize⟩ : Except DecodeError Notification)
  refine decode_of_reads _ hms.nodup (.seq (.seq (.map ?_ _) ?_) ?_)
  · exact Reads.present_written hms (.str sid) (by simp [get?_cons, get?_append]) rfl
  · exact Reads.present_written hms u.toJson (by simp [get?_cons, get?_append]) (u.decode_toJson _ hu)
  · exact Reads.maybe_value hms (by simp [get?_cons, get?_append]) hmeta

/-! ## What a subscriber sends -/

section Clear

open SessionUpdate

theorem SessionUpdate.clear_toolCall {s : ToolCallStart} (hraw : ∀ j, s.rawInput = some j → j ≠ .null)
    (hlines : ∀ l ∈ s.locations, ∀ m, l.line = some m → m < 2 ^ 32) : (toolCall s).Clear := by
  refine ⟨fun j hj => hraw j (by simpa [freeJson] using hj), fun m hm => ?_⟩
  obtain ⟨l, hl, hlm⟩ := List.mem_filterMap.mp hm
  exact hlines l hl m hlm

theorem SessionUpdate.clear_toolCallUpdate {p : ToolCallProgress}
    (hraw : ∀ j, p.rawOutput = some j → j ≠ .null) : (toolCallUpdate p).Clear :=
  ⟨fun j hj => hraw j (by simpa [freeJson] using hj), by simp [lines]⟩

@[simp] theorem SessionUpdate.clear_message (text : String) : (message text).Clear :=
  ⟨by simp [message, freeJson], by simp [message, lines]⟩

@[simp] theorem SessionUpdate.clear_thought (text : String) : (thought text).Clear :=
  ⟨by simp [thought, freeJson], by simp [thought, lines]⟩

@[simp] theorem SessionUpdate.clear_plan (entries : List PlanEntry) : (plan entries).Clear :=
  ⟨by simp [freeJson], by simp [lines]⟩

theorem clear_closeCall {id : String} {status : ToolCallStatus} {rendered : String} {raw : Json}
    (h : raw ≠ .null) : (closeCall id status rendered raw).Clear :=
  clear_toolCallUpdate (by rintro j ⟨⟩; exact h)

theorem clear_thoughtIfAny {text : String} {u : SessionUpdate} (hu : u ∈ thoughtIfAny text) : u.Clear := by
  unfold thoughtIfAny at hu
  split at hu
  · simp at hu
  · rw [List.mem_singleton] at hu
    subst hu
    exact clear_thought text

theorem lineOf_lt {n : Int} {m : Nat} (h : lineOf n = some m) : m < 2 ^ 32 := by
  unfold lineOf at h
  split at h
  · rename_i hn
    cases h
    have hlt : n < 4294967296 := hn.2
    show n.toNat < 4294967296
    omega
  · cases h

theorem lines_actionLocations (a : Action) : ∀ l ∈ actionLocations a, ∀ m, l.line = some m → m < 2 ^ 32 := by
  intro l hl m hm
  cases a with
  | fileEditor a =>
    rw [actionLocations] at hl
    split at hl
    · simp at hl
    · simp only [List.mem_singleton] at hl
      subst hl
      -- the first line viewed, or else the line inserted at, each through `lineOf`
      cases hv : (a.viewRange.bind List.head?).bind lineOf with
      | some x =>
        simp only [hv, Option.orElse_some, Option.some.injEq] at hm
        obtain ⟨y, -, hy⟩ := Option.bind_eq_some_iff.mp hv
        exact hm ▸ lineOf_lt hy
      | none =>
        simp only [hv, Option.orElse_none] at hm
        obtain ⟨y, -, hy⟩ := Option.bind_eq_some_iff.mp hm
        exact lineOf_lt hy
  | terminal _ | taskTracker _ | think _ | finish _ | generic _ => simp [actionLocations] at hl

theorem clear_actionUpdates (e : ActionEvent) : ∀ u ∈ actionUpdates e, u.Clear := by
  intro u hu
  simp only [actionUpdates, List.mem_append] at hu
  rcases hu with (hr | ht) | hcall
  · -- the reasoning, as a thought
    split at hr
    · split at hr
      · simp at hr
      · rw [List.mem_singleton] at hr
        exact hr ▸ clear_thought _
    · simp at hr
  · split at ht
    · simp at ht
    · rw [List.mem_singleton] at ht
      exact ht ▸ clear_thought _
  · split at hcall
    · -- not executed: a call with nothing but a title
      rw [List.mem_singleton] at hcall
      exact hcall ▸ clear_toolCall (by simp [ToolCallStart.new]) (by simp [ToolCallStart.new])
    · rename_i a _
      split at hcall
      · exact clear_thoughtIfAny hcall
      · split at hcall
        · simp at hcall
        · rw [List.mem_singleton] at hcall
          exact hcall ▸ clear_message _
      · -- a started call with the action as raw input and the file it touches
        rw [List.mem_singleton] at hcall
        subst hcall
        refine clear_toolCall ?_ (lines_actionLocations a)
        rintro j ⟨⟩
        cases a <;> simp [Action.toJson]

theorem clear_translate (e : Event) (streaming : Bool) : ∀ u ∈ translate e streaming, u.Clear := by
  intro u hu
  cases e with
  | action e => exact clear_actionUpdates e u hu
  | observation e =>
    simp only [translate] at hu
    split at hu
    · simp at hu
    · simp at hu
    · rcases List.mem_pair.mp hu with rfl | rfl
      · exact clear_plan _
      · exact clear_toolCallUpdate (by rintro j ⟨⟩; simp [ObservationEvent.toJson])
    · rw [List.mem_singleton] at hu
      exact hu ▸ clear_closeCall (by simp [ObservationEvent.toJson])
  | rejection e =>
    rw [translate, List.mem_singleton] at hu
    exact hu ▸ clear_closeCall (by simp [Rejection.toJson])
  | agentError e =>
    rw [translate, List.mem_singleton] at hu
    exact hu ▸ clear_closeCall (by simp [AgentError.toJson])
  | message role content =>
    -- only a message that is not blank, not the user's and not streamed is sent
    simp only [translate] at hu
    split_ifs at hu
    · simp at hu
    · simp at hu
    · simp at hu
    · rw [List.mem_singleton] at hu
      exact hu ▸ clear_message content
  | systemPrompt _ _ | pause | condensation _ _ | condensationRequest => exact clear_thoughtIfAny hu
  | stateUpdate _ _ => simp [translate] at hu

theorem clear_streamUpdate (a : StreamAction) : (Bridge.Subscriber.streamUpdate a).Clear := by
  cases a with
  | start id name => exact clear_toolCall (by simp [ToolCallStart.new]) (by simp [ToolCallStart.new])
  | thought text => exact clear_thought text
  | progress id fragment => exact clear_toolCallUpdate (by simp [ToolCallProgress.new])

theorem clear_tokenUpdates (t : Tracker) (ds : List Delta) :
    ∀ u ∈ Bridge.Subscriber.tokenUpdates t ds, u.Clear := by
  induction ds generalizing t with
  | nil => simp [Bridge.Subscriber.tokenUpdates]
  | cons d ds ih =>
    intro u hu
    simp only [Bridge.Subscriber.tokenUpdates, List.mem_append] at hu
    rcases hu with ((hs | hr) | ht) | hrest
    · obtain ⟨a, -, rfl⟩ := List.mem_map.mp hs
      exact clear_streamUpdate a
    · obtain ⟨r, -, rfl⟩ := Option.map_eq_some_iff.mp (Option.mem_toList.mp hr)
      exact clear_thought r
    · obtain ⟨text, -, rfl⟩ := Option.map_eq_some_iff.mp (Option.mem_toList.mp ht)
      exact clear_message text
    · exact ih _ u hrest

theorem metadata?_ne_null {key : String} {t : Option Metrics.Totals} {j : Json}
    (h : Metrics.metadata? key t = some j) : j ≠ .null := by
  obtain ⟨totals, -, hmap⟩ := Option.bind_eq_some_iff.mp h
  obtain ⟨u, -, rfl⟩ := Option.map_eq_some_iff.mp hmap
  simp

theorem clear_of_mem_sent {s : Bridge.Subscriber} {item : TraceItem} {n : Notification}
    (hn : n ∈ s.sent item) : n.Clear := by
  cases item with
  | event e =>
    obtain ⟨u, hu, rfl⟩ := List.mem_map.mp hn
    exact ⟨clear_translate e s.streaming u hu, fun j hj => metadata?_ne_null hj⟩
  | token c =>
    obtain ⟨u, hu, rfl⟩ := List.mem_map.mp hn
    exact ⟨clear_tokenUpdates _ _ u hu, by simp [Bridge.Subscriber.notification]⟩
  | usage _ _ => simp [Bridge.Subscriber.sent] at hn
  | newTurn => simp [Bridge.Subscriber.sent] at hn

end Clear

/-- Notifications round-trip through their value in memory. One that is clear and whose free
JSON is in map form, as values in memory are, decodes to itself; every notification a
subscriber sends, on the event path or the token path, decodes to itself as held in memory. -/
theorem notification_round_trip :
    (∀ n : Notification, n.Clear → (∀ j ∈ n.freeJson, normalize j = j) →
      Notification.decode .value (normalize n.toJson) = .ok n) ∧
    ∀ (s : Bridge.Subscriber) (item : TraceItem), ∀ n ∈ s.sent item,
      Notification.decode .value (normalize n.toJson) = .ok n.inMemory := by
  refine ⟨fun n hclear hmap => ?_, fun s item n hn => ?_⟩
  · rw [Notification.decode_toJson .value n hclear, n.inMemory_of_mapForm hmap]
  · exact Notification.decode_toJson .value n (clear_of_mem_sent hn)

/-- A tool call that runs `ls`, at line 12 of a file, with its raw input an object: it is clear,
its free JSON is in map form, and it decodes back to itself. -/
theorem notification_round_trip_tool_call :
    let n : Notification := ⟨"s1", .toolCall ⟨"call_1", "ls", .execute, .inProgress, [⟨"ls"⟩],
      [⟨"/tmp/a.txt", some 12⟩], some (.obj [("command", .str "ls")])⟩, none⟩
    n.Clear ∧ (∀ j ∈ n.freeJson, normalize j = j) ∧
      Notification.decode .value (normalize n.toJson) = .ok n := by
  intro n
  have hclear : n.Clear :=
    ⟨⟨by simp [n, SessionUpdate.freeJson], by simp [n, SessionUpdate.lines]⟩, by simp [n]⟩
  have hmap : ∀ j ∈ n.freeJson, normalize j = j := by
    simp only [n, Notification.freeJson, SessionUpdate.freeJson, Option.toList_some,
      Option.toList_none, List.append_nil, List.mem_singleton, forall_eq]
    rfl
  exact ⟨hclear, hmap, notification_round_trip.1 n hclear hmap⟩

end Session
end AcpBridge
