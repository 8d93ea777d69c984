import Mathlib
import AcpBridge.Session.Translate
import AcpBridge.Agent.Event.Encode

/-!
# What a discrete event sends

Two laws of `translate`, read against the wire-level promises of the bridge.

* The streaming flag says that assistant text already went out token by token. It changes
  the updates of exactly one kind of event: a complete message that is not the user's and not
  blank, which is sent as a message chunk without the flag and dropped with it
  (`streaming_flag_only_messages`).
* Every event that finishes a tool call (an observation other than think and finish, a
  rejection, an agent error) closes it exactly once, with its last update: the call's id, a
  final status, the event itself as raw output, and the rendered event as content unless it
  is blank (`finished_calls_closed`). A task-list observation sends the plan first, and its
  close carries no content.

Blankness is stated as the trimmed text being empty; `Text.trim_eq_empty_iff` ties it to the
test the code makes.
-/

namespace AcpBridge

namespace Text

theorem trim_eq_empty_iff (s : String) : trim s = "" ↔ isBlankText s = true := by
  -- trimming drops blanks from both ends; what is left is empty iff the first pass took all
  have hfront : ∀ l : List Char,
      (∀ c ∈ l.dropWhile isBlank, isBlank c = true) ↔ l.dropWhile isBlank = [] := by
    intro l
    constructor
    · intro hall
      cases hdrop : l.dropWhile isBlank with
      | nil => rfl
      | cons c rest =>
          have hhead := List.head_dropWhile_not isBlank (l := l) (by simp [hdrop])
          simp only [hdrop, List.head_cons] at hhead
          rw [hdrop] at hall
          simp [hall c List.mem_cons_self] at hhead
    · intro hnil c hc
      rw [hnil] at hc
      cases hc
  unfold trim isBlankText
  rw [String.ofList_eq_empty_iff, List.reverse_eq_nil_iff, List.dropWhile_eq_nil_iff]
  simp only [List.mem_reverse]
  rw [hfront, List.dropWhile_eq_nil_iff, List.all_eq_true]

end Text

namespace Session

open Agent

theorem contentBlocks_eq (text : String) :
    contentBlocks text = if Text.trim text = "" then none else some [⟨text⟩] := by
  unfold contentBlocks
  by_cases hblank : Text.isBlankText text = true
  · rw [if_pos hblank, if_pos ((Text.trim_eq_empty_iff text).mpr hblank)]
  · rw [if_neg hblank, if_neg (fun h => hblank ((Text.trim_eq_empty_iff text).mp h))]

/-! ## The streaming flag -/

theorem Role.beq_user_iff (r : Role) : (r == .user) = true ↔ r = .user := by
  cases r
  case user => exact ⟨fun _ => rfl, fun _ => rfl⟩
  all_goals exact ⟨fun h => (nomatch h), fun h => (nomatch h)⟩

section Message

variable (role : Role) (content : String) (streaming : Bool)

theorem translate_message_blank (hblank : Text.trim content = "") :
    translate (.message role content) streaming = [] := by
  simp [translate, (Text.trim_eq_empty_iff content).mp hblank]

theorem translate_message_user : translate (.message .user content) streaming = [] := by
  simp [translate, (Role.beq_user_iff .user).mpr rfl]

theorem translate_message_shown (huser : role ≠ .user) (hblank : Text.trim content ≠ "") :
    translate (.message role content) streaming =
      if streaming then [] else [SessionUpdate.message content] := by
  have hblank' : Text.isBlankText content = false :=
    Bool.eq_false_iff.mpr fun h => hblank ((Text.trim_eq_empty_iff content).mpr h)
  have huser' : (role == .user) = false :=
    Bool.eq_false_iff.mpr fun h => huser ((Role.beq_user_iff role).mp h)
  simp [translate, hblank', huser']

end Message

/-- The streaming flag only affects complete non-user messages. Any other event sends the same
updates under both flags. A message that is not the user's and not blank is sent as a message
chunk without the flag and dropped with it; the user's messages and blank messages are
dropped under both. -/
theorem streaming_flag_only_messages :
    (∀ e : Event, (¬ ∃ role content, e = .message role content ∧ role ≠ .user ∧
        Text.trim content ≠ "") → translate e true = translate e false) ∧
    (∀ role content, role ≠ .user → Text.trim content ≠ "" →
      translate (.message role content) false = [.message content] ∧
        translate (.message role content) true = []) ∧
    (∀ content streaming, translate (.message .user content) streaming = []) ∧
    (∀ role content streaming, Text.trim content = "" →
      translate (.message role content) streaming = []) := by
  refine ⟨?_, ?_, translate_message_user, fun role content streaming hblank =>
    translate_message_blank role content streaming hblank⟩
  · intro e hkept
    cases e with
    | message role content =>
        -- a message outside the exception is blank or the user's: dropped under both flags
        by_cases hblank : Text.trim content = ""
        · rw [translate_message_blank _ _ _ hblank, translate_message_blank _ _ _ hblank]
        · by_cases huser : role = .user
          · subst huser
            rw [translate_message_user, translate_message_user]
          · exact absurd ⟨role, content, rfl, huser, hblank⟩ hkept
    | action e => rfl
    | observation e => rfl
    | rejection e => rfl
    | agentError e => rfl
    | systemPrompt prompt tools => rfl
    | pause => rfl
    | condensation forgotten summary => rfl
    | condensationRequest => rfl
    | stateUpdate key value => rfl
  · intro role content huser hblank
    rw [translate_message_shown role content false huser hblank,
      translate_message_shown role content true huser hblank]
    exact ⟨rfl, rfl⟩

/-! ## Closing finished calls -/

def SessionUpdate.isToolCallUpdate : SessionUpdate → Bool
  | .toolCallUpdate _ => true
  | _ => false

/-- Updates `us` are the updates `pre`, none of them about a tool call, and then one update
that closes the call `id` with `status`, the raw output `raw` and the content `content`. -/
def ClosesAfter (us pre : List SessionUpdate) (id : String) (status : ToolCallStatus) (raw : Json)
    (content : Option (List ContentBlock)) : Prop :=
  (∀ u ∈ pre, u.isToolCallUpdate = false) ∧
    ∃ p : ToolCallProgress, us = pre ++ [.toolCallUpdate p] ∧ p.toolCallId = id ∧
      p.status = some status ∧ p.rawOutput = some raw ∧ p.content = content

theorem ClosesAfter.toolCallUpdates {us pre : List SessionUpdate} {id : String}
    {status : ToolCallStatus} {raw : Json} {content : Option (List ContentBlock)}
    (h : ClosesAfter us pre id status raw content) :
    ∃ p, us.filter (·.isToolCallUpdate) = [.toolCallUpdate p] ∧ us.getLast? = some (.toolCallUpdate p) := by
  obtain ⟨hpre, p, rfl, -⟩ := h
  refine ⟨p, ?_, by simp⟩
  rw [List.filter_append, List.filter_eq_nil_iff.mpr (fun u hu => by simp [hpre u hu])]
  rfl

theorem closeCall_closes (id : String) (status : ToolCallStatus) (rendered : String) (raw : Json) :
    ClosesAfter [closeCall id status rendered raw] [] id status raw
      (if Text.trim rendered = "" then none else some [⟨rendered⟩]) := by
  refine ⟨by simp, _, rfl, rfl, rfl, rfl, ?_⟩
  exact contentBlocks_eq rendered

theorem translate_observation_result {e : ObservationEvent} (hthink : e.observation ≠ .think)
    (hfinish : e.observation ≠ .finish) (htask : ∀ o, e.observation ≠ .taskTracker o)
    (streaming : Bool) :
    translate (.observation e) streaming =
      [closeCall e.toolCallId .completed (Event.render (.observation e)) e.toJson] := by
  obtain ⟨name, id, o⟩ := e
  cases o with
  | think => exact absurd rfl hthink
  | finish => exact absurd rfl hfinish
  | taskTracker o => exact absurd rfl (htask o)
  | fileEditor o => rfl
  | terminal o => rfl
  | generic content => rfl

/-- Every finished tool call is closed exactly once. Under either streaming flag, an
observation other than think and finish, a rejection and an agent error each end with the
one tool-call update they send: it carries the event's call id, the status completed for an
observation and failed otherwise, and the event itself as raw output. Its content is the
rendered event as one text block when that is not blank and absent otherwise, except for a
task list, whose plan goes first, one entry per task in order, and whose close carries no
content. Think and finish observations send nothing. -/
theorem finished_calls_closed (streaming : Bool) :
    (∀ e : ObservationEvent, e.observation ≠ .think → e.observation ≠ .finish →
      (∀ o, e.observation ≠ .taskTracker o) →
      ClosesAfter (translate (.observation e) streaming) [] e.toolCallId .completed e.toJson
        (if Text.trim (Event.render (.observation e)) = "" then none
          else some [⟨Event.render (.observation e)⟩])) ∧
    (∀ e : ObservationEvent, ∀ o, e.observation = .taskTracker o →
      ClosesAfter (translate (.observation e) streaming) [.plan (o.tasks.map planEntry)]
        e.toolCallId .completed e.toJson none) ∧
    (∀ r : Rejection,
      ClosesAfter (translate (.rejection r) streaming) [] r.toolCallId .failed r.toJson
        (if Text.trim (Event.render (.rejection r)) = "" then none
          else some [⟨Event.render (.rejection r)⟩])) ∧
    (∀ a : AgentError,
      ClosesAfter (translate (.agentError a) streaming) [] a.toolCallId .failed a.toJson
        (if Text.trim (Event.render (.agentError a)) = "" then none
          else some [⟨Event.render (.agentError a)⟩])) ∧
    (∀ name id, translate (.observation ⟨name, id, .think⟩) streaming = [] ∧
      translate (.observation ⟨name, id, .finish⟩) streaming = []) := by
  refine ⟨?_, ?_, ?_, ?_, fun _ _ => ⟨rfl, rfl⟩⟩
  · intro e hthink hfinish htask
    rw [translate_observation_result hthink hfinish htask]
    exact closeCall_closes _ _ _ _
  · intro e o htask
    obtain ⟨name, id, obs⟩ := e
    cases htask
    exact ⟨by simp [SessionUpdate.isToolCallUpdate], _, rfl, rfl, rfl, rfl, rfl⟩
  · intro r
    exact closeCall_closes _ _ _ _
  · intro a
    exact closeCall_closes _ _ _ _

end Session
end AcpBridge
