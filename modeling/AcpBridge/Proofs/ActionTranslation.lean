import Mathlib
import AcpBridge.Proofs.EventTranslation

/-!
# What an action event sends

An action event is shared in three parts, in this order, under either streaming flag
(`translate_action_event`):

* the agent's reasoning, then its thoughts joined by spaces, each as one thought under a
  heading, trimmed, and only when trimming leaves something (`headedThought`);
* then what the action asks for. An event without action starts a call marked as not executed,
  with nothing but its id, title and the kind of its tool. A think action shares its text as a
  thought and a finish action as a message, each only when it is not blank, and neither starts a
  call. Any other action starts a call in progress under the event's id, with the rendered
  action as content when that is not blank (`shownContent`), the file the file editor touches,
  and the action itself as raw input.

A started call's title and kind come from two places. The file editor names both: it reads or
edits its path. A terminal is titled by its command and a task list by `planUpdatedTitle`, each
with the kind of the event's tool name; a generic action takes both from the tool name. So a
terminal action under the tool name `file_editor` is an edit titled by its command.

The line of a file location is the first line viewed when that fits 32 unsigned bits, else the
line inserted at when that fits, else none (`fileLocations`, `lineOf_eq_some_iff`).
-/

namespace AcpBridge
namespace Session

open Agent

/-- A text shared as a thought under a heading: the heading, the trimmed text and a line feed,
or nothing when trimming leaves nothing. -/
def headedThought (heading text : String) : List SessionUpdate :=
  if Text.trim text = "" then [] else [.thought (heading ++ Text.trim text ++ "\n")]

def shownContent (text : String) : List ContentBlock :=
  if Text.trim text = "" then [] else [⟨text⟩]

/-- The file a file-editor action touches, when its path is not empty: at the first line viewed
when that fits 32 unsigned bits, or else at the line inserted at when that fits. -/
def fileLocations (f : FileEdit) : List Location :=
  if f.path = "" then []
  else [⟨f.path, ((f.viewRange.bind List.head?).bind lineOf).or (f.insertLine.bind lineOf)⟩]

theorem lineOf_eq_some_iff (n : Int) (k : Nat) : lineOf n = some k ↔ 0 ≤ n ∧ n < 2 ^ 32 ∧ n = k := by
  unfold lineOf
  have hpow : Int.pow 2 32 = 2 ^ 32 := rfl
  rw [hpow]
  split
  · rename_i hfits
    constructor
    · intro h
      cases h
      exact ⟨hfits.1, hfits.2, (Int.toNat_of_nonneg hfits.1).symm⟩
    · rintro ⟨-, -, rfl⟩
      rfl
  · rename_i hfits
    constructor
    · intro h
      cases h
    · rintro ⟨h0, hlt, -⟩
      exact absurd ⟨h0, hlt⟩ hfits

/-! ## The parts of the translation, in the code's own tests -/

theorem headedThought_eq (heading text : String) :
    (if (Text.trim text).isEmpty then [] else [SessionUpdate.thought (heading ++ Text.trim text ++ "\n")]) =
      headedThought heading text := by
  simp only [headedThought, String.isEmpty_iff]

theorem ite_isBlankText {α : Type} (text : String) (a b : α) :
    (if Text.isBlankText text = true then a else b) = if Text.trim text = "" then a else b := by
  by_cases hblank : Text.isBlankText text = true
  · rw [if_pos hblank, if_pos ((Text.trim_eq_empty_iff text).mpr hblank)]
  · rw [if_neg hblank, if_neg (fun h => hblank ((Text.trim_eq_empty_iff text).mp h))]

theorem contentBlocks_getD (text : String) : (contentBlocks text).getD [] = shownContent text := by
  rw [contentBlocks_eq, shownContent]
  split <;> rfl

theorem actionLocations_fileEditor (f : FileEdit) : actionLocations (.fileEditor f) = fileLocations f := by
  simp only [actionLocations, fileLocations, String.isEmpty_iff, Option.orElse_eq_or]

theorem actionUpdates_eq (e : ActionEvent) :
    actionUpdates e = (e.reasoning.map (headedThought "**Reasoning**:\n")).getD [] ++
      headedThought "\n**Thought**:\n" e.thoughtText ++ actionUpdates { e with reasoning := none, thought := [] } := by
  have hempty : ActionEvent.thoughtText { e with reasoning := none, thought := [] } = "" := rfl
  have htrim : Text.trim "" = "" := by decide
  cases hr : e.reasoning <;>
    simp [actionUpdates, hr, hempty, htrim, ← headedThought_eq]

theorem actionUpdates_start (toolName id : String) (a : Action) (hthink : ∀ t, a ≠ .think t)
    (hfinish : ∀ m, a ≠ .finish m) :
    actionUpdates ⟨toolName, id, some a, [], none⟩ =
      [.toolCall ⟨id, (callHeading toolName a).1, (callHeading toolName a).2, .inProgress,
        shownContent a.render, actionLocations a, some a.toJson⟩] := by
  have htrim : Text.trim "" = "" := by decide
  cases a
  case think t => exact absurd rfl (hthink t)
  case finish m => exact absurd rfl (hfinish m)
  all_goals simp [actionUpdates, ActionEvent.thoughtText, htrim, contentBlocks_getD, ToolCallStart.new]

/-- Translation of an action event. Under either streaming flag, an action event sends the
thought of its reasoning and the thought of its joined thoughts, each when trimming leaves
something, and then:

* without action, one start of a call titled `notExecutedTitle`, of its tool's kind, with no
  content, locations or raw input;
* for a think or finish action, its text as a thought or a message when not blank, else nothing;
* for any other action, one start of a call in progress under the event's id, carrying the
  rendered action as content when not blank and the action as raw input. A file editor that
  views reads its path and any other command edits it, at the file it touches; a terminal is
  titled by its command, a task list by `planUpdatedTitle` and a generic action by its tool name,
  each of its tool's kind and at no file. -/
theorem translate_action_event (toolName id : String) (thought : List TextContent)
    (reasoning : Option String) (streaming : Bool) :
    let shared := (reasoning.map (headedThought "**Reasoning**:\n")).getD [] ++
      headedThought "\n**Thought**:\n" (" ".intercalate (thought.map (·.text)))
    let updates := fun action => translate (.action ⟨toolName, id, action, thought, reasoning⟩) streaming
    let kind := ToolKind.ofToolName toolName
    let start := fun (title : String) (kind : ToolKind) (a : Action) (locations : List Location) =>
      SessionUpdate.toolCall ⟨id, title, kind, .inProgress, shownContent a.render, locations, some a.toJson⟩
    updates none = shared ++ [.toolCall ⟨id, notExecutedTitle, kind, .inProgress, [], [], none⟩] ∧
      (∀ t, updates (some (.think t)) = shared ++ if Text.trim t = "" then [] else [.thought t]) ∧
      (∀ m, updates (some (.finish m)) = shared ++ if Text.trim m = "" then [] else [.message m]) ∧
      (∀ f : FileEdit, updates (some (.fileEditor f)) = shared ++
        [if f.command = "view" then start ("Reading " ++ f.path) .read (.fileEditor f) (fileLocations f)
          else start ("Editing " ++ f.path) .edit (.fileEditor f) (fileLocations f)]) ∧
      (∀ c : TerminalCommand,
        updates (some (.terminal c)) = shared ++ [start c.command kind (.terminal c) []]) ∧
      (∀ u : TaskUpdate,
        updates (some (.taskTracker u)) = shared ++ [start planUpdatedTitle kind (.taskTracker u) []]) ∧
      ∀ j : Json, updates (some (.generic j)) = shared ++ [start toolName kind (.generic j) []] := by
  intro shared updates kind start
  -- the shared thoughts come first whatever the action; what follows is the action's own part
  have hsplit : ∀ a, updates a = shared ++ actionUpdates ⟨toolName, id, a, [], none⟩ :=
    fun a => actionUpdates_eq ⟨toolName, id, a, thought, reasoning⟩
  have htrim : Text.trim "" = "" := by decide
  refine ⟨?_, fun t => ?_, fun m => ?_, fun f => ?_, fun c => ?_, fun u => ?_, fun j => ?_⟩
  all_goals rw [hsplit]
  · simp [actionUpdates, ActionEvent.thoughtText, htrim]
    rfl
  · simp [actionUpdates, ActionEvent.thoughtText, htrim, thoughtIfAny, Action.render]
    exact ite_isBlankText _ _ _
  · simp [actionUpdates, ActionEvent.thoughtText, htrim, Action.render]
    exact ite_isBlankText _ _ _
  · rw [actionUpdates_start _ _ _ (by simp) (by simp), actionLocations_fileEditor]
    by_cases hview : f.command = "view"
    · simp [callHeading, hview, start]
    · simp [callHeading, hview, start]
  · rw [actionUpdates_start _ _ _ (by simp) (by simp)]
    rfl
  · rw [actionUpdates_start _ _ _ (by simp) (by simp)]
    rfl
  · rw [actionUpdates_start _ _ _ (by simp) (by simp)]
    rfl

end Session
end AcpBridge
