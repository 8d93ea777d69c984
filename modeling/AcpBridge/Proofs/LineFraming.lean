import Mathlib
import AcpBridge.Session.Update

/-!
# One notification a line

A stream client writes each notification as its JSON-RPC message in compact form, followed by
a line feed (`Notification.line`). The message wraps the notification's value as the params of
a `session/update` call (`Notification.render_toRpc`).

Framing rests on one fact of the printer: a compact text holds no control character at all
(`Json.noControl_render`). A string escapes every character below U+0020 wherever it stands,
keys and free JSON included, and numbers, literals and punctuation are printable. So splitting
what the client wrote at its line feeds gives back the messages' texts in order, and one empty
piece after the last feed (`ndjson_framing`); a reader that reads each text back as its message
then reads the whole output back as the messages.
-/

namespace AcpBridge

/-- A text without control characters: every character is U+0020 or above, so in particular it
holds no line feed. -/
def NoControl (s : String) : Prop := ∀ c ∈ s.toList, 0x20 ≤ c.toNat

namespace NoControl

theorem append {a b : String} (ha : NoControl a) (hb : NoControl b) : NoControl (a ++ b) := by
  intro c hc
  rw [String.toList_append, List.mem_append] at hc
  exact hc.elim (ha c) (hb c)

theorem ofList {cs : List Char} (h : ∀ c ∈ cs, 0x20 ≤ c.toNat) : NoControl (String.ofList cs) := by
  intro c hc
  rw [String.toList_ofList] at hc
  exact h c hc

theorem singleton {c : Char} (h : 0x20 ≤ c.toNat) : NoControl (String.singleton c) := by
  intro d hd
  rw [String.toList_singleton, List.mem_singleton] at hd
  exact hd ▸ h

theorem newline_not_mem {s : String} (h : NoControl s) : '\n' ∉ s.toList := by
  intro hc
  have h10 := h _ hc
  simp at h10

theorem of_toDigits {n : Nat} : ∀ c ∈ Nat.toDigits 10 n, 0x20 ≤ c.toNat := by
  intro c hc
  obtain ⟨hzero, -⟩ := Char.isDigit_iff_toNat.mp (Nat.isDigit_of_mem_toDigits (by decide) (by decide) hc)
  exact le_trans (by decide) hzero

theorem repr (n : Nat) : NoControl n.repr := by
  intro c hc
  rw [Nat.toList_repr] at hc
  exact of_toDigits c hc

theorem intRepr (n : Int) : NoControl n.repr := by
  cases n with
  | ofNat m => exact repr m
  | negSucc m => exact (show NoControl "-" by simp [NoControl]).append (repr (m + 1))

end NoControl

open NoControl

/-! ## The compact printer writes no control character -/

section Printer

open Decimal

theorem layout_noControl (style : FloatStyle) {ds : List Char} (hds : ∀ c ∈ ds, 0x20 ≤ c.toNat)
    (point : Int) : NoControl (style.layout ds point) := by
  have hzeros : ∀ k, NoControl (String.ofList (List.replicate k '0')) := fun k =>
    NoControl.ofList fun c hc => by rw [(List.mem_replicate.mp hc).2]; decide
  unfold FloatStyle.layout
  dsimp only
  split
  · exact ((ofList hds).append (hzeros _)).append (by simp [NoControl])
  split
  · exact ((ofList fun c hc => hds c (List.mem_of_mem_take hc)).append (by simp [NoControl])).append
      (ofList fun c hc => hds c (List.mem_of_mem_drop hc))
  split
  · exact ((show NoControl "0." by simp [NoControl]).append (hzeros _)).append (ofList hds)
  -- the exponent form: the first digit, a point and the others when there are any, then the
  -- exponent with its sign
  refine ((NoControl.append ?_ (by simp [NoControl])).append ?_).append (repr _)
  · rcases ds with _ | ⟨d, _ | ⟨e, rest⟩⟩
    · simp [NoControl]
    · exact singleton (hds _ List.mem_cons_self)
    · exact ((singleton (hds _ List.mem_cons_self)).append (by simp [NoControl])).append
        (ofList fun c hc => hds c (List.mem_cons_of_mem _ hc))
  · split <;> simp [NoControl]

theorem floatText_noControl (x : Float) : NoControl (floatText x) := by
  unfold floatText FloatStyle.text
  split
  · simp [NoControl]
  · simp [NoControl]
  · rename_i b _
    have hsign : NoControl (if b.negative then "-" else "") := by split <;> simp [NoControl]
    dsimp only
    split
    · exact hsign.append (by simp [NoControl])
    · exact hsign.append (layout_noControl _ NoControl.of_toDigits _)

theorem Number.text_noControl : (n : Number) → NoControl n.text
  | .nat n => repr n
  | .neg n => intRepr n
  | .float x => floatText_noControl x

end Printer

namespace Json

theorem hexDigit_toNat {n : Nat} (h : n < 16) : 0x20 ≤ (hexDigit n).toNat := by
  have hall : ∀ k < 16, 0x20 ≤ (hexDigit k).toNat := by decide
  exact hall n h

theorem escapeChar_noControl (c : Char) : NoControl (escapeChar c) := by
  unfold escapeChar
  split_ifs with _ _ _ _ _ _ _ hlow
  · simp [NoControl]
  · simp [NoControl]
  · simp [NoControl]
  · simp [NoControl]
  · simp [NoControl]
  · simp [NoControl]
  · simp [NoControl]
  · -- `\u00XX`: the two hex digits of a code below 0x20
    have hhigh : c.toNat / 16 < 16 := by omega
    have hlow' : c.toNat % 16 < 16 := Nat.mod_lt _ (by decide)
    exact ((show NoControl "\\u00" by simp [NoControl]).append
      (singleton (hexDigit_toNat hhigh))).append (singleton (hexDigit_toNat hlow'))
  · exact singleton (Nat.le_of_not_lt hlow)

theorem quote_noControl (s : String) : NoControl (quote s) := by
  have hbody : ∀ (cs : List Char) (acc : String), NoControl acc →
      NoControl (cs.foldl (fun acc c => acc ++ escapeChar c) acc) := by
    intro cs
    induction cs with
    | nil => exact fun _ h => h
    | cons c cs ih => exact fun acc h => ih _ (h.append (escapeChar_noControl c))
  exact ((show NoControl "\"" by simp [NoControl]).append
    (hbody s.toList "" (by simp [NoControl]))).append (by simp [NoControl])

mutual

theorem compact_noControl : (j : Json) → NoControl (compact j)
  | .null => by simp [compact, NoControl]
  | .bool b => by cases b <;> simp [compact, NoControl]
  | .num n => Number.text_noControl n
  | .str s => quote_noControl s
  | .arr items => by
    rw [compact]
    exact ((show NoControl "[" by simp [NoControl]).append (compactItems_noControl items)).append
      (by simp [NoControl])
  | .obj members => by
    rw [compact]
    exact ((show NoControl "\x7b" by simp [NoControl]).append
      (compactMembers_noControl members)).append (by simp [NoControl])

theorem compactItems_noControl : (items : List Json) → NoControl (compactItems items)
  | [] => by simp [compactItems, NoControl]
  | [j] => by
    rw [compactItems]
    exact compact_noControl j
  | j :: k :: rest => by
    rw [compactItems]
    · exact ((compact_noControl j).append (by simp [NoControl])).append
        (compactItems_noControl (k :: rest))
    · exact List.cons_ne_nil k rest

theorem compactMembers_noControl : (members : List (String × Json)) →
    NoControl (compactMembers members)
  | [] => by simp [compactMembers, NoControl]
  | [(k, v)] => by
    rw [compactMembers]
    exact ((quote_noControl k).append (by simp [NoControl])).append (compact_noControl v)
  | (k, v) :: m :: rest => by
    rw [compactMembers]
    · exact ((((quote_noControl k).append (by simp [NoControl])).append (compact_noControl v)).append
        (by simp [NoControl])).append (compactMembers_noControl (m :: rest))
    · exact List.cons_ne_nil m rest

end

theorem noControl_render (j : Json) : NoControl j.render := compact_noControl _

end Json

/-! ## Lines of a stream -/

theorem split_join_append {ls : List String} {last : String} (h : ∀ l ∈ ls, '\n' ∉ l.toList)
    (hlast : '\n' ∉ last.toList) :
    ((String.join (ls.map (· ++ "\n")) ++ last).split '\n').toList.map (·.copy) = ls ++ [last] := by
  have hjoin : ∀ ls : List String,
      String.join (ls.map (· ++ "\n")) ++ last = (String.singleton '\n').intercalate (ls ++ [last]) := by
    intro ls
    induction ls with
    | nil => simp
    | cons l ls ih =>
      rw [List.map_cons, String.join_cons, String.append_assoc, ih, List.cons_append,
        String.intercalate_cons_of_ne_nil (by simp)]
      simp [String.append_assoc]
  rw [hjoin, String.toList_split_intercalate]
  · simp
  · intro l hl
    rcases List.mem_append.mp hl with hl | hl
    · exact h l hl
    · rw [List.mem_singleton.mp hl]
      exact hlast

theorem split_join_lines {ls : List String} (h : ∀ l ∈ ls, '\n' ∉ l.toList) :
    ((String.join (ls.map (· ++ "\n"))).split '\n').toList.map (·.copy) = ls ++ [""] := by
  have hsplit := split_join_append h (by simp : '\n' ∉ "".toList)
  rwa [String.append_empty] at hsplit

namespace Session

theorem Notification.render_toRpc (n : Notification) :
    n.toRpc.render = "\x7b\"jsonrpc\":\"2.0\",\"method\":\"session/update\",\"params\":" ++
      n.toJson.render ++ "\x7d" := by
  -- the three keys are already in order, so the map form keeps the members as written
  have hmap : Json.toMap [("jsonrpc", .str "2.0"), ("method", .str "session/update"),
      ("params", n.toJson.normalize)] =
      [("jsonrpc", .str "2.0"), ("method", .str "session/update"), ("params", n.toJson.normalize)] := by
    have h₁ : ¬ ("method" < "jsonrpc") := by decide
    have h₂ : ("method" == "jsonrpc") = false := by decide
    have h₃ : ¬ ("params" < "jsonrpc") := by decide
    have h₄ : ("params" == "jsonrpc") = false := by decide
    have h₅ : ¬ ("params" < "method") := by decide
    have h₆ : ("params" == "method") = false := by decide
    simp only [Json.toMap, List.foldl, Json.insertSorted, h₁, h₂, h₃, h₄, h₅, h₆, if_false,
      Bool.false_eq_true]
  have hkeys : Json.quote "jsonrpc" = "\"jsonrpc\"" ∧ Json.quote "method" = "\"method\"" ∧
      Json.quote "params" = "\"params\"" := by decide
  have hvalues : Json.quote "2.0" = "\"2.0\"" ∧ Json.quote "session/update" = "\"session/update\"" := by
    decide
  simp only [Notification.toRpc, Json.render, Json.normalize, Json.normalizeMembers, hmap,
    Json.compact, Json.compactMembers, hkeys, hvalues]
  simp only [← String.append_assoc, String.reduceAppend]

/-- Stream framing. Notifications handed one after another to a stream client are written as
one line each: the compact text of the JSON-RPC message `session/update` with the notification's
value as params, then a line feed. No message text holds a control character, a line feed
least of all, whatever strings the notification carries. So splitting the output at line feeds
gives exactly the messages' texts in order, and an empty piece after the last feed; a reader
that reads each message's text back as that message reads every line back as its message. -/
theorem ndjson_framing (ns : List Notification) :
    let written := String.join (ns.map Notification.line)
    let pieces := (written.split '\n').toList.map (·.copy)
    written = String.join (ns.map fun n =>
        "\x7b\"jsonrpc\":\"2.0\",\"method\":\"session/update\",\"params\":" ++ n.toJson.render ++
          "\x7d\n") ∧
      (∀ n ∈ ns, ∀ c ∈ n.toRpc.render.toList, 0x20 ≤ c.toNat) ∧
      pieces = ns.map (·.toRpc.render) ++ [""] ∧
      ∀ parse : String → Option Json, (∀ n ∈ ns, parse n.toRpc.render = some n.toRpc.normalize) →
        pieces.dropLast.map parse = ns.map fun n => some n.toRpc.normalize := by
  intro written pieces
  have hpieces : pieces = ns.map (·.toRpc.render) ++ [""] := by
    have hwritten : written = String.join ((ns.map (·.toRpc.render)).map (· ++ "\n")) := by
      rw [List.map_map]
      rfl
    show (written.split '\n').toList.map (·.copy) = _
    rw [hwritten]
    apply split_join_lines
    intro l hl
    obtain ⟨n, -, rfl⟩ := List.mem_map.mp hl
    exact (Json.noControl_render n.toRpc).newline_not_mem
  refine ⟨?_, fun n _ => Json.noControl_render n.toRpc, hpieces, ?_⟩
  · show String.join (ns.map Notification.line) = _
    congr 1
    apply List.map_congr_left
    intro n _
    rw [Notification.line, Notification.render_toRpc]
    simp only [String.append_assoc, String.reduceAppend]
  · intro parse hparse
    rw [hpieces, List.dropLast_concat, List.map_map]
    exact List.map_congr_left hparse

/-- A notification whose text holds a line feed still takes one line, which reads back as its
message. -/
theorem ndjson_framing_escaped_feed :
    let n : Notification := ⟨"s1", .thought "a\nb", none⟩
    let parse := fun s => if s = n.toRpc.render then some n.toRpc.normalize else none
    (∀ m ∈ [n], parse m.toRpc.render = some m.toRpc.normalize) ∧
      (((String.join ([n].map Notification.line)).split '\n').toList.map (·.copy)).dropLast.map parse =
        [n].map fun m => some m.toRpc.normalize := by
  intro n parse
  have hparse : ∀ m ∈ [n], parse m.toRpc.render = some m.toRpc.normalize := by
    intro m hm
    rw [List.mem_singleton.mp hm]
    simp [parse]
  exact ⟨hparse, (ndjson_framing [n]).2.2.2 parse hparse⟩

end Session

end AcpBridge
