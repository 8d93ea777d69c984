import Mathlib
import AcpBridge.Json.Basic

/-!
# The map form of a document

`Json.normalize` gives a document the form values have in memory: the members of each
object sorted by key, and of a repeated key only the last value. This module says what that
form is.

* Looking a key up in the map form of an object gives the key's last value as written, in
  map form (`get?_normalize_obj`).
* The keys of the map form are sorted, so each appears once (`sortedKeys_toMap`,
  `nodup_keys_toMap`).
* The map form is its own map form (`normalize_normalize`).

Looking up is `Json.get?`, the value of the first member of that name.
-/

namespace AcpBridge
namespace Json

def SortedKeys (ms : List (String × Json)) : Prop := ms.Pairwise fun a b => a.1 < b.1

theorem get?_obj (ms : List (String × Json)) (k : String) :
    (Json.obj ms).get? k = (ms.find? (·.1 == k)).map (·.2) := rfl

@[simp] theorem get?_nil (k : String) : (Json.obj []).get? k = none := rfl

theorem get?_cons (m : String × Json) (ms : List (String × Json)) (k : String) :
    (Json.obj (m :: ms)).get? k = if m.1 = k then some m.2 else (Json.obj ms).get? k := by
  by_cases h : m.1 = k <;> simp [get?_obj, h]

theorem get?_append (xs ys : List (String × Json)) (k : String) :
    (Json.obj (xs ++ ys)).get? k = ((Json.obj xs).get? k).or ((Json.obj ys).get? k) := by
  simp only [get?_obj, List.find?_append, Option.map_or]

/-! ## Lookups -/

theorem get?_insertSorted (k k' : String) (v : Json) (acc : List (String × Json)) :
    (Json.obj (insertSorted k v acc)).get? k' = (Json.obj ((k, v) :: acc)).get? k' := by
  induction acc with
  | nil => rfl
  | cons m rest ih =>
    unfold insertSorted
    by_cases hlt : k < m.1
    · rw [if_pos hlt]
    · rw [if_neg hlt]
      by_cases heq : (k == m.1) = true
      · -- the member of the same key is replaced
        have hk : k = m.1 := by simpa using heq
        rw [if_pos heq]
        by_cases hk' : k = k' <;> simp [get?_cons, hk', ← hk]
      · rw [if_neg heq]
        have hne : k ≠ m.1 := by simpa using heq
        rw [get?_cons, ih, get?_cons, get?_cons, get?_cons]
        by_cases hk' : k = k'
        · subst hk'
          simp [Ne.symm hne]
        · simp [hk']

theorem get?_toMap (ms : List (String × Json)) (k : String) :
    (Json.obj (toMap ms)).get? k = (Json.obj ms.reverse).get? k := by
  -- the fold puts each member in front of those already in, for lookups
  have hfold : ∀ acc : List (String × Json),
      (Json.obj (ms.foldl (fun acc m => insertSorted m.1 m.2 acc) acc)).get? k =
        (Json.obj (ms.reverse ++ acc)).get? k := by
    induction ms with
    | nil => intro acc; rfl
    | cons m ms ih =>
      intro acc
      rw [List.foldl_cons, ih, List.reverse_cons, List.append_assoc, get?_append, get?_append,
        List.singleton_append, get?_insertSorted]
  rw [toMap, hfold, List.append_nil]

theorem normalizeMembers_eq_map (ms : List (String × Json)) :
    normalizeMembers ms = ms.map fun m => (m.1, normalize m.2) := by
  induction ms with
  | nil => rfl
  | cons m ms ih => rw [normalizeMembers, ih, List.map_cons]

theorem get?_normalize_obj (ms : List (String × Json)) (k : String) :
    (normalize (.obj ms)).get? k = ((Json.obj ms.reverse).get? k).map normalize := by
  rw [normalize, get?_toMap, normalizeMembers_eq_map, ← List.map_reverse, get?_obj, get?_obj,
    List.find?_map, Option.map_map, Option.map_map]
  rfl

/-! ## Sorted keys -/

theorem mem_insertSorted {k : String} {v : Json} {acc : List (String × Json)} {m : String × Json}
    (hm : m ∈ insertSorted k v acc) : m = (k, v) ∨ m ∈ acc := by
  induction acc with
  | nil => simpa [insertSorted] using hm
  | cons a rest ih =>
    unfold insertSorted at hm
    split at hm
    · simpa using hm
    · split at hm
      · rcases List.mem_cons.mp hm with rfl | hm
        · exact .inl rfl
        · exact .inr (List.mem_cons_of_mem _ hm)
      · rcases List.mem_cons.mp hm with rfl | hm
        · exact .inr List.mem_cons_self
        · rcases ih hm with h | h
          · exact .inl h
          · exact .inr (List.mem_cons_of_mem _ h)

theorem SortedKeys.insertSorted {acc : List (String × Json)} (h : SortedKeys acc) (k : String)
    (v : Json) : SortedKeys (insertSorted k v acc) := by
  induction acc with
  | nil => exact List.pairwise_singleton _ _
  | cons a rest ih =>
    obtain ⟨ha, hrest⟩ := List.pairwise_cons.mp h
    unfold Json.insertSorted
    split
    · rename_i hlt
      refine List.pairwise_cons.mpr ⟨?_, h⟩
      intro b hb
      rcases List.mem_cons.mp hb with rfl | hb
      · exact hlt
      · exact lt_trans hlt (ha b hb)
    · split
      · rename_i heq
        have hk : k = a.1 := by simpa using heq
        refine List.pairwise_cons.mpr ⟨?_, hrest⟩
        intro b hb
        rw [hk]
        exact ha b hb
      · rename_i hlt heq
        have hne : k ≠ a.1 := by simpa using heq
        have hgt : a.1 < k := lt_of_le_of_ne (not_lt.mp hlt) (Ne.symm hne)
        refine List.pairwise_cons.mpr ⟨?_, ih hrest⟩
        intro b hb
        rcases mem_insertSorted hb with rfl | hb
        · exact hgt
        · exact ha b hb

theorem sortedKeys_toMap (ms : List (String × Json)) : SortedKeys (toMap ms) := by
  have hfold : ∀ acc : List (String × Json), SortedKeys acc →
      SortedKeys (ms.foldl (fun acc m => insertSorted m.1 m.2 acc) acc) := by
    induction ms with
    | nil => intro acc h; exact h
    | cons m ms ih => intro acc h; exact ih _ (h.insertSorted m.1 m.2)
  exact hfold [] List.Pairwise.nil

theorem SortedKeys.nodup_keys {ms : List (String × Json)} (h : SortedKeys ms) :
    (ms.map (·.1)).Nodup :=
  List.pairwise_map.mpr (h.imp ne_of_lt)

theorem nodup_keys_toMap (ms : List (String × Json)) : ((toMap ms).map (·.1)).Nodup :=
  (sortedKeys_toMap ms).nodup_keys

theorem insertSorted_of_lt {acc : List (String × Json)} {k : String} (v : Json)
    (hacc : ∀ a ∈ acc, a.1 < k) : Json.insertSorted k v acc = acc ++ [(k, v)] := by
  induction acc with
  | nil => rfl
  | cons a rest ih =>
    have hak := hacc a List.mem_cons_self
    have hlt : ¬ k < a.1 := not_lt.mpr (le_of_lt hak)
    have heq : ¬ (k == a.1) = true := by simpa using (ne_of_lt hak).symm
    unfold Json.insertSorted
    rw [if_neg hlt, if_neg heq, ih (fun b hb => hacc b (List.mem_cons_of_mem _ hb))]
    rfl

theorem toMap_of_sortedKeys {ms : List (String × Json)} (h : SortedKeys ms) : toMap ms = ms := by
  have hfold : ∀ (ms acc : List (String × Json)), SortedKeys (acc ++ ms) →
      ms.foldl (fun acc m => Json.insertSorted m.1 m.2 acc) acc = acc ++ ms := by
    intro ms
    induction ms with
    | nil => intro acc _; simp
    | cons m ms ih =>
      intro acc hsorted
      have hbefore : ∀ a ∈ acc, a.1 < m.1 :=
        fun a ha => (List.pairwise_append.mp hsorted).2.2 a ha m List.mem_cons_self
      rw [List.foldl_cons, insertSorted_of_lt m.2 hbefore, ih (acc ++ [(m.1, m.2)])]
      · simp
      · simpa using hsorted
  rw [toMap]
  simpa using hfold ms [] (by simpa using h)

theorem toMap_map_values (f : Json → Json) (ms : List (String × Json)) :
    toMap (ms.map fun m => (m.1, f m.2)) = (toMap ms).map fun m => (m.1, f m.2) := by
  have hinsert : ∀ (acc : List (String × Json)) (k : String) (v : Json),
      Json.insertSorted k (f v) (acc.map fun m => (m.1, f m.2)) =
        (Json.insertSorted k v acc).map fun m => (m.1, f m.2) := by
    intro acc k v
    induction acc with
    | nil => rfl
    | cons a rest ih =>
      unfold Json.insertSorted
      by_cases hlt : k < a.1
      · simp [hlt]
      · by_cases heq : (k == a.1) = true
        · simp [hlt, heq]
        · simp [hlt, heq, ih]
  have hfold : ∀ acc : List (String × Json),
      (ms.map fun m => (m.1, f m.2)).foldl (fun acc m => Json.insertSorted m.1 m.2 acc)
          (acc.map fun m => (m.1, f m.2)) =
        (ms.foldl (fun acc m => Json.insertSorted m.1 m.2 acc) acc).map fun m => (m.1, f m.2) := by
    induction ms with
    | nil => intro acc; rfl
    | cons m ms ih =>
      intro acc
      rw [List.map_cons, List.foldl_cons, List.foldl_cons, hinsert, ih]
  exact hfold []

/-! ## Idempotence -/

mutual
theorem normalize_normalize : (j : Json) → normalize (normalize j) = normalize j
  | .null => rfl
  | .bool _ => rfl
  | .num _ => rfl
  | .str _ => rfl
  | .arr items => by
    rw [normalize, normalize, normalizeItems_normalizeItems items]
  | .obj members => by
    -- the values are put in map form again, and the sorted members stay where they are
    rw [normalize, normalize, normalizeMembers_eq_map (toMap _), ← toMap_map_values,
      ← normalizeMembers_eq_map, normalizeMembers_normalizeMembers members,
      toMap_of_sortedKeys (sortedKeys_toMap _)]

theorem normalizeItems_normalizeItems :
    (items : List Json) → normalizeItems (normalizeItems items) = normalizeItems items
  | [] => rfl
  | j :: rest => by
    rw [normalizeItems, normalizeItems, normalize_normalize j, normalizeItems_normalizeItems rest]

theorem normalizeMembers_normalizeMembers :
    (ms : List (String × Json)) → normalizeMembers (normalizeMembers ms) = normalizeMembers ms
  | [] => rfl
  | (k, v) :: rest => by
    rw [normalizeMembers, normalizeMembers, normalize_normalize v,
      normalizeMembers_normalizeMembers rest]
end

end Json
end AcpBridge
