import Mathlib
import AcpBridge.Json.Decode
import AcpBridge.Proofs.MapForm

/-!
# Decoding values held in memory

What the decoders give on a value held in memory, said through what the value holds rather
than where: records read their fields by name, a tagged union finds its tag and reads the
rest, a list reads its elements.

## Members as written

`Shows ms written` says that `ms` are the members of a value in memory that was written as
the members `written`: each key appears once, and holds the map form of its last written
value. The map form of an object shows what it was written from (`shows_toMap`); without
its tag, it shows the members written after the tag (`Shows.untag`), and the tag names the
variant (`Shows.tagged`).

## Records

`Fields.Reads x src ms a` says that the record reader `x` builds `a` from the members `ms`,
wherever its first field is counted from. It follows the reader's combinators (`Reads.map`,
`Reads.seq`, `Reads.present`, `Reads.withDefault_absent`, `Reads.maybe_absent`), and an
object whose keys appear once decodes to what its fields read (`Fields.decode_of_reads`):
then no member repeats a field.
-/

namespace AcpBridge

open Json

/-! ## Finding fields -/

theorem Layout.find_byName (ms : List (String × Json)) (name : String) (i : Nat) :
    ((Layout.byName ms).find name i).map Prod.snd = (Json.obj ms).get? name := by
  show ((ms.findIdx? (·.1 == name)).bind fun p => (ms[p]?).map fun m => (p, m.2)).map Prod.snd = _
  induction ms with
  | nil => rfl
  | cons m rest ih =>
    rw [List.findIdx?_cons, get?_cons]
    by_cases hm : m.1 = name
    · simp [hm]
    · have hne : (m.1 == name) = false := by simpa using hm
      rw [if_neg (by simp [hne]), if_neg hm, ← ih, Option.bind_map]
      cases rest.findIdx? (·.1 == name) <;> simp [Function.comp_def]

theorem Layout.find_byName_of_get? {ms : List (String × Json)} {name : String} {v : Json}
    (h : (Json.obj ms).get? name = some v) (i : Nat) :
    ∃ p, (Layout.byName ms).find name i = some (p, v) := by
  have hfind := Layout.find_byName ms name i
  rw [h, Option.map_eq_some_iff] at hfind
  obtain ⟨⟨p, v'⟩, hp, rfl⟩ := hfind
  exact ⟨p, hp⟩

theorem Layout.find_byName_of_get?_none {ms : List (String × Json)} {name : String}
    (h : (Json.obj ms).get? name = none) (i : Nat) : (Layout.byName ms).find name i = none := by
  have hfind := Layout.find_byName ms name i
  rw [h, Option.map_eq_none_iff] at hfind
  exact hfind

/-! ## Records -/

namespace Fields

def Reads (x : Fields α) (src : Source) (ms : List (String × Json)) (a : α) : Prop :=
  ∀ i, x.build src (.byName ms) i = .ok a

variable {src : Source} {ms : List (String × Json)}

theorem Reads.pure (a : α) : (Fields.pure a).Reads src ms a := fun _ => rfl

theorem Reads.map {x : Fields α} {a : α} (h : x.Reads src ms a) (g : α → β) :
    (g <$> x).Reads src ms (g a) := by
  intro i
  show (x.build src (.byName ms) i).map g = .ok (g a)
  rw [h i]
  rfl

theorem Reads.seq {f : Fields (α → β)} {x : Fields α} {g : α → β} {a : α}
    (hf : f.Reads src ms g) (hx : x.Reads src ms a) : (f <*> x).Reads src ms (g a) := by
  intro i
  show (Fields.seq f fun _ => x).build src (.byName ms) i = .ok (g a)
  simp only [Fields.seq, hf i, hx (i + f.names.length)]

theorem Reads.present {name : String} {d : Decoder α} {absent : Layout → Nat → Except (Nat × DecodeError) α}
    {v : Json} {a : α} (hget : (Json.obj ms).get? name = some v) (hd : d src v = .ok a) :
    (field name d absent).Reads src ms a := by
  intro i
  obtain ⟨p, hp⟩ := Layout.find_byName_of_get? hget i
  simp only [field, hp, hd]
  rfl

theorem Reads.withDefault_absent {name : String} {d : Decoder α} {default : α}
    (hget : (Json.obj ms).get? name = none) : (withDefault name d default).Reads src ms default := by
  intro i
  simp only [withDefault, field, Layout.find_byName_of_get?_none hget i]

theorem Reads.maybe_absent {name : String} {d : Decoder α} (hget : (Json.obj ms).get? name = none) :
    (maybe name d).Reads src ms none :=
  Reads.withDefault_absent hget

theorem firstRepeat_of_nodup (names : List String) (hkeys : (ms.map (·.1)).Nodup) :
    firstRepeat names ms = none := by
  -- the names seen so far are keys of members already passed, so none comes again
  have hgo : ∀ (ms : List (String × Json)) (seen : List String) (p : Nat),
      (ms.map (·.1)).Nodup → (∀ k ∈ seen, k ∉ ms.map (·.1)) → firstRepeat.go names ms seen p = none := by
    intro ms
    induction ms with
    | nil => intro _ _ _ _; rfl
    | cons m rest ih =>
      intro seen p hnodup hseen
      obtain ⟨hm, hrest⟩ := List.nodup_cons.mp hnodup
      have hnew : seen.contains m.1 = false := by
        simpa using fun hk => hseen m.1 hk List.mem_cons_self
      unfold firstRepeat.go
      split
      · rw [if_neg (by rw [hnew]; decide)]
        apply ih _ _ hrest
        intro k hk
        rcases List.mem_cons.mp hk with rfl | hk
        · exact hm
        · exact fun hmem => hseen k hk (List.mem_cons_of_mem _ hmem)
      · exact ih _ _ hrest fun k hk hmem => hseen k hk (List.mem_cons_of_mem _ hmem)
  exact hgo ms [] 0 hkeys (fun _ hk => absurd hk List.not_mem_nil)

theorem decode_of_reads {x : Fields α} {a : α} (name : String) (hkeys : (ms.map (·.1)).Nodup)
    (h : x.Reads src ms a) : x.decode name src (.obj ms) = .ok a := by
  simp only [decode, h 0, firstRepeat_of_nodup x.names hkeys]

end Fields

/-! ## Members as written -/

/-- The members `ms` are those of a value in memory written as `written`. -/
structure Shows (ms written : List (String × Json)) : Prop where
  nodup : (ms.map (·.1)).Nodup
  get : ∀ k, (Json.obj ms).get? k = ((Json.obj written.reverse).get? k).map normalize

theorem shows_toMap (written : List (String × Json)) :
    Shows (toMap (normalizeMembers written)) written where
  nodup := nodup_keys_toMap _
  get k := get?_normalize_obj written k

theorem get?_filter_key (ms : List (String × Json)) (tag k : String) :
    (Json.obj (ms.filter (·.1 != tag))).get? k = if k = tag then none else (Json.obj ms).get? k := by
  induction ms with
  | nil => by_cases h : k = tag <;> simp [h]
  | cons m rest ih =>
    by_cases hm : m.1 = tag
    · rw [List.filter_cons_of_neg (by simp [hm]), ih, get?_cons]
      by_cases hk : k = tag
      · simp [hk]
      · simp [hk, hm, Ne.symm hk]
    · rw [List.filter_cons_of_pos (by simp [hm]), get?_cons, ih, get?_cons]
      by_cases hk : k = tag
      · subst hk
        simp [hm]
      · simp [hk]

theorem get?_reverse_of_none {ms : List (String × Json)} {k : String}
    (h : (Json.obj ms).get? k = none) : (Json.obj ms.reverse).get? k = none := by
  simp only [get?_obj, Option.map_eq_none_iff, List.find?_eq_none, List.mem_reverse] at h ⊢
  exact h

theorem Shows.get_tag {ms rest : List (String × Json)} {tag : String} {tv : Json}
    (h : Shows ms ((tag, tv) :: rest)) (hrest : (Json.obj rest).get? tag = none) :
    (Json.obj ms).get? tag = some (normalize tv) := by
  rw [h.get, List.reverse_cons, get?_append, get?_reverse_of_none hrest]
  simp [get?_cons]

theorem Shows.untag {ms rest : List (String × Json)} {tag : String} {tv : Json}
    (h : Shows ms ((tag, tv) :: rest)) (hrest : (Json.obj rest).get? tag = none) :
    Shows (ms.filter (·.1 != tag)) rest where
  nodup := h.nodup.sublist (List.filter_sublist.map _)
  get k := by
    rw [get?_filter_key]
    by_cases hk : k = tag
    · subst hk
      rw [if_pos rfl, get?_reverse_of_none hrest]
      rfl
    · rw [if_neg hk, h.get, List.reverse_cons, get?_append]
      simp [get?_cons, Ne.symm hk]

theorem tagged_go {tag : String} {variants : List String} {src : Source} {v : Json} {i : Nat}
    (hi : Decode.variantIndex variants src v = .ok i) :
    ∀ (ms acc : List (String × Json)), (ms.map (·.1)).Nodup → (Json.obj ms).get? tag = some v →
      Decode.tagged.go tag variants src ms none acc = .ok (i, .obj (acc.reverse ++ ms.filter (·.1 != tag))) := by
  -- once found, the tag is not met again
  have hafter : ∀ (ms acc : List (String × Json)), tag ∉ ms.map (·.1) →
      Decode.tagged.go tag variants src ms (some i) acc = .ok (i, .obj (acc.reverse ++ ms)) := by
    intro ms
    induction ms with
    | nil => intro acc _; simp [Decode.tagged.go]
    | cons m rest ih =>
      intro acc hnot
      have hm : m.1 ≠ tag := fun h => hnot (by simp [h])
      unfold Decode.tagged.go
      rw [if_neg (by simpa using hm), ih _ fun h => hnot (List.mem_cons_of_mem _ h)]
      simp
  intro ms
  induction ms with
  | nil => intro _ _ hget; cases hget
  | cons m rest ih =>
    intro acc hnodup hget
    obtain ⟨hm, hrest⟩ := List.nodup_cons.mp hnodup
    unfold Decode.tagged.go
    by_cases htag : m.1 = tag
    · -- the tag is this member; the others come after it
      have hv : m.2 = v := by simpa [get?_cons, htag] using hget
      have hlater : tag ∉ rest.map (·.1) := htag ▸ hm
      have hnone : rest.filter (·.1 != tag) = rest := by
        rw [List.filter_eq_self]
        intro a ha
        have : a.1 ≠ tag := fun h => hlater (h ▸ List.mem_map_of_mem ha)
        simpa using this
      rw [if_pos (by simp [htag])]
      dsimp only
      rw [hv, hi]
      dsimp only
      rw [hafter rest acc hlater, List.filter_cons_of_neg (by simp [htag]), hnone]
    · rw [if_neg (by simp [htag]), ih _ hrest (by simpa [get?_cons, htag] using hget),
        List.filter_cons_of_pos (by simp [htag])]
      simp

theorem Shows.tagged {ms rest : List (String × Json)} {tag typeName : String} {tv : Json}
    {variants : List String} {src : Source} {i : Nat}
    (h : Shows ms ((tag, tv) :: rest)) (hrest : (Json.obj rest).get? tag = none)
    (hi : Decode.variantIndex variants src (normalize tv) = .ok i) :
    Decode.tagged tag typeName variants src (.obj ms) = .ok (i, .obj (ms.filter (·.1 != tag))) := by
  show Decode.tagged.go tag variants src ms none [] = _
  rw [tagged_go hi ms [] h.nodup (h.get_tag hrest)]
  rfl

theorem tagged_normalize (tag typeName : String) (variants : List String) (src : Source) (tv : Json)
    (rest : List (String × Json)) {i : Nat} (hrest : (Json.obj rest).get? tag = none)
    (hi : Decode.variantIndex variants src (normalize tv) = .ok i) :
    ∃ ms, Decode.tagged tag typeName variants src (normalize (.obj ((tag, tv) :: rest))) =
      .ok (i, .obj ms) ∧ Shows ms rest :=
  ⟨_, (shows_toMap _).tagged hrest hi, (shows_toMap _).untag hrest⟩

theorem Shows.get_some {ms written : List (String × Json)} (h : Shows ms written) {k : String}
    {v : Json} (hk : (Json.obj written.reverse).get? k = some v) :
    (Json.obj ms).get? k = some (normalize v) := by
  rw [h.get, hk]
  rfl

theorem Shows.get_none {ms written : List (String × Json)} (h : Shows ms written) {k : String}
    (hk : (Json.obj written.reverse).get? k = none) : (Json.obj ms).get? k = none := by
  rw [h.get, hk]
  rfl

/-! ## Lists and options -/

theorem normalizeItems_eq_map (items : List Json) : normalizeItems items = items.map normalize := by
  induction items with
  | nil => rfl
  | cons j rest ih => rw [normalizeItems, ih, List.map_cons]

theorem Decode.list_normalize {d : Decoder α} {src : Source} {enc : α → Json} {xs : List α}
    (h : ∀ x ∈ xs, d src (normalize (enc x)) = .ok x) :
    Decode.list d src (normalize (.arr (xs.map enc))) = .ok xs := by
  show (normalizeItems (xs.map enc)).mapM (d src) = .ok xs
  rw [normalizeItems_eq_map, List.map_map]
  induction xs with
  | nil => rfl
  | cons x rest ih =>
    rw [List.map_cons, List.mapM_cons, Function.comp_apply, h x List.mem_cons_self,
      ih fun y hy => h y (List.mem_cons_of_mem _ hy)]
    rfl

theorem Decode.option_of_ne_null {d : Decoder α} {src : Source} {j : Json} {a : α} (hj : j ≠ .null)
    (h : d src j = .ok a) : Decode.option d src j = .ok (some a) := by
  unfold Decode.option
  split
  · exact absurd rfl hj
  · rw [h]
    rfl

theorem Decode.option_string {src : Source} {s : String} :
    Decode.option Decode.string src (normalize (.str s)) = .ok (some s) := rfl

theorem Decode.value_normalize {src : Source} (j : Json) : Decode.value src (normalize j) = .ok (normalize j) := by
  show (Except.ok (normalize (normalize j)) : Except DecodeError Json) = .ok (normalize j)
  rw [normalize_normalize]

theorem Decode.option_normalize_map {d : Decoder β} {src : Source} {enc : α → Json} {f : α → β}
    {o : Option α} (hnull : ∀ a, o = some a → normalize (enc a) ≠ .null)
    (h : ∀ a, o = some a → d src (normalize (enc a)) = .ok (f a)) :
    Decode.option d src (normalize (Json.opt enc o)) = .ok (o.map f) := by
  cases o with
  | none => rfl
  | some a =>
    have hopt : Json.opt enc (some a) = enc a := rfl
    rw [hopt, Decode.option_of_ne_null (hnull a rfl) (h a rfl)]
    rfl

theorem Decode.option_normalize {d : Decoder α} {src : Source} {enc : α → Json} {o : Option α}
    (hnull : ∀ a, o = some a → normalize (enc a) ≠ .null) (h : ∀ a, o = some a → d src (normalize (enc a)) = .ok a) :
    Decode.option d src (normalize (Json.opt enc o)) = .ok o := by
  simpa using Decode.option_normalize_map (f := id) hnull h

theorem Decode.option_optStr {src : Source} (o : Option String) :
    Decode.option Decode.string src (normalize (Json.optStr o)) = .ok o :=
  Decode.option_normalize (fun _ _ => by simp [Json.normalize]) fun _ _ => rfl

/-! ## Fields as written -/

namespace Fields

variable {src : Source} {ms written : List (String × Json)}

theorem Reads.present_written (h : Shows ms written) {name : String} {d : Decoder α}
    {absent : Layout → Nat → Except (Nat × DecodeError) α} (v : Json) {a : α}
    (hk : (Json.obj written.reverse).get? name = some v) (hd : d src (normalize v) = .ok a) :
    (field name d absent).Reads src ms a :=
  Reads.present (h.get_some hk) hd

theorem Reads.maybe_written (h : Shows ms written) {name : String} {d : Decoder α} {o : Option α}
    (enc : α → Json) (hk : (Json.obj written.reverse).get? name = o.map enc)
    (hd : ∀ a, o = some a → Decode.option d src (normalize (enc a)) = .ok (some a)) :
    (maybe name d).Reads src ms o := by
  cases o with
  | none => exact Reads.maybe_absent (h.get_none hk)
  | some a => exact Reads.present (h.get_some hk) (hd a rfl)

theorem Reads.maybe_value (h : Shows ms written) {name : String} {o : Option Json}
    (hk : (Json.obj written.reverse).get? name = o) (hnull : ∀ j, o = some j → j ≠ .null) :
    (maybe name Decode.value).Reads src ms (o.map normalize) := by
  cases o with
  | none => exact Reads.maybe_absent (h.get_none hk)
  | some j =>
    have hj : normalize j ≠ .null := by
      cases j <;> simp_all [Json.normalize]
    exact Reads.present (h.get_some hk) (Decode.option_of_ne_null hj (Decode.value_normalize j))

theorem Reads.list_written (h : Shows ms written) {name : String} {d : Decoder α} {xs : List α}
    (enc : α → Json)
    (hk : (Json.obj written.reverse).get? name = if xs.isEmpty then none else some (.arr (xs.map enc)))
    (hd : ∀ x ∈ xs, d src (normalize (enc x)) = .ok x) :
    (withDefault name (Decode.list d) []).Reads src ms xs := by
  cases xs with
  | nil => exact Reads.withDefault_absent (h.get_none hk)
  | cons x rest => exact Reads.present (h.get_some hk) (Decode.list_normalize hd)

end Fields

end AcpBridge
