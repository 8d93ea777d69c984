import AcpBridge.Json.Error

/-!
# Decoding JSON values into types

A `Decoder` turns a JSON value into a value of a type, or says why it cannot. The rules:

* scalars want their own kind: a string, a boolean, an integer in range (a float is no
  integer), a float (an integer is a float too);
* `null` is an absent option;
* a record is an object whose members are looked up by name, or an array whose elements are
  taken in order. Unknown members are ignored. Of several faults the one met first wins:
  members are met in the order held, a repeated field at its second occurrence; fields that
  are missing are reported after all members, in the order the fields are declared;
* a union with a tag member names its variant in that member (or in the first element of an
  array), and the rest of the value is the variant's content;
* a union of names without content is a string, or an object with one member.

Decoding knows where a value comes from (`Source`). A value held in memory has its members
sorted and each key once. Content that a tagged union set aside has its members as written,
may name a variant by its index, accepts `{}` as empty content, and says differently that an
array is too long.
-/

namespace AcpBridge

inductive Source where
  | value
  | buffered
  deriving BEq, Repr

abbrev Decoder (α : Type) := Source → Json → Except DecodeError α

namespace Decode

def string : Decoder String := fun _ j =>
  match j with
  | .str s => .ok s
  | j => .error (.invalidType j.unexpected "a string")

def path : Decoder String := fun _ j =>
  match j with
  | .str s => .ok s
  | j => .error (.invalidType j.unexpected "path string")

def bool : Decoder Bool := fun _ j =>
  match j with
  | .bool b => .ok b
  | j => .error (.invalidType j.unexpected "a boolean")

def unsigned (limit : Nat) (expected : String) : Decoder Nat := fun _ j =>
  match j with
  | .num (.nat n) => if n ≤ limit then .ok n else .error (.invalidValue (.unsigned n) expected)
  | .num (.neg n) => .error (.invalidValue (.signed n) expected)
  | j => .error (.invalidType j.unexpected expected)

def signed (lo hi : Int) (expected : String) : Decoder Int := fun _ j =>
  match j with
  | .num (.nat n) => if (n : Int) ≤ hi then .ok n else .error (.invalidValue (.unsigned n) expected)
  | .num (.neg n) => if lo ≤ n then .ok n else .error (.invalidValue (.signed n) expected)
  | j => .error (.invalidType j.unexpected expected)

def u64 : Decoder Nat := unsigned (Nat.pow 2 64 - 1) "u64"

def u32 : Decoder Nat := unsigned (Nat.pow 2 32 - 1) "u32"

def usize : Decoder Nat := unsigned (Nat.pow 2 64 - 1) "usize"

def i32 : Decoder Int := signed (-(Int.pow 2 31)) (Int.pow 2 31 - 1) "i32"

def i64 : Decoder Int := signed (-(Int.pow 2 63)) (Int.pow 2 63 - 1) "i64"

def float : Decoder Float := fun _ j =>
  match j with
  | .num (.nat n) => .ok (Float.ofNat n)
  | .num (.neg n) => .ok (Float.ofInt n)
  | .num (.float x) => .ok x
  | j => .error (.invalidType j.unexpected "f64")

def value : Decoder Json := fun _ j => .ok j.normalize

def option (d : Decoder α) : Decoder (Option α) := fun src j =>
  match j with
  | .null => .ok none
  | j => some <$> d src j

def list (d : Decoder α) : Decoder (List α) := fun src j =>
  match j with
  | .arr items => items.mapM (d src)
  | j => .error (.invalidType j.unexpected "a sequence")

def elements (n : Nat) : String :=
  if n == 1 then "1 element" else toString n ++ " elements"

def tooLong (src : Source) (length wanted : Nat) : DecodeError :=
  match src with
  | .value => .invalidLength length "fewer elements in array"
  | .buffered => .invalidLength length (elements wanted ++ " in sequence")

/-- The index of a variant named by a value: a string, or in set-aside content also an
index. -/
def variantIndex (variants : List String) : Decoder Nat := fun src j =>
  match j with
  | .str s =>
    match variants.findIdx? (· == s) with
    | some i => .ok i
    | none => .error (.unknownVariant s variants)
  | .num (.nat n) =>
    if src == .buffered then
      if n < variants.length then .ok n
      else .error (.invalidValue (.unsigned n)
        ("variant index 0 <= i < " ++ toString variants.length))
    else .error (.invalidType (.unsigned n) "variant identifier")
  | j => .error (.invalidType j.unexpected "variant identifier")

def names (variants : List String) : Decoder Nat := fun src j =>
  match j with
  | .str _ => variantIndex variants src j
  | .obj [(k, v)] =>
    match variantIndex variants src (.str k) with
    | .error e => .error e
    | .ok i =>
      match v with
      | .null => .ok i
      | .obj [] => if src == .buffered then .ok i else .error (.invalidType .map "unit")
      | v => .error (.invalidType v.unexpected "unit")
  | .obj _ => .error (.invalidValue .map "map with a single key")
  | j => .error (.invalidType j.unexpected "string or map")

/-- Find the tag of a union tagged by the member `tag`: the variant's index and the content
without the tag. An array names the variant in its first element. -/
def tagged (tag typeName : String) (variants : List String) : Decoder (Nat × Json) := fun src j =>
  match j with
  | .obj members => go src members none []
  | .arr [] => .error (.missingField tag)
  | .arr (t :: rest) => (variantIndex variants src t).map (fun i => (i, .arr rest))
  | j => .error (.invalidType j.unexpected ("internally tagged enum " ++ typeName))
where
  go (src : Source) : List (String × Json) → Option Nat → List (String × Json) →
      Except DecodeError (Nat × Json)
    | [], none, _ => .error (.missingField tag)
    | [], some i, acc => .ok (i, .obj acc.reverse)
    | (k, v) :: rest, found, acc =>
      if k == tag then
        match found with
        | some _ => .error (.duplicateField tag)
        | none =>
          match variantIndex variants src v with
          | .ok i => go src rest (some i) acc
          | .error e => .error e
      else go src rest found ((k, v) :: acc)

def unit : Decoder Unit := fun src j =>
  match j with
  | .arr [] => .ok ()
  | .arr items => .error (tooLong src items.length 0)
  | _ => .ok ()

end Decode

/-- Where a record's fields are found: by name among members, or by place among elements. -/
inductive Layout where
  | byName (members : List (String × Json))
  | byPlace (items : List Json) (expecting : String)

/-- The place and value of a field: the first member of that name, or the element at the
field's index. -/
def Layout.find (layout : Layout) (name : String) (index : Nat) : Option (Nat × Json) :=
  match layout with
  | .byName members =>
    (members.findIdx? (·.1 == name)).bind (fun p => (members[p]?).map (fun m => (p, m.2)))
  | .byPlace items _ => (items[index]?).map (fun v => (index, v))

def Layout.size : Layout → Nat
  | .byName members => members.length
  | .byPlace items _ => items.length

/-- A record reader: the names of its fields in order, and how to build the record from a
layout, the first field being at `index`. A fault comes with the place that caused it, so
that of two faults the earlier one can be told. -/
structure Fields (α : Type) where
  names : List String
  build : Source → Layout → (index : Nat) → Except (Nat × DecodeError) α

namespace Fields

def earlier (a b : Nat × DecodeError) : Nat × DecodeError := if b.1 < a.1 then b else a

def pure (a : α) : Fields α := ⟨[], fun _ _ _ => .ok a⟩

def seq (f : Fields (α → β)) (x : Unit → Fields α) : Fields β :=
  let x := x ()
  ⟨f.names ++ x.names, fun src layout i =>
    match f.build src layout i, x.build src layout (i + f.names.length) with
    | .ok g, .ok a => .ok (g a)
    | .error e, .ok _ => .error e
    | .ok _, .error e => .error e
    | .error e1, .error e2 => .error (earlier e1 e2)⟩

def map (g : α → β) (x : Fields α) : Fields β :=
  ⟨x.names, fun src layout i => (x.build src layout i).map g⟩

instance : Functor Fields := ⟨map, fun a x => map (fun _ => a) x⟩
instance : Pure Fields := ⟨pure⟩
instance : Seq Fields := ⟨seq⟩

def field (name : String) (d : Decoder α)
    (absent : Layout → Nat → Except (Nat × DecodeError) α) : Fields α :=
  ⟨[name], fun src layout i =>
    match layout.find name i with
    | some (p, v) => (d src v).mapError (fun e => (p, e))
    | none => absent layout i⟩

def required (name : String) (d : Decoder α) : Fields α :=
  field name d fun layout i =>
    match layout with
    | .byName members => .error (members.length, .missingField name)
    | .byPlace _ expecting => .error (i, .invalidLength i expecting)

/-- An optional field without a default: absent by name it is none, absent by place it is
missing. -/
def optional (name : String) (d : Decoder α) : Fields (Option α) :=
  field name (Decode.option d) fun layout i =>
    match layout with
    | .byName _ => .ok none
    | .byPlace _ expecting => .error (i, .invalidLength i expecting)

def withDefault (name : String) (d : Decoder α) (default : α) : Fields α :=
  field name d fun _ _ => .ok default

def maybe (name : String) (d : Decoder α) : Fields (Option α) :=
  withDefault name (Decode.option d) none

def firstRepeat (names : List String) (members : List (String × Json)) :
    Option (Nat × DecodeError) :=
  go members [] 0
where
  go : List (String × Json) → List String → Nat → Option (Nat × DecodeError)
    | [], _, _ => none
    | (k, _) :: rest, seen, p =>
      if names.contains k then
        if seen.contains k then some (p, .duplicateField k) else go rest (k :: seen) (p + 1)
      else go rest seen (p + 1)

def decode (fields : Fields α) (name : String) : Decoder α := fun src j =>
  match j with
  | .obj members =>
    match fields.build src (.byName members) 0, firstRepeat fields.names members with
    | .ok a, none => .ok a
    | .ok _, some (_, e) => .error e
    | .error (_, e), none => .error e
    | .error e1, some e2 => .error (earlier e1 e2).2
  | .arr items =>
    let n := fields.names.length
    match fields.build src (.byPlace items (name ++ " with " ++ Decode.elements n)) 0 with
    | .error (_, e) => .error e
    | .ok a => if items.length > n then .error (Decode.tooLong src items.length n) else .ok a
  | j => .error (.invalidType j.unexpected name)

end Fields

end AcpBridge
