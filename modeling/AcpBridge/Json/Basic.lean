/-!
# JSON documents

A JSON document as it was written: object members keep their order and may repeat a key.
Numbers keep the three kinds that a reader tells apart (a non-negative integer, a negative
integer and a binary64 float), because decoders answer differently for each kind.

`Json.normalize` gives the map form of a document: members sorted by key, and of a repeated
key only the last value. Values held in memory are in that form, and every printed value is
printed from it.
-/

namespace AcpBridge

/-- A JSON number as a reader classifies it. -/
inductive Number where
  | nat (n : Nat)
  | neg (n : Int)
  | float (x : Float)
  deriving Inhabited

/-- A JSON document. Members of an object are kept in the order they were written. -/
inductive Json where
  | null
  | bool (b : Bool)
  | num (n : Number)
  | str (s : String)
  | arr (items : List Json)
  | obj (members : List (String × Json))
  deriving Inhabited

namespace Json

def nat (n : Nat) : Json := .num (.nat n)

def float (x : Float) : Json := .num (.float x)

def opt (f : α → Json) : Option α → Json
  | some a => f a
  | none => .null

def optStr : Option String → Json := opt .str

def get? (j : Json) (key : String) : Option Json :=
  match j with
  | .obj members => (members.find? (fun m => m.1 == key)).map (·.2)
  | _ => none

def insertSorted (k : String) (v : Json) : List (String × Json) → List (String × Json)
  | [] => [(k, v)]
  | (k', v') :: rest =>
    if k < k' then (k, v) :: (k', v') :: rest
    else if k == k' then (k, v) :: rest
    else (k', v') :: insertSorted k v rest

/-- The map form of a member list: sorted by key, the last value of a repeated key kept. -/
def toMap (members : List (String × Json)) : List (String × Json) :=
  members.foldl (fun acc m => insertSorted m.1 m.2 acc) []

mutual
/-- The map form of a document, at every depth. -/
def normalize : Json → Json
  | .arr items => .arr (normalizeItems items)
  | .obj members => .obj (toMap (normalizeMembers members))
  | j => j

def normalizeItems : List Json → List Json
  | [] => []
  | j :: rest => normalize j :: normalizeItems rest

def normalizeMembers : List (String × Json) → List (String × Json)
  | [] => []
  | (k, v) :: rest => (k, normalize v) :: normalizeMembers rest
end

@[simp] theorem toMap_nil : toMap [] = [] := rfl

@[simp] theorem normalize_null : normalize .null = .null := rfl

@[simp] theorem normalize_str (s : String) : normalize (.str s) = .str s := rfl

end Json

end AcpBridge
