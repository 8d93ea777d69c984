import AcpBridge.Json.Read
import AcpBridge.Json.Decode

/-!
# Reading a tagged union from text

A union tagged by a member names its variant in that member, anywhere among the others; the
other members are set aside, as written, to be decoded once the variant is known. An array
names the variant in its first element and sets aside the rest.

Faults of the tag are placed in the text: a tag that is not a variant's name right after it,
a repeated tag after its key, a missing tag after the closing bracket. Faults of the content
set aside are found only once the text is read, so they have no place.
-/

namespace AcpBridge
namespace Reader

/-- The members of a tagged object up to its closing brace: the variant named by the tag, if
met, and the other members as written. -/
def taggedMembers (tag : String) (variants : List String) :
    Nat → Nat → Option Nat → List (String × Json) → Bool → ReadM (Option Nat × List (String × Json))
  | 0, _, _, _, _ => failHere .eofWhileParsingObject
  | fuel + 1, depth, found, acc, first => do
    match ← nextKey fuel first with
    | none => pure (found, acc.reverse)
    | some k =>
      if k == tag then
        match found with
        | some _ => rejectInObject (.duplicateField tag)
        | none => do
          colon
          let i ← identifier fuel variants
          taggedMembers tag variants fuel depth (some i) acc false
      else do
        colon
        let v ← value fuel depth
        taggedMembers tag variants fuel depth found ((k, v) :: acc) false

/-- A union tagged by the member `tag`: the index of the variant and the content set aside,
an object of the other members or an array of the other elements. `typeName` names the union
when the value is neither. -/
def tagged (fuel : Nat) (tag typeName : String) (variants : List String) : ReadM (Nat × Json) := do
  match ← blank with
  | none => failNext .eofWhileParsingValue
  | some '{' => do
    let depth ← enter 128
    bump
    match ← taggedMembers tag variants fuel depth none [] true with
    | (some i, rest) => do
      endObject
      pure (i, .obj rest)
    | (none, _) => rejectInObject (.missingField tag)
  | some '[' => do
    let depth ← enter 128
    bump
    if ← nextItem true then do
      let i ← identifier fuel variants
      let rest ← items fuel depth false []
      endArray
      pure (i, .arr rest)
    else rejectInArray (.missingField tag)
  | some _ => invalidType fuel ("internally tagged enum " ++ typeName)

def decodeSetAside (d : Decoder α) (content : Json) : ReadM α :=
  match d .buffered content with
  | .ok a => pure a
  | .error e => throw (.decode e none)

end Reader
end AcpBridge
