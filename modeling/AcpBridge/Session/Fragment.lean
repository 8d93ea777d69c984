import AcpBridge.Text.Blank

/-!
# Argument fragments of a streamed thought

A think call streams its arguments as pieces of `{"<key>": "<text>"}`. The filter drops the
pieces that are only scaffolding of that object (a brace, a quote, a colon, a backslash, the
key, the key's opening, the separator, the closing) once trimmed, and empty pieces; every
other piece passes unchanged.
-/

namespace AcpBridge
namespace Session

/-- A filter for the fragments of a one-member argument object with member `key`. -/
structure FragmentFilter where
  key : String

def FragmentFilter.thought : FragmentFilter := ⟨"thought"⟩

def FragmentFilter.noise (f : FragmentFilter) : List String :=
  ["\x7b", "\x7d", "\"", ":", "\\", f.key, "\x7b\"" ++ f.key, "\": \"", "\"\x7d"]

def FragmentFilter.isNoise (f : FragmentFilter) (fragment : String) : Bool :=
  f.noise.contains (Text.trim fragment)

def FragmentFilter.pass (f : FragmentFilter) (fragment : String) : Option String :=
  if fragment.isEmpty || f.isNoise fragment then none else some fragment

theorem FragmentFilter.pass_empty (f : FragmentFilter) : f.pass "" = none := rfl

end Session
end AcpBridge
