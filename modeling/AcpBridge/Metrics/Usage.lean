import AcpBridge.Json.Decode

/-!
# Token usage and running totals

The tokens a model call used, by kind, and the running totals of a conversation: token
counts add up, costs add up as floats. Totals exist only once a first usage is recorded.

Counts are natural numbers. Each is read as an unsigned 64-bit count, and their sums are exact:
a sum past `2^64 - 1` is left out of the model, since the program stops there when built for
debugging and wraps when built for release.
-/

namespace AcpBridge
namespace Metrics

structure TokenUsage where
  prompt : Nat
  completion : Nat
  cacheRead : Nat
  reasoning : Nat
  deriving BEq, Repr

def TokenUsage.zero : TokenUsage := ⟨0, 0, 0, 0⟩

def TokenUsage.add (a b : TokenUsage) : TokenUsage :=
  ⟨a.prompt + b.prompt, a.completion + b.completion, a.cacheRead + b.cacheRead,
    a.reasoning + b.reasoning⟩

structure Totals where
  usage : Option TokenUsage
  cost : Float

def Totals.empty : Totals := ⟨none, 0.0⟩

def Totals.record (t : Totals) (u : TokenUsage) (cost : Float) : Totals :=
  ⟨some ((t.usage.getD .zero).add u), t.cost + cost⟩

open Fields

def TokenUsage.decode : Decoder TokenUsage :=
  (TokenUsage.mk <$> withDefault "prompt_tokens" Decode.u64 0 <*>
    withDefault "completion_tokens" Decode.u64 0 <*> withDefault "cache_read_tokens" Decode.u64 0 <*>
    withDefault "reasoning_tokens" Decode.u64 0).decode "struct TokenUsage"

theorem Totals.record_usage (t : Totals) (u : TokenUsage) (c : Float) :
    (t.record u c).usage = some ((t.usage.getD .zero).add u) := rfl

end Metrics
end AcpBridge
