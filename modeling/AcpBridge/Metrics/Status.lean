import AcpBridge.Metrics.Usage
import AcpBridge.Decimal.Fixed
import AcpBridge.Json.Print

/-!
# The status line

A one-line summary of usage: input tokens, cache hit rate, reasoning tokens (only when
there are any), output tokens and cost, joined by ` • `. Counts from a thousand up are
abbreviated with `K`, `M` or `B` and at most two decimals; the hit rate is a percentage with
two decimals, `N/A` without input; the cost has four decimals when positive and is `0.00`
otherwise.

The same numbers, with the line, form the metrics payload that notifications carry under
`<namespace>/metrics`.
-/

namespace AcpBridge
namespace Metrics

/-- A count for display: below a thousand as it is; otherwise divided, as a float, by the
largest of `1e9`, `1e6`, `1e3` not above it, printed with two decimals, trailing zeros and
then a trailing point dropped, and suffixed `B`, `M` or `K`. -/
def abbreviate (n : Nat) : String :=
  let scaled : Option (Float × String) :=
    if n ≥ 1000000000 then some (Float.ofNat n / 1000000000.0, "B")
    else if n ≥ 1000000 then some (Float.ofNat n / 1000000.0, "M")
    else if n ≥ 1000 then some (Float.ofNat n / 1000.0, "K")
    else none
  match scaled with
  | none => toString n
  | some (v, suffix) =>
    let digits := (Decimal.fixed v 2).toList
    let trimmed := ((digits.reverse.dropWhile (· == '0')).dropWhile (· == '.')).reverse
    String.ofList trimmed ++ suffix

/-- The share of input tokens read from cache, as a percentage: `cache / prompt * 100` in
floats, two decimals; `N/A` without input. -/
def cacheHitRate (u : TokenUsage) : String :=
  if u.prompt == 0 then "N/A"
  else Decimal.fixed (Float.ofNat u.cacheRead / Float.ofNat u.prompt * 100.0) 2 ++ "%"

def formatCost (cost : Float) : String :=
  if cost > 0.0 then Decimal.fixed cost 4 else "0.00"

inductive StatusField where
  | input
  | cacheHit
  | reasoning
  | output
  | cost
  deriving BEq, Repr

def StatusField.name : StatusField → String
  | .input => "Input"
  | .cacheHit => "CacheHit"
  | .reasoning => "Reasoning"
  | .output => "Output"
  | .cost => "Cost"

def statusFields (u : TokenUsage) (cost : Float) : List (StatusField × String) :=
  [(.input, "↑ input " ++ abbreviate u.prompt), (.cacheHit, "cache hit " ++ cacheHitRate u)] ++
  (if u.reasoning > 0 then [(.reasoning, "reasoning " ++ abbreviate u.reasoning)] else []) ++
  [(.output, "↓ output " ++ abbreviate u.completion), (.cost, "$ " ++ formatCost cost)]

def statusLine (u : TokenUsage) (cost : Float) : String :=
  " • ".intercalate ((statusFields u cost).map (·.2))

def payload (u : TokenUsage) (cost : Float) : Json :=
  .obj [("input_tokens", Json.nat u.prompt), ("output_tokens", Json.nat u.completion),
    ("cache_read_tokens", Json.nat u.cacheRead), ("reasoning_tokens", Json.nat u.reasoning),
    ("cost", Json.float cost), ("status_line", .str (statusLine u cost))]

def metricsKey (ns : String) : String := ns ++ "/metrics"

/-- The metadata of a notification: the payload of the totals under `key`, once a usage is
recorded. -/
def metadata? (key : String) (totals : Option Totals) : Option Json :=
  totals.bind fun t => t.usage.map fun u => .obj [(key, payload u t.cost)]

end Metrics
end AcpBridge
