/-!
# Moments in time

A moment in UTC, to the nanosecond, with the three ways the program writes one: in the name of
the notification log (to the second), in its entries (with as many digits of the second's
fraction as it needs) and at the head of a log record (to the microsecond).
-/

namespace AcpBridge
namespace Cli

structure Second where
  whole : Nat
  nanos : Nat
  deriving DecidableEq, Repr

instance : OfNat Second n := ⟨⟨n, 0⟩⟩

/-- A moment in UTC. -/
structure Stamp where
  year : Nat
  month : Nat
  day : Nat
  hour : Nat
  minute : Nat
  second : Second
  deriving DecidableEq, Repr

def padded (width n : Nat) : String :=
  let s := toString n
  String.ofList (List.replicate (width - s.length) '0') ++ s

def Stamp.compact (s : Stamp) : String :=
  padded 4 s.year ++ padded 2 s.month ++ padded 2 s.day ++ "_" ++
    padded 2 s.hour ++ padded 2 s.minute ++ padded 2 s.second.whole ++ "Z"

/-- The fraction of a second in the fewest of three, six or nine digits that hold it exactly,
after a point; nothing for a whole second. -/
def Second.fraction (s : Second) : String :=
  if s.nanos = 0 then ""
  else if s.nanos % 1000000 = 0 then "." ++ padded 3 (s.nanos / 1000000)
  else if s.nanos % 1000 = 0 then "." ++ padded 6 (s.nanos / 1000)
  else "." ++ padded 9 s.nanos

/-- The stamp in a log entry: `YYYY-MM-DDTHH:MM:SS`, the fraction of the second, `+00:00`. -/
def Stamp.rfc3339 (s : Stamp) : String :=
  padded 4 s.year ++ "-" ++ padded 2 s.month ++ "-" ++ padded 2 s.day ++ "T" ++
    padded 2 s.hour ++ ":" ++ padded 2 s.minute ++ ":" ++ padded 2 s.second.whole ++
    s.second.fraction ++ "+00:00"

/-- The moment a number of seconds and nanoseconds after the start of 1970, in the proleptic
Gregorian calendar. -/
def Stamp.ofEpoch (t nanos : Nat) : Stamp :=
  let days := t / 86400
  let secs := t % 86400
  let z := days + 719468
  let era := z / 146097
  let doe := z - era * 146097
  let yoe := (doe - doe / 1460 + doe / 36524 - doe / 146096) / 365
  let doy := doe - (365 * yoe + yoe / 4 - yoe / 100)
  let mp := (5 * doy + 2) / 153
  let day := doy - (153 * mp + 2) / 5 + 1
  let month := if mp < 10 then mp + 3 else mp - 9
  let year := yoe + era * 400 + (if month ≤ 2 then 1 else 0)
  ⟨year, month, day, secs / 3600, secs % 3600 / 60, ⟨secs % 60, nanos⟩⟩

/-- The stamp at the head of a log record: `YYYY-MM-DDTHH:MM:SS.ffffffZ`, to the
microsecond. -/
def Stamp.logTime (s : Stamp) : String :=
  padded 4 s.year ++ "-" ++ padded 2 s.month ++ "-" ++ padded 2 s.day ++ "T" ++
    padded 2 s.hour ++ ":" ++ padded 2 s.minute ++ ":" ++ padded 2 s.second.whole ++ "." ++
    padded 6 (s.second.nanos / 1000) ++ "Z"

end Cli
end AcpBridge
