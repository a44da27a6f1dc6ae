import Cubesat.Clock.Duration

/-!
Durations written as seconds with nine decimal places.
-/

namespace Cubesat.Duration

/-- The seconds, a point, and the nanoseconds in nine digits. -/
def text (d : Duration) : String :=
  let nanos := toString d.subsecNanos
  toString d.seconds ++ "." ++ String.ofList (List.replicate (9 - nanos.length) '0') ++ nanos

def ofNanos? (nanos : Nat) : Option Duration :=
  if h : nanos < 18446744073709551616000000000 then some ⟨nanos, h⟩ else none

/-- The duration of whole seconds, or of seconds and nanoseconds on both sides of a point. -/
def ofText? (text : String) : Option Duration := do
  match text.splitOn "." with
  | [seconds] => ofNanos? ((← seconds.toNat?) * 1000000000)
  | [seconds, nanos] => ofNanos? ((← seconds.toNat?) * 1000000000 + (← nanos.toNat?))
  | _ => none

end Cubesat.Duration
