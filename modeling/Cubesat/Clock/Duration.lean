/-!
Spans of time and times of the mission clock, in whole nanoseconds.

A duration holds at most 2 ^ 64 - 1 seconds and 999 999 999 nanoseconds.
Addition is offered twice: `add?` notices that the sum leaves this range, and
`saturatingAdd` stops at its end.
-/

namespace Cubesat

/-- A span of time, or a time of the mission clock measured from its zero. -/
@[ext]
structure Duration where
  nanos : Nat
  /-- A 64-bit number of seconds and a remainder below one second hold the length. -/
  nanos_lt : nanos < 18446744073709551616000000000
  deriving DecidableEq

namespace Duration

instance : LE Duration := ⟨fun a b => a.nanos ≤ b.nanos⟩

instance : LT Duration := ⟨fun a b => a.nanos < b.nanos⟩

instance (a b : Duration) : Decidable (a ≤ b) := inferInstanceAs (Decidable (a.nanos ≤ b.nanos))

instance (a b : Duration) : Decidable (a < b) := inferInstanceAs (Decidable (a.nanos < b.nanos))

theorem le_iff {a b : Duration} : a ≤ b ↔ a.nanos ≤ b.nanos := Iff.rfl

theorem lt_iff {a b : Duration} : a < b ↔ a.nanos < b.nanos := Iff.rfl

def zero : Duration := ⟨0, by decide⟩

def longest : Duration := ⟨18446744073709551615999999999, by decide⟩

instance : Inhabited Duration := ⟨zero⟩

@[simp]
theorem nanos_zero : zero.nanos = 0 := rfl

def ofSeconds (seconds : UInt64) : Duration :=
  ⟨seconds.toNat * 1000000000, by have := seconds.toNat_lt; omega⟩

def ofMillis (millis : UInt64) : Duration :=
  ⟨millis.toNat * 1000000, by have := millis.toNat_lt; omega⟩

/-- As many nanoseconds as asked for, but no more than a 64-bit count of them. -/
def ofNanosClamped (nanos : Nat) : Duration :=
  ⟨min nanos 18446744073709551615, by omega⟩

def seconds (d : Duration) : Nat :=
  d.nanos / 1000000000

def subsecNanos (d : Duration) : Nat :=
  d.nanos % 1000000000

def millis (d : Duration) : Nat :=
  d.nanos / 1000000

def add? (a b : Duration) : Option Duration :=
  if h : a.nanos + b.nanos < 18446744073709551616000000000 then
    some ⟨a.nanos + b.nanos, h⟩
  else
    none

def saturatingAdd (a b : Duration) : Duration :=
  ⟨min (a.nanos + b.nanos) 18446744073709551615999999999, by omega⟩

/-- The difference, or zero where the second duration is the longer one. -/
def saturatingSub (a b : Duration) : Duration :=
  ⟨a.nanos - b.nanos, by have := a.nanos_lt; omega⟩

@[simp]
theorem nanos_ofSeconds (s : UInt64) : (ofSeconds s).nanos = s.toNat * 1000000000 := rfl

@[simp]
theorem nanos_ofMillis (ms : UInt64) : (ofMillis ms).nanos = ms.toNat * 1000000 := rfl

@[simp]
theorem nanos_saturatingAdd (a b : Duration) :
    (a.saturatingAdd b).nanos = min (a.nanos + b.nanos) longest.nanos := rfl

@[simp]
theorem nanos_saturatingSub (a b : Duration) :
    (a.saturatingSub b).nanos = a.nanos - b.nanos := rfl

theorem add?_eq_some_iff {a b c : Duration} :
    a.add? b = some c ↔ a.nanos + b.nanos = c.nanos := by
  have := c.nanos_lt
  unfold add?
  split
  · simp [Duration.ext_iff]
  · simp only [reduceCtorEq, false_iff]
    omega

end Duration

/-- An explicit change of mission time. -/
structure TimeJump where
  previous : Duration
  current : Duration
  deriving DecidableEq

/-- A time stamp moved along with mission time, as far as the range of durations allows. -/
def Duration.movedBy (stamp : Duration) (jump : TimeJump) : Duration :=
  if jump.previous ≤ jump.current then
    stamp.saturatingAdd (jump.current.saturatingSub jump.previous)
  else
    stamp.saturatingSub (jump.previous.saturatingSub jump.current)

end Cubesat
