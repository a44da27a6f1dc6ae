/-!
Counters of 32 bits that stop at their largest value.
-/

namespace Cubesat

/-- A count of events that never falls back to zero. -/
@[ext]
structure Tally where
  count : Nat
  /-- A 32-bit number holds the count. -/
  count_lt : count < 4294967296
  deriving DecidableEq

namespace Tally

def zero : Tally := ⟨0, by decide⟩

instance : Inhabited Tally := ⟨zero⟩

/-- One event more, unless the counter is at its end. -/
def bump (t : Tally) : Tally :=
  ⟨min (t.count + 1) 4294967295, by omega⟩

/-- A number of events more, as far as the counter goes. -/
def add (t : Tally) (events : Nat) : Tally :=
  ⟨min (t.count + events) 4294967295, by omega⟩

@[simp]
theorem count_zero : zero.count = 0 := rfl

@[simp]
theorem count_bump (t : Tally) : t.bump.count = min (t.count + 1) 4294967295 := rfl

@[simp]
theorem count_add (t : Tally) (events : Nat) :
    (t.add events).count = min (t.count + events) 4294967295 := rfl

@[simp]
theorem add_zero (t : Tally) : t.add 0 = t := by
  have := t.count_lt
  ext
  rw [count_add]
  omega

theorem add_one (t : Tally) : t.add 1 = t.bump := rfl

theorem add_add (t : Tally) (first second : Nat) :
    (t.add first).add second = t.add (first + second) := by
  ext
  simp only [count_add]
  omega

@[simp]
theorem add_bump (t : Tally) (events : Nat) : t.bump.add events = t.add (events + 1) := by
  ext
  rw [count_add, count_add, count_bump]
  omega

end Tally

end Cubesat
