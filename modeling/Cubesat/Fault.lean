import Cubesat.Clock.Duration

/-!
Faults that stop the flight software.
-/

namespace Cubesat

/-- An arithmetic fault that no task survives. -/
inductive Fault where
  /-- A deadline lies beyond the longest duration. -/
  | durationOverflow
  /-- A counter of eight bits is asked to count beyond 255. -/
  | counterOverflow
  deriving DecidableEq

def Duration.addOrFault (a b : Duration) : Except Fault Duration :=
  match a.add? b with
  | some sum => .ok sum
  | none => .error .durationOverflow

theorem Duration.addOrFault_eq_ok_iff {a b c : Duration} :
    a.addOrFault b = .ok c ↔ a.nanos + b.nanos = c.nanos := by
  rw [← add?_eq_some_iff, addOrFault]
  cases a.add? b with
  | none => simp
  | some sum => simp

theorem Duration.addOrFault_eq_error_iff {a b : Duration} {fault : Fault} :
    a.addOrFault b = .error fault ↔
      fault = .durationOverflow ∧ longest.nanos < a.nanos + b.nanos := by
  unfold addOrFault add?
  by_cases room : a.nanos + b.nanos < 18446744073709551616000000000
  · rw [dif_pos room]
    have fits : a.nanos + b.nanos ≤ longest.nanos := Nat.le_of_lt_succ room
    simp [Nat.not_lt.mpr fits]
  · rw [dif_neg room]
    have beyond : longest.nanos < a.nanos + b.nanos :=
      Nat.lt_of_not_le fun fits => room (Nat.lt_succ_of_le fits)
    simp [beyond, eq_comm]

end Cubesat
