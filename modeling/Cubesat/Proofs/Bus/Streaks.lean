import Cubesat.Bus.ErrorLimit
import Cubesat.Comm.Link
import Mathlib.Algebra.GroupWithZero.Nat
import Mathlib.Data.Nat.Basic

/-!
Streaks of failed transfers, and the recoveries that they trigger.

The counter of a guarded bus is not the length of the present streak: a recovery
starts it again. It is that length up to multiples of the limit, so that a
streak has triggered one recovery for every full limit in it.
-/

namespace Cubesat

universe u

variable (limit : ErrorLimit)

/-- The failures of a bus between two successes, of transfers that are given latest first. -/
def streaks (transfers : List BusResult) : List (List BusResult) :=
  transfers.splitOnP Link.succeeded

def failing (transfers : List BusResult) : Nat :=
  ((streaks transfers).headD []).length

def recoveries (transfers : List BusResult) : Nat :=
  ((streaks transfers).map fun streak => streak.length / limit.value).sum

@[simp]
theorem recoveries_nil : recoveries limit [] = 0 := by
  simp [recoveries, streaks]

theorem streaks_ok (transfers : List BusResult) :
    streaks (.ok () :: transfers) = [] :: streaks transfers :=
  List.splitOnP_cons_eq_if_modifyHead _ _

theorem streaks_error (error : BusError) (transfers : List BusResult) :
    streaks (.error error :: transfers) = (streaks transfers).modifyHead (.error error :: ·) :=
  List.splitOnP_cons_eq_if_modifyHead _ _

@[simp]
theorem failing_ok (transfers : List BusResult) : failing (.ok () :: transfers) = 0 := by
  rw [failing, streaks_ok]
  rfl

@[simp]
theorem recoveries_ok (transfers : List BusResult) :
    recoveries limit (.ok () :: transfers) = recoveries limit transfers := by
  simp [recoveries, streaks_ok]

theorem streaks_cases (transfers : List BusResult) :
    ∃ latest others, streaks transfers = latest :: others :=
  List.exists_cons_of_ne_nil (List.splitOnP_ne_nil _ _)

@[simp]
theorem failing_error (error : BusError) (transfers : List BusResult) :
    failing (.error error :: transfers) = failing transfers + 1 := by
  obtain ⟨latest, others, same⟩ := streaks_cases transfers
  rw [failing, failing, streaks_error, same]
  rfl

/-- A failure triggers a recovery if it makes the latest streak a multiple of the limit. -/
theorem recoveries_error (error : BusError) (transfers : List BusResult) :
    recoveries limit (.error error :: transfers) =
      recoveries limit transfers +
        if (failing transfers + 1) % limit.value = 0 then 1 else 0 := by
  obtain ⟨latest, others, same⟩ := streaks_cases transfers
  rw [recoveries, recoveries, failing, streaks_error, same]
  simp only [List.modifyHead_cons, List.map_cons, List.sum_cons, List.length_cons, List.headD_cons,
    Nat.succ_div, Nat.dvd_iff_mod_eq_zero]
  exact Nat.add_right_comm _ _ _

namespace Guarded

variable {Env : Type u} (recover : Env → Env) {guarded : Guarded Env} {transfers : List BusResult}

/-- A counter that agrees with the latest streak triggers a recovery just when one is due. -/
theorem record_error (counted : guarded.errors = failing transfers % limit.value)
    (error : BusError) :
    guarded.record limit recover (.error error) =
      { env := if (failing transfers + 1) % limit.value = 0 then recover guarded.env
          else guarded.env
        errors := (failing transfers + 1) % limit.value } := by
  have small := limit.value_le
  have inside : failing transfers % limit.value < limit.value := Nat.mod_lt _ limit.value_pos
  have next : (failing transfers + 1) % limit.value =
      (failing transfers % limit.value + 1) % limit.value := by
    rw [Nat.mod_add_mod]
  unfold record
  -- The counter stays below a limit that is a byte, and so it never saturates.
  rw [counted, Nat.min_eq_left (by omega), next]
  by_cases full : failing transfers % limit.value + 1 = limit.value
  · simp [full]
  · have rest : failing transfers % limit.value + 1 < limit.value := by omega
    simp [Nat.mod_eq_of_lt rest, Nat.not_le.mpr rest]

end Guarded

end Cubesat
