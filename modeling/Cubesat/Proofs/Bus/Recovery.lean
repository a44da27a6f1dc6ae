import Cubesat.Proofs.Bus.Requests
import Cubesat.Proofs.Bus.Streaks

/-!
What a guarded bus counts, and when it recovers.

The recoveries are counted where they happen, in the environment. A log of how
the guarded transfers have ended is kept beside the bus: the counter and the
recoveries are functions of its streaks, whatever is done with the devices
between two guarded transfers.
-/

namespace Cubesat

universe u

/-- An environment with the number of recoveries that have been triggered in it. -/
structure Recovering (Env : Type u) where
  env : Env
  recoveries : Nat

namespace Recovering

variable {Env : Type u}

def envPart : Lens (Recovering Env) Env where
  get recovering := recovering.env
  set env recovering := { recovering with env }

def recover (recover : Env → Env) (recovering : Recovering Env) : Recovering Env where
  env := recover recovering.env
  recoveries := recovering.recoveries + 1

end Recovering

namespace Bus

variable {Env : Type u}

def supervised (bus : Bus Env) (limit : ErrorLimit) (recover : Env → Env) :
    Bus (Guarded (Recovering Env)) :=
  (bus.through Recovering.envPart).limited limit (Recovering.recover recover)

/-- A transfer over a guarded bus, or past the guard on the bus that it guards. -/
inductive Use where
  | guarded (request : Request)
  | direct (request : Request)
  deriving DecidableEq

/-- A guarded bus in use, with a log of how the guarded transfers have ended. -/
structure Supervision (Env : Type u) where
  guarded : Guarded (Recovering Env)
  /-- The latest one first. -/
  ended : List BusResult

namespace Supervision

def start (env : Env) : Supervision Env where
  guarded := .start { env, recoveries := 0 }
  ended := []

section Steps

variable (bus : Bus Env) (limit : ErrorLimit) (recover : Env → Env)

def after (supervision : Supervision Env) : Use → Supervision Env
  | .guarded request =>
      let done := (bus.supervised limit recover).ask request supervision.guarded
      { guarded := done.2, ended := done.1.1 :: supervision.ended }
  | .direct request =>
      { supervision with
        guarded := (((bus.through Recovering.envPart).through Guarded.envLens).ask request
          supervision.guarded).2 }

def run (uses : List Use) (supervision : Supervision Env) : Supervision Env :=
  uses.foldl (after bus limit recover) supervision

end Steps

def withEnv (later : Env) (supervision : Supervision Env) : Supervision Env :=
  { supervision with
    guarded := { supervision.guarded with
      env := { supervision.guarded.env with env := later } } }

structure Reckoned (limit : ErrorLimit) (supervision : Supervision Env) : Prop where
  errors : supervision.guarded.errors = failing supervision.ended % limit.value
  recoveries : supervision.guarded.env.recoveries = recoveries limit supervision.ended

variable {bus : Bus Env} {limit : ErrorLimit} {recover : Env → Env}
  {supervision : Supervision Env}

theorem ask_supervised (request : Request) :
    let answer := bus.ask request supervision.guarded.env.env
    (bus.supervised limit recover).ask request supervision.guarded =
      (answer.1,
        (supervision.withEnv answer.2).guarded.record limit (Recovering.recover recover)
          answer.1.1) := by
  dsimp only
  rw [supervised, ask_limited, ask_through]
  rfl

theorem after_direct (request : Request) :
    supervision.after bus limit recover (.direct request) =
      supervision.withEnv (bus.ask request supervision.guarded.env.env).2 := by
  rw [after, ask_through, ask_through]
  rfl

namespace Reckoned

theorem start (env : Env) : Reckoned limit (Supervision.start env) where
  errors := (Nat.zero_mod _).symm
  recoveries := (recoveries_nil limit).symm

theorem withEnv (reckoned : Reckoned limit supervision) (later : Env) :
    Reckoned limit (supervision.withEnv later) :=
  ⟨reckoned.errors, reckoned.recoveries⟩

/-- A guard recovers just when a failure completes a multiple of the limit. -/
theorem record_env (reckoned : Reckoned limit supervision) (result : BusResult) :
    (supervision.guarded.record limit (Recovering.recover recover) result).env =
      if Link.succeeded result = false ∧ limit.value ∣ failing (result :: supervision.ended) then
        supervision.guarded.env.recover recover
      else supervision.guarded.env := by
  cases result with
  | ok => simp [Guarded.record, Link.succeeded]
  | error error =>
      rw [Guarded.record_error limit (Recovering.recover recover) reckoned.errors]
      simp only [Link.succeeded, failing_error, Nat.dvd_iff_mod_eq_zero, true_and]

theorem record (reckoned : Reckoned limit supervision) (result : BusResult) :
    Reckoned limit
      { guarded := supervision.guarded.record limit (Recovering.recover recover) result
        ended := result :: supervision.ended } := by
  cases result with
  | ok done =>
      cases done
      constructor
      · simp [Guarded.record]
      · simp [Guarded.record, reckoned.recoveries]
  | error error =>
      rw [Guarded.record_error limit (Recovering.recover recover) reckoned.errors]
      constructor
      · simp only [failing_error]
      · simp only [recoveries_error, ← reckoned.recoveries]
        split
        · rfl
        · rfl

theorem after (reckoned : Reckoned limit supervision) (use : Use) :
    Reckoned limit (supervision.after bus limit recover use) := by
  cases use with
  | guarded request =>
      simp only [Supervision.after, ask_supervised]
      exact (reckoned.withEnv _).record _
  | direct request =>
      rw [after_direct]
      exact reckoned.withEnv _

theorem run (reckoned : Reckoned limit supervision) (uses : List Use) :
    Reckoned limit (supervision.run bus limit recover uses) := by
  induction uses generalizing supervision with
  | nil => exact reckoned
  | cons use rest inductionHypothesis => exact inductionHypothesis (reckoned.after use)

end Reckoned

end Supervision

/--
A guard changes no answer, and after any sequence of guarded and direct
transfers it has recovered once for every full limit in every streak of failed
guarded transfers. It recovers on the failure that completes a multiple of the
limit, and its counter says how much of the next one there is; a direct transfer
leaves the counter, the recoveries and the streaks alone.
-/
theorem supervised_run (bus : Bus Env) (limit : ErrorLimit) (recover : Env → Env) (env : Env)
    (uses : List Use) :
    let reached := (Supervision.start env).run bus limit recover uses
    let recovering := reached.guarded.env
    (recovering.recoveries = recoveries limit reached.ended ∧
      reached.guarded.errors = failing reached.ended % limit.value ∧
      reached.guarded.errors < limit.value) ∧
    (∀ request,
      let answer := bus.ask request recovering.env
      let done := (bus.supervised limit recover).ask request reached.guarded
      done.1 = answer.1 ∧
      done.2.env =
        (if Link.succeeded answer.1.1 = false ∧
            limit.value ∣ failing (answer.1.1 :: reached.ended) then
          { env := recover answer.2, recoveries := recovering.recoveries + 1 }
        else
          { env := answer.2, recoveries := recovering.recoveries }) ∧
      reached.after bus limit recover (.guarded request) =
        { guarded := done.2, ended := answer.1.1 :: reached.ended }) ∧
    ∀ request,
      let answer := bus.ask request recovering.env
      reached.after bus limit recover (.direct request) =
        { guarded :=
            { env := { env := answer.2, recoveries := recovering.recoveries }
              errors := reached.guarded.errors }
          ended := reached.ended } := by
  intro reached recovering
  have reckoned : Supervision.Reckoned limit reached :=
    (Supervision.Reckoned.start env).run uses
  refine ⟨⟨reckoned.recoveries, reckoned.errors, ?_⟩, fun request => ?_, fun request => ?_⟩
  · rw [reckoned.errors]
    exact Nat.mod_lt _ limit.value_pos
  · intro answer done
    have asked : done = (answer.1, (reached.withEnv answer.2).guarded.record limit _ answer.1.1) :=
      Supervision.ask_supervised request
    refine ⟨congrArg Prod.fst asked, ?_, ?_⟩
    · rw [asked]
      exact (reckoned.withEnv answer.2).record_env answer.1.1
    · change Supervision.mk done.2 (done.1.1 :: reached.ended) = _
      rw [asked]
  · exact Supervision.after_direct request

end Bus

end Cubesat
