import Cubesat.Proofs.Sail.Steps

/-!
The observed stage of the sail opening and the stage on record.

A running opening is on record. That alone is enough for an update to make the
two stages agree, and steps that are performed afterwards leave them so.
-/

namespace Cubesat

universe u

variable {Env : Type u}

def SailRecord.stage : SailRecord → SailState
  | closed => .waiting
  | opening => .opening
  | opened => .openingStopped

namespace SailOpening

theorem consistency_eq_ok_iff {state : SystemState} :
    consistency state = .ok ↔ state.sail = state.settings.sail.stage := by
  unfold consistency
  cases state.sail with
  | waiting => cases state.settings.sail <;> simp [SailRecord.stage]
  | opening => cases state.settings.sail <;> simp [SailRecord.stage]
  | openingStopped => cases state.settings.sail <;> simp [SailRecord.stage]

def IsOnRecord (task : SailOpening) (state : SystemState) : Prop :=
  task.inProgress = true → state.settings.sail = .opening

/-- A running opening is on record, and the observed stage is the one on record. -/
structure Coherent (task : SailOpening) (state : SystemState) : Prop where
  onRecord : task.IsOnRecord state
  agrees : state.sail = state.settings.sail.stage

theorem update_sail (autoOpen : Option Duration) (context : Context SailOpening Env) :
    (update autoOpen context).2.state.sail =
      (update autoOpen context).2.task.observed
        (update autoOpen context).2.state.settings.sail := by
  unfold update
  dsimp only
  split
  · rfl
  · rfl

/-- The observed stage is that on record unless one of them has an opening that the other lacks. -/
theorem observed_eq_stage {task : SailOpening} {record : SailRecord}
    (running : task.inProgress = true ↔ record = .opening) :
    task.observed record = record.stage := by
  unfold observed
  cases record with
  | closed =>
      have idle : task.inProgress = false := by simpa using running
      simp [idle, SailRecord.stage]
  | opening =>
      have busy : task.inProgress = true := running.mpr rfl
      simp [busy, SailRecord.stage]
  | opened =>
      have idle : task.inProgress = false := by simpa using running
      simp [idle, SailRecord.stage]

/-- An update leaves an opening in progress exactly if one is on record. -/
theorem update_running_iff (autoOpen : Option Duration) {context : Context SailOpening Env}
    (onRecord : context.task.IsOnRecord context.state) :
    (update autoOpen context).2.task.inProgress = true ↔
      (update autoOpen context).2.state.settings.sail = .opening := by
  rcases update_cases autoOpen context with ⟨-, -, task, opening⟩ | ⟨quiet, task, settings⟩
  · simp [task, opening]
  · rw [task, settings]
    refine ⟨onRecord, ?_⟩
    intro opening
    rcases quiet with running | ⟨-, unasked⟩
    · exact running
    · rw [startsUnasked_of_opening opening] at unasked
      contradiction

theorem update_coherent (autoOpen : Option Duration) {context : Context SailOpening Env}
    (onRecord : context.task.IsOnRecord context.state) :
    (update autoOpen context).2.task.Coherent (update autoOpen context).2.state where
  onRecord := (update_running_iff autoOpen onRecord).mp
  agrees := (update_sail autoOpen context).trans
    (observed_eq_stage (update_running_iff autoOpen onRecord))

theorem finishIfDone_coherent {context : Context SailOpening Env}
    (coherent : context.task.Coherent context.state) :
    (finishIfDone context).task.Coherent (finishIfDone context).state := by
  unfold finishIfDone
  split
  · refine ⟨?_, rfl⟩
    intro running
    cases running
  · exact coherent

theorem perform_coherent {power : PowerUnit Env} {steps : List SailStep}
    {before after : Context SailOpening Env} (coherent : before.task.Coherent before.state)
    (performed : perform power steps before = .ok after) :
    after.task.Coherent after.state := by
  induction steps generalizing before with
  | nil =>
      cases performed
      exact finishIfDone_coherent coherent
  | cons step rest inductionHypothesis =>
      rcases perform_cons_cases performed with ⟨error, env, -, rfl⟩ |
        ⟨nextStep, env, -, -, -, rfl⟩ | ⟨env, -, -, remainder⟩
      · exact coherent
      · exact finishIfDone_coherent ⟨coherent.onRecord, coherent.agrees⟩
      · apply inductionHypothesis ?_ remainder
        exact ⟨coherent.onRecord, coherent.agrees⟩

end SailOpening

end Cubesat
