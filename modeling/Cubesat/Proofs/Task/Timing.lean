import Cubesat.Proofs.Task.Confined

/-!
What the tasks leave of the shared state.

Most actions work on their devices and leave the shared state alone. Mission
time is for the timekeeper to move: no other task changes it.
-/

namespace Cubesat

universe u v

def Context.SameState {Task : Type u} {Env : Type v} (before after : Context Task Env) : Prop :=
  after.state = before.state

instance {Task : Type u} {Env : Type v} : IsPreorder (Context Task Env) Context.SameState where
  refl _ := rfl
  trans _ _ _ early late := Eq.trans late early

def Context.SameTime {Task : Type u} {Env : Type v} (before after : Context Task Env) : Prop :=
  after.state.time = before.state.time

instance {Task : Type u} {Env : Type v} : IsPreorder (Context Task Env) Context.SameTime where
  refl _ := rfl
  trans _ _ _ early late := Eq.trans late early

theorem Context.SameState.sameTime {Task : Type u} {Env : Type v} {before after : Context Task Env}
    (same : before.SameState after) : before.SameTime after :=
  congrArg SystemState.time same

variable {Env : Type u}

namespace Deployment

theorem update_sameTime (antenna : AntennaUnit Env) (context : Context Deployment Env) :
    context.SameTime (update antenna context).2 := by
  unfold update
  split
  · rfl
  · rfl

theorem action_sameState (plan : DeploymentPlan) (antenna : AntennaUnit Env) :
    (action plan antenna).Respects Context.SameState := by
  apply Action.ofPure_respects
  intro before after executed
  unfold execute at executed
  split at executed
  · cases executed
  · cases deadline : before.state.time.addOrFault plan.retryInterval with
    | error fault =>
        rw [deadline] at executed
        cases executed
    | ok nextAttempt =>
        rw [deadline] at executed
        cases executed
        rfl

theorem action_sameTime (plan : DeploymentPlan) (antenna : AntennaUnit Env) :
    (action plan antenna).Respects Context.SameTime :=
  (action_sameState plan antenna).mono Context.SameState.sameTime

end Deployment

namespace Detumbling

theorem requestStart_sameState (adcs : AdcsUnit Env) (context : Context Detumbling Env) :
    context.SameState (requestStart adcs context) := by
  unfold requestStart
  split
  · rfl
  · rfl

theorem requestStop_sameState (adcs : AdcsUnit Env) (context : Context Detumbling Env) :
    context.SameState (requestStop adcs context) := by
  unfold requestStop
  split
  · rfl
  · rfl

theorem action_sameState (window : DetumblingWindow) (adcs : AdcsUnit Env) :
    (action window adcs).Respects Context.SameState := by
  apply Action.composite_respects
  intro member membership
  simp only [List.mem_cons, List.not_mem_nil, or_false] at membership
  rcases membership with rfl | rfl
  · apply Action.ofPure_respects
    intro before after executed
    cases executed
    exact requestStart_sameState adcs before
  · apply Action.ofPure_respects
    intro before after executed
    cases executed
    exact requestStop_sameState adcs before

theorem action_sameTime (window : DetumblingWindow) (adcs : AdcsUnit Env) :
    (action window adcs).Respects Context.SameTime :=
  (action_sameState window adcs).mono Context.SameState.sameTime

end Detumbling

namespace SailOpening

theorem finishIfDone_sameTime (context : Context SailOpening Env) :
    context.SameTime (finishIfDone context) := by
  unfold finishIfDone
  split
  · rfl
  · rfl

theorem perform_sameTime {power : PowerUnit Env} {steps : List SailStep}
    {before after : Context SailOpening Env}
    (performed : perform power steps before = .ok after) : before.SameTime after := by
  induction steps generalizing before with
  | nil =>
      cases performed
      exact finishIfDone_sameTime before
  | cons step rest inductionHypothesis =>
      rcases perform_cons_cases performed with ⟨error, middle, -, rfl⟩ |
        ⟨nextStep, middle, -, -, -, rfl⟩ | ⟨middle, -, -, remainder⟩
      · rfl
      · exact finishIfDone_sameTime _
      · have later := inductionHypothesis remainder
        exact later

theorem action_sameTime (power : PowerUnit Env) :
    (action power).Respects Context.SameTime :=
  Action.ofPure_respects fun _ _ executed => perform_sameTime executed

end SailOpening

namespace Broadcast

theorem action_sameState (interval : Duration) (transmitter : Transmitter Env) :
    (action interval transmitter).Respects Context.SameState := by
  apply Action.ofPure_respects
  intro before after executed
  cases executed
  unfold execute
  split
  · rfl
  · dsimp only
    split
    · rfl
    · rfl

theorem action_sameTime (interval : Duration) (transmitter : Transmitter Env) :
    (action interval transmitter).Respects Context.SameTime :=
  (action_sameState interval transmitter).mono Context.SameState.sameTime

end Broadcast

theorem PeriodicPowerCycle.action_sameState (period : Duration) (scrubbing : Env → Scrubbing)
    (power : PowerUnit Env) :
    (action period scrubbing power).Respects Context.SameState where
  condition _ := rfl
  execute _ _ executed := by
    cases executed
    rfl

namespace StorageUnit

theorem flush_state (storage : StorageUnit Env) (state : SystemState) (env : Env) :
    (storage.flush state env).2.1 = state ∨
      (storage.flush state env).2.1 = { state with persistent := state.persistent.markSaved } := by
  unfold flush
  split
  · split
    · exact Or.inr rfl
    · exact Or.inl rfl
  · exact Or.inl rfl

theorem flush_settings (storage : StorageUnit Env) (state : SystemState) (env : Env) :
    (storage.flush state env).2.1.settings = state.settings := by
  rcases storage.flush_state state env with same | saved
  · rw [same]
  · rw [saved]
    rfl

theorem flush_time (storage : StorageUnit Env) (state : SystemState) (env : Env) :
    (storage.flush state env).2.1.time = state.time := by
  rcases storage.flush_state state env with same | saved
  · rw [same]
  · rw [saved]

end StorageUnit

end Cubesat
