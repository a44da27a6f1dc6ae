import Cubesat.Sail.Opening

/-!
What becomes of one step of the sail opening, and of one update.

The power system refuses a step, or the opening waits after it, or the next step
follows at once. What is proved of a stretch of steps goes by these three cases.
An update starts a sequence, or it only takes the request.
-/

namespace Cubesat.SailOpening

universe u

variable {Env : Type u}

@[simp]
theorem finishIfDone_env (context : Context SailOpening Env) :
    (finishIfDone context).env = context.env := by
  unfold finishIfDone
  split
  · rfl
  · rfl

theorem condition_iff {task : SailOpening} {state : SystemState} :
    condition task state = true ↔
      task.inProgress = true ∧ task.nextStep ≤ state.time ∧
        task.step < SailStep.sequence.length := by
  simp only [condition, Bool.and_eq_true, decide_eq_true_eq, and_assoc]

theorem inProgress_of_condition {task : SailOpening} {state : SystemState}
    (due : condition task state = true) : task.inProgress = true := by
  simp only [condition, Bool.and_eq_true] at due
  exact due.1.1

theorem step_lt_of_condition {task : SailOpening} {state : SystemState}
    (due : condition task state = true) : task.step < SailStep.sequence.length := by
  simp only [condition, Bool.and_eq_true, decide_eq_true_eq] at due
  exact due.2

theorem perform_cons_cases {power : PowerUnit Env} {step : SailStep} {rest : List SailStep}
    {before after : Context SailOpening Env}
    (performed : perform power (step :: rest) before = .ok after) :
    (∃ error env, power.operate step.operation before.env = (.error error, env) ∧
      after = { before with env }) ∨
    (∃ nextStep env, power.operate step.operation before.env = (.ok (), env) ∧
      .zero < step.delayAfter ∧ before.state.time.addOrFault step.delayAfter = .ok nextStep ∧
      after = finishIfDone
        { before with task := { before.task with step := before.task.step + 1, nextStep }, env }) ∨
    (∃ env, power.operate step.operation before.env = (.ok (), env) ∧
      ¬ .zero < step.delayAfter ∧
      perform power rest
        { before with task := { before.task with step := before.task.step + 1 }, env } =
          .ok after) := by
  rcases answered : power.operate step.operation before.env with ⟨error | _, env⟩
  · simp only [perform, answered] at performed
    cases performed
    exact Or.inl ⟨error, env, rfl, rfl⟩
  · apply Or.inr
    simp only [perform, answered] at performed
    by_cases waits : .zero < step.delayAfter
    · rw [if_pos waits] at performed
      cases deadline : before.state.time.addOrFault step.delayAfter with
      | error fault =>
          rw [deadline] at performed
          cases performed
      | ok nextStep =>
          rw [deadline] at performed
          cases performed
          exact Or.inl ⟨nextStep, env, rfl, waits, rfl, rfl⟩
    · rw [if_neg waits] at performed
      exact Or.inr ⟨env, rfl, waits, performed⟩

theorem finishIfDone_cases (context : Context SailOpening Env) :
    finishIfDone context = context ∨
      SailStep.sequence.length ≤ context.task.step ∧
        (finishIfDone context).task.inProgress = false ∧
        (finishIfDone context).task.requested = context.task.requested ∧
        (finishIfDone context).state.settings.sail = .opened := by
  unfold finishIfDone
  by_cases done : SailStep.sequence.length ≤ context.task.step
  · rw [if_pos done]
    exact Or.inr ⟨done, rfl, rfl, rfl⟩
  · rw [if_neg done]
    exact Or.inl rfl

/--
Performing steps does not touch a request. It leaves the opening in progress and
the settings as they were, or else the sail opened.
-/
theorem perform_settles {power : PowerUnit Env} {steps : List SailStep}
    {before after : Context SailOpening Env} (performed : perform power steps before = .ok after) :
    after.task.requested = before.task.requested ∧
      (after.task.inProgress = before.task.inProgress ∧
          after.state.persistent = before.state.persistent ∨
        after.task.inProgress = false ∧ after.state.settings.sail = .opened) := by
  induction steps generalizing before with
  | nil =>
      cases performed
      rcases finishIfDone_cases before with same | ⟨-, finished, requested, opened⟩
      · rw [same]
        exact ⟨rfl, Or.inl ⟨rfl, rfl⟩⟩
      · exact ⟨requested, Or.inr ⟨finished, opened⟩⟩
  | cons step rest inductionHypothesis =>
      rcases perform_cons_cases performed with ⟨error, env, -, rfl⟩ |
        ⟨nextStep, env, -, -, -, rfl⟩ | ⟨env, -, -, remainder⟩
      · exact ⟨rfl, Or.inl ⟨rfl, rfl⟩⟩
      · let waiting : Context SailOpening Env :=
          { before with task := { before.task with step := before.task.step + 1, nextStep }, env }
        rcases finishIfDone_cases waiting with same | ⟨-, finished, requested, opened⟩
        · rw [same]
          exact ⟨rfl, Or.inl ⟨rfl, rfl⟩⟩
        · exact ⟨requested, Or.inr ⟨finished, opened⟩⟩
      · have later := inductionHypothesis remainder
        exact later

theorem startsUnasked_of_opening {autoOpen : Option Duration} {state : SystemState}
    (record : state.settings.sail = .opening) : startsUnasked autoOpen state = true := by
  unfold startsUnasked
  rw [record]

theorem startsUnasked_of_opened {autoOpen : Option Duration} {state : SystemState}
    (record : state.settings.sail = .opened) : startsUnasked autoOpen state = false := by
  unfold startsUnasked
  rw [record]

theorem update_cases (autoOpen : Option Duration) (context : Context SailOpening Env) :
    (context.task.inProgress = false ∧
        (context.task.requested = true ∨ startsUnasked autoOpen context.state = true) ∧
        (update autoOpen context).2.task =
          { step := 0, nextStep := context.state.time, inProgress := true, requested := false } ∧
        (update autoOpen context).2.state.settings.sail = .opening) ∨
      ((context.task.inProgress = true ∨
          context.task.requested = false ∧ startsUnasked autoOpen context.state = false) ∧
        (update autoOpen context).2.task = { context.task with requested := false } ∧
        (update autoOpen context).2.state.settings = context.state.settings) := by
  cases running : context.task.inProgress with
  | true =>
      apply Or.inr
      simp [update, running, SystemState.settings]
  | false =>
      cases asked : context.task.requested || startsUnasked autoOpen context.state with
      | true =>
          apply Or.inl
          refine ⟨rfl, by simpa using asked, ?_, ?_⟩
          · simp [update, running, asked]
          · simp only [update, running, asked, Bool.not_false, Bool.and_self, if_true]
            rfl
      | false =>
          apply Or.inr
          refine ⟨Or.inr (by simpa using asked), ?_, ?_⟩
          · simp [update, running, asked]
          · simp [update, running, asked, SystemState.settings]

theorem update_time (autoOpen : Option Duration) (context : Context SailOpening Env) :
    (update autoOpen context).2.state.time = context.state.time := by
  unfold update
  dsimp only
  split
  · rfl
  · rfl

end Cubesat.SailOpening
