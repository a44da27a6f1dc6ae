import Cubesat.Mission.Schedule
import Mathlib.Data.List.Forall2

/-!
A mission cycle through a view of its state.

A schedule mirrors another one if its entries do to a view of the state what
the entries of the other one do to the state. Then a whole cycle does so too,
and the report of the cycle is the same.
-/

namespace Cubesat

universe u v w x

section Entries

variable {State : Type u} {Shown : Type v} (shown : State → Shown)

structure Update.Mirrors (update : Update State) (image : Update Shown) : Prop where
  name : image.name = update.name
  run : Commutes shown update.run image.run

structure Verify.Mirrors (verify : Verify State) (image : Verify Shown) : Prop where
  name : image.name = verify.name
  run : ∀ state, image.run (shown state) = verify.run state

structure Action.Mirrors (action : Action State) (image : Action Shown) : Prop where
  name : image.name = action.name
  condition : Commutes shown action.condition image.condition
  execute : ∀ state, image.execute (shown state) = (action.execute state).map shown

structure Schedule.Mirrors (schedule : Schedule State) (image : Schedule Shown) : Prop where
  updates : List.Forall₂ (Update.Mirrors shown) schedule.updates image.updates
  verifies : List.Forall₂ (Verify.Mirrors shown) schedule.verifies image.verifies
  actions : List.Forall₂ (Action.Mirrors shown) schedule.actions image.actions

end Entries

variable {State : Type u} {Shown : Type v} {shown : State → Shown}

namespace Action

theorem Mirrors.ofPure {name : String} {condition : State → Bool} {asked : Shown → Bool}
    {execute : State → Except Fault State} {executed : Shown → Except Fault Shown}
    (conditions : ∀ state, asked (shown state) = condition state)
    (executions : ∀ state, executed (shown state) = (execute state).map shown) :
    (Action.ofPure name condition execute).Mirrors shown (.ofPure name asked executed) where
  name := rfl
  condition state := by simp only [Action.ofPure, conditions]
  execute := executions

theorem Mirrors.runIfRunnable {action : Action State} {image : Action Shown}
    (mirrors : action.Mirrors shown image) (state : State) :
    image.runIfRunnable (shown state) = (action.runIfRunnable state).map shown := by
  unfold Action.runIfRunnable
  rw [mirrors.condition]
  dsimp only
  split
  · exact mirrors.execute _
  · rfl

theorem runEach_mirrors {members : List (Action State)} {images : List (Action Shown)}
    (mirrors : List.Forall₂ (Action.Mirrors shown) members images) (state : State) :
    runEach images (shown state) = (runEach members state).map shown := by
  induction mirrors generalizing state with
  | nil => rfl
  | @cons member image members images first _ inductionHypothesis =>
      have head := first.runIfRunnable state
      unfold runEach at inductionHypothesis ⊢
      rw [List.foldlM_cons, List.foldlM_cons, head]
      cases member.runIfRunnable state with
      | error fault => rfl
      | ok middle => exact inductionHypothesis middle

theorem anyRunnable_mirrors {members : List (Action State)} {images : List (Action Shown)}
    (mirrors : List.Forall₂ (Action.Mirrors shown) members images) :
    Commutes shown (anyRunnable members) (anyRunnable images) := by
  intro state
  induction mirrors generalizing state with
  | nil => rfl
  | cons first _ inductionHypothesis =>
      unfold anyRunnable
      rw [first.condition]
      dsimp only
      split
      · rfl
      · exact inductionHypothesis _

theorem Mirrors.composite (name : String) {members : List (Action State)}
    {images : List (Action Shown)}
    (mirrors : List.Forall₂ (Action.Mirrors shown) members images) :
    (Action.composite name members).Mirrors shown (.composite name images) where
  name := rfl
  condition := anyRunnable_mirrors mirrors
  execute := runEach_mirrors mirrors

end Action

section Parts

variable {Whole : Type u} {Part : Type v} {View : Type w} {Inner : Type x} {outer : Whole → View}
  {inner : Part → Inner} {lens : Lens Whole Part} {lens' : Lens View Inner}
  (fits : lens.Fits outer inner lens')

include fits

theorem Update.Mirrors.through {update : Update Part} {image : Update Inner}
    (mirrors : update.Mirrors inner image) :
    (update.through lens).Mirrors outer (image.through lens') where
  name := mirrors.name
  run := fits.lift mirrors.run

theorem Action.Mirrors.through {action : Action Part} {image : Action Inner}
    (mirrors : action.Mirrors inner image) :
    (action.through lens).Mirrors outer (image.through lens') where
  name := mirrors.name
  condition := fits.lift mirrors.condition
  execute whole := by
    simp only [Action.through, fits.get, mirrors.execute]
    cases action.execute (lens.get whole) with
    | error fault => rfl
    | ok part => exact congrArg Except.ok (fits.set part whole)

end Parts

namespace Schedule

theorem runUpdates_mirrors {updates : List (Update State)} {images : List (Update Shown)}
    (mirrors : List.Forall₂ (Update.Mirrors shown) updates images) :
    Commutes shown (runUpdates updates) (runUpdates images) := by
  intro state
  induction mirrors generalizing state with
  | nil => rfl
  | cons first _ inductionHypothesis =>
      simp only [runUpdates, first.name, first.run state, inductionHypothesis]

theorem runVerifies_mirrors {verifies : List (Verify State)} {images : List (Verify Shown)}
    (mirrors : List.Forall₂ (Verify.Mirrors shown) verifies images) (state : State) :
    runVerifies images (shown state) = runVerifies verifies state := by
  unfold runVerifies
  induction mirrors with
  | nil => rfl
  | cons first _ inductionHypothesis =>
      simp only [List.map_cons, first.name, first.run, inductionHypothesis]

theorem selectRunnable_mirrors {actions : List (Action State)} {images : List (Action Shown)}
    (mirrors : List.Forall₂ (Action.Mirrors shown) actions images) (state : State) :
    List.Forall₂ (Action.Mirrors shown) (selectRunnable actions state).1
        (selectRunnable images (shown state)).1 ∧
      (selectRunnable images (shown state)).2 = shown (selectRunnable actions state).2 := by
  induction mirrors generalizing state with
  | nil => exact ⟨.nil, rfl⟩
  | @cons action image actions images first _ inductionHypothesis =>
      obtain ⟨others, after⟩ := inductionHypothesis (action.condition state).2
      simp only [selectRunnable, first.condition state]
      refine ⟨?_, after⟩
      split
      · exact .cons first others
      · exact others

theorem names_mirrors {actions : List (Action State)} {images : List (Action Shown)}
    (mirrors : List.Forall₂ (Action.Mirrors shown) actions images) :
    images.map (·.name) = actions.map (·.name) := by
  induction mirrors with
  | nil => rfl
  | cons first _ inductionHypothesis =>
      simp only [List.map_cons, first.name, inductionHypothesis]

theorem executeAll_mirrors {actions : List (Action State)} {images : List (Action Shown)}
    (mirrors : List.Forall₂ (Action.Mirrors shown) actions images) (state : State) :
    executeAll images (shown state) = (executeAll actions state).map shown := by
  induction mirrors generalizing state with
  | nil => rfl
  | @cons action image actions images first _ inductionHypothesis =>
      unfold executeAll at inductionHypothesis ⊢
      rw [List.foldlM_cons, List.foldlM_cons, first.execute]
      cases action.execute state with
      | error fault => rfl
      | ok middle => exact inductionHypothesis middle

/-- A whole cycle does to the view of a state what it does to the state. -/
theorem Mirrors.runCycle {schedule : Schedule State} {image : Schedule Shown}
    (mirrors : schedule.Mirrors shown image) (cycle : UInt64) (state : State) :
    image.runCycle cycle (shown state) =
      (schedule.runCycle cycle state).map fun (report, after) => (report, shown after) := by
  have observed := runUpdates_mirrors mirrors.updates state
  have verified := runVerifies_mirrors mirrors.verifies (runUpdates schedule.updates state).2
  obtain ⟨selected, asked⟩ :=
    selectRunnable_mirrors mirrors.actions (runUpdates schedule.updates state).2
  have names := names_mirrors selected
  unfold Schedule.runCycle
  simp only [observed, verified, names, asked, executeAll_mirrors selected]
  cases executeAll (selectRunnable schedule.actions (runUpdates schedule.updates state).2).1
    (selectRunnable schedule.actions (runUpdates schedule.updates state).2).2 with
  | error fault => rfl
  | ok after => rfl

end Schedule

end Cubesat
