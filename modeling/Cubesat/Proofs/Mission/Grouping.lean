import Cubesat.Mission.Action
import Mathlib.Tactic.Common

/-!
Composite actions within composite actions.

However the members of a composite action are divided into groups, and these
into groups again, it is due when the flat list of the members is, and a pass
through it executes the same members in the same order. The order of the
members is all that a grouping is.
-/

namespace Cubesat

universe u v

/-- Members in groups, and these in groups again; the members are known by their labels. -/
inductive Grouping (Label : Type u) where
  | single (label : Label)
  | group (name : String) (parts : List (Grouping Label))

namespace Grouping

variable {Label : Type u} {State : Type v}

mutual

def labels : Grouping Label → List Label
  | single label => [label]
  | group _ parts => allLabels parts

def allLabels : List (Grouping Label) → List Label
  | [] => []
  | part :: rest => part.labels ++ allLabels rest

end

mutual

/-- The action that a grouping is, with a composite action for every group. -/
def action (wire : Label → Action State) : Grouping Label → Action State
  | single label => wire label
  | group name parts => .composite name (allActions wire parts)

def allActions (wire : Label → Action State) : List (Grouping Label) → List (Action State)
  | [] => []
  | part :: rest => part.action wire :: allActions wire rest

end

end Grouping

namespace Action

variable {Label : Type u} {State : Type v}

def Quiet (action : Action State) : Prop :=
  ∀ state, (action.condition state).2 = state

/-- The action, which puts its label at the end of a log when it is executed. -/
def logged (label : Label) (action : Action State) : Action (State × List Label) where
  name := action.name
  condition state := ((action.condition state.1).1, (action.condition state.1).2, state.2)
  execute state := (action.execute state.1).map fun after => (after, state.2 ++ [label])

theorem Quiet.logged {action : Action State} (quiet : action.Quiet) (label : Label) :
    (action.logged label).Quiet := by
  intro state
  exact Prod.ext (quiet state.1) rfl

theorem Quiet.condition_eq {action : Action State} (quiet : action.Quiet) (state : State) :
    action.condition state = ((action.condition state).1, state) :=
  Prod.ext rfl (quiet state)

theorem runEach_cons (first : Action State) (rest : List (Action State)) (state : State) :
    runEach (first :: rest) state = (first.runIfRunnable state).bind (runEach rest) :=
  rfl

theorem runEach_append (front rest : List (Action State)) (state : State) :
    runEach (front ++ rest) state = (runEach front state).bind (runEach rest) := by
  induction front generalizing state with
  | nil => rfl
  | cons first front inductionHypothesis =>
      rw [List.cons_append, runEach_cons, runEach_cons]
      cases first.runIfRunnable state with
      | error fault => rfl
      | ok middle => exact inductionHypothesis middle

theorem runEach_singleton (action : Action State) (state : State) :
    runEach [action] state = action.runIfRunnable state := by
  rw [runEach_cons]
  cases action.runIfRunnable state with
  | error fault => rfl
  | ok after => rfl

theorem Quiet.runIfRunnable_of_due {action : Action State} (quiet : action.Quiet) {state : State}
    (due : (action.condition state).1 = true) :
    action.runIfRunnable state = action.execute state := by
  unfold runIfRunnable
  dsimp only
  rw [if_pos due, quiet state]

theorem Quiet.runIfRunnable_of_idle {action : Action State} (quiet : action.Quiet) {state : State}
    (idle : (action.condition state).1 = false) : action.runIfRunnable state = .ok state := by
  unfold runIfRunnable
  dsimp only
  rw [idle, quiet state]
  rfl

theorem Quiet.runIfRunnable_logged {action : Action State} (quiet : action.Quiet) (label : Label)
    (state : State) (log : List Label) :
    (action.logged label).runIfRunnable (state, log) =
      if (action.condition state).1 then
        (action.execute state).map fun after => (after, log ++ [label])
      else
        .ok (state, log) := by
  unfold runIfRunnable Action.logged
  dsimp only
  rw [quiet state]

/-- Members that are not due in a state leave it as it is, so they are never due in a pass. -/
theorem runEach_of_idle {actions : List (Action State)} (quiet : ∀ action ∈ actions, action.Quiet)
    {state : State} (idle : ∀ action ∈ actions, (action.condition state).1 = false) :
    runEach actions state = .ok state := by
  induction actions with
  | nil => rfl
  | cons first rest inductionHypothesis =>
      rw [List.forall_mem_cons] at quiet idle
      rw [runEach_cons, quiet.1.runIfRunnable_of_idle idle.1]
      exact inductionHypothesis quiet.2 idle.2

end Action

/--
A pass through members in their order: those that are executed, and what it ends
with. A member is executed just if its condition holds in the state that the
members before it have left; nothing comes after one that stops.
-/
inductive Pass {Label : Type u} {State : Type v} (wire : Label → Action State) :
    List Label → State → List Label → Except Fault State → Prop
  | done (state : State) : Pass wire [] state [] (.ok state)
  | executes {label : Label} {rest executed : List Label} {state middle : State}
      {outcome : Except Fault State} (due : ((wire label).condition state).1 = true)
      (returned : (wire label).execute state = .ok middle)
      (others : Pass wire rest middle executed outcome) :
      Pass wire (label :: rest) state (label :: executed) outcome
  | stops {label : Label} (rest : List Label) {state : State} {fault : Fault}
      (due : ((wire label).condition state).1 = true)
      (stopped : (wire label).execute state = .error fault) :
      Pass wire (label :: rest) state [label] (.error fault)
  | skips {label : Label} {rest executed : List Label} {state : State}
      {outcome : Except Fault State} (idle : ((wire label).condition state).1 = false)
      (others : Pass wire rest state executed outcome) :
      Pass wire (label :: rest) state executed outcome

namespace Pass

variable {Label : Type u} {State : Type v} {wire : Label → Action State}
  {labels executed : List Label} {state : State} {outcome : Except Fault State}

theorem unique {others : List Label} {ended : Except Fault State}
    (pass : Pass wire labels state executed outcome) (again : Pass wire labels state others ended) :
    others = executed ∧ ended = outcome := by
  induction pass generalizing others ended with
  | done state =>
      cases again
      exact ⟨rfl, rfl⟩
  | executes due returned _ inductionHypothesis =>
      cases again with
      | executes _ returnedToo rest =>
          cases returned.symm.trans returnedToo
          obtain ⟨rfl, rfl⟩ := inductionHypothesis rest
          exact ⟨rfl, rfl⟩
      | stops _ _ stopped => cases returned.symm.trans stopped
      | skips idle _ => cases due.symm.trans idle
  | stops rest due stopped =>
      cases again with
      | executes _ returned _ => cases stopped.symm.trans returned
      | stops _ _ stoppedToo =>
          cases stopped.symm.trans stoppedToo
          exact ⟨rfl, rfl⟩
      | skips idle _ => cases due.symm.trans idle
  | skips idle _ inductionHypothesis =>
      cases again with
      | executes due _ _ => cases due.symm.trans idle
      | stops _ due _ => cases due.symm.trans idle
      | skips _ rest => exact inductionHypothesis rest

variable (quiet : ∀ label, (wire label).Quiet)

include quiet

theorem exists_of_runEach (labels : List Label) (state : State) :
    ∃ executed, Pass wire labels state executed (Action.runEach (labels.map wire) state) := by
  induction labels generalizing state with
  | nil => exact ⟨[], .done state⟩
  | cons label rest inductionHypothesis =>
      rw [List.map_cons, Action.runEach_cons]
      cases asked : ((wire label).condition state).1 with
      | false =>
          rw [(quiet label).runIfRunnable_of_idle asked]
          obtain ⟨executed, others⟩ := inductionHypothesis state
          exact ⟨executed, .skips asked others⟩
      | true =>
          rw [(quiet label).runIfRunnable_of_due asked]
          cases ended : (wire label).execute state with
          | error fault => exact ⟨[label], .stops rest asked ended⟩
          | ok middle =>
              obtain ⟨executed, others⟩ := inductionHypothesis middle
              exact ⟨label :: executed, .executes asked ended others⟩

/-- Members that keep a log write down what a pass executes. -/
theorem runEach_logged_eq (pass : Pass wire labels state executed outcome) (log : List Label) :
    Action.runEach (labels.map fun label => (wire label).logged label) (state, log) =
      outcome.map fun after => (after, log ++ executed) := by
  induction pass generalizing log with
  | done state => simp [Action.runEach, Except.map, pure, Except.pure]
  | @executes label rest executed state middle outcome due returned _ inductionHypothesis =>
      have entered : ((wire label).logged label).runIfRunnable (state, log) =
          .ok (middle, log ++ [label]) := by
        rw [(quiet label).runIfRunnable_logged, if_pos due, returned]
        rfl
      rw [List.map_cons, Action.runEach_cons, entered]
      refine (inductionHypothesis (log ++ [label])).trans ?_
      rw [List.append_assoc, List.singleton_append]
  | @stops label rest state fault due stopped =>
      rw [List.map_cons, Action.runEach_cons, (quiet label).runIfRunnable_logged, if_pos due,
        stopped]
      rfl
  | @skips label rest executed state outcome idle _ inductionHypothesis =>
      rw [List.map_cons, Action.runEach_cons, (quiet label).runIfRunnable_logged, idle]
      exact inductionHypothesis log

end Pass

namespace Grouping

variable {Label : Type u} {State : Type v} {wire : Label → Action State}

mutual

theorem condition_action (quiet : ∀ label, (wire label).Quiet) (grouping : Grouping Label)
    (state : State) :
    (grouping.action wire).condition state =
      (grouping.labels.any fun label => ((wire label).condition state).1, state) := by
  match grouping with
  | single label =>
      simp only [action, labels, List.any_cons, List.any_nil, Bool.or_false]
      exact (quiet label).condition_eq state
  | group name parts => exact anyRunnable_allActions quiet parts state

theorem anyRunnable_allActions (quiet : ∀ label, (wire label).Quiet)
    (parts : List (Grouping Label)) (state : State) :
    Action.anyRunnable (allActions wire parts) state =
      ((allLabels parts).any fun label => ((wire label).condition state).1, state) := by
  match parts with
  | [] => rfl
  | part :: rest =>
      rw [allActions, Action.anyRunnable, condition_action quiet part state, allLabels,
        List.any_append]
      dsimp only
      rw [anyRunnable_allActions quiet rest state]
      cases part.labels.any fun label => ((wire label).condition state).1 with
      | false => rfl
      | true => rfl

end

mutual

/-- A group that is not due is passed over, and so would be each of its members. -/
theorem runIfRunnable_action (quiet : ∀ label, (wire label).Quiet) (grouping : Grouping Label)
    (state : State) :
    (grouping.action wire).runIfRunnable state =
      Action.runEach (grouping.labels.map wire) state := by
  match grouping with
  | single label => exact (Action.runEach_singleton (wire label) state).symm
  | group name parts =>
      unfold Action.runIfRunnable
      rw [condition_action quiet (group name parts) state]
      dsimp only
      split
      case isTrue => exact runEach_allActions quiet parts state
      case isFalse idle =>
        rw [Bool.not_eq_true, List.any_eq_false] at idle
        refine (Action.runEach_of_idle ?_ ?_).symm
        · rw [List.forall_mem_map]
          exact fun label _ => quiet label
        · rw [List.forall_mem_map]
          exact fun label membership => Bool.eq_false_iff.mpr (idle label membership)

theorem runEach_allActions (quiet : ∀ label, (wire label).Quiet) (parts : List (Grouping Label))
    (state : State) :
    Action.runEach (allActions wire parts) state =
      Action.runEach ((allLabels parts).map wire) state := by
  match parts with
  | [] => rfl
  | part :: rest =>
      rw [allActions, Action.runEach_cons, runIfRunnable_action quiet part state, allLabels,
        List.map_append, Action.runEach_append]
      cases Action.runEach (part.labels.map wire) state with
      | error fault => rfl
      | ok middle => exact runEach_allActions quiet rest middle

end

@[simp]
theorem allLabels_map_single (labels : List Label) : allLabels (labels.map single) = labels := by
  induction labels with
  | nil => rfl
  | cons label rest inductionHypothesis =>
      rw [List.map_cons, allLabels, inductionHypothesis]
      rfl

@[simp]
theorem allActions_map_single (labels : List Label) :
    allActions wire (labels.map single) = labels.map wire := by
  induction labels with
  | nil => rfl
  | cons label rest inductionHypothesis =>
      rw [List.map_cons, allActions, inductionHypothesis]
      rfl

/--
A composite action is due exactly when the flat one over its members is, and
comes to the same: one pass through the members, however they are grouped. What
the members write down of it is the same, too.
-/
theorem passes_as_flat (quiet : ∀ label, (wire label).Quiet) (name flatName : String)
    (parts : List (Grouping Label)) (state : State) :
    let nested := (group name parts).action wire
    let flat := Action.composite flatName ((allLabels parts).map wire)
    nested.condition state = flat.condition state ∧
    ((nested.condition state).1 = true ↔
      ∃ label ∈ allLabels parts, ((wire label).condition state).1 = true) ∧
    nested.execute state = flat.execute state ∧
    ∃ executed, Pass wire (allLabels parts) state executed (nested.execute state) ∧
      ∀ log,
        let logging := fun label => (wire label).logged label
        ((group name parts).action logging).execute (state, log) =
            (Action.composite flatName ((allLabels parts).map logging)).execute (state, log) ∧
          ((group name parts).action logging).execute (state, log) =
            (nested.execute state).map fun after => (after, log ++ executed) := by
  intro nested flat
  have due : nested.condition state =
      ((allLabels parts).any fun label => ((wire label).condition state).1, state) :=
    anyRunnable_allActions quiet parts state
  have flatDue : flat.condition state =
      ((allLabels parts).any fun label => ((wire label).condition state).1, state) := by
    have asked := anyRunnable_allActions quiet ((allLabels parts).map single) state
    rw [allActions_map_single, allLabels_map_single] at asked
    exact asked
  have executed : nested.execute state = Action.runEach ((allLabels parts).map wire) state :=
    runEach_allActions quiet parts state
  obtain ⟨entries, pass⟩ := Pass.exists_of_runEach quiet (allLabels parts) state
  rw [← executed] at pass
  refine ⟨due.trans flatDue.symm, ?_, executed, entries, pass, ?_⟩
  · rw [due, List.any_eq_true]
  · intro log logging
    have same := runEach_allActions (fun label => (quiet label).logged label) parts (state, log)
    exact ⟨same, same.trans (pass.runEach_logged_eq quiet log)⟩

def countAt (label : Nat) : Action Nat :=
  .ofPure "count" (fun count => count == label) fun count => .ok (count + 1)

/--
A group that is not due at the start is entered once the member before it has
counted up; the second group is passed over.
-/
theorem passes_as_flat_counting :
    (∀ label, (countAt label).Quiet) ∧
      ((group "outer" [single 0, group "entered" [group "inner" [single 1], single 5, single 2],
          group "passed over" [single 0, single 1], group "empty" []]).action
        fun label => (countAt label).logged label).execute (0, []) = .ok (3, [0, 1, 2]) := by
  have quiet : ∀ label, (countAt label).Quiet := fun _ _ => rfl
  refine ⟨quiet, ?_⟩
  obtain ⟨-, -, -, executed, pass, logged⟩ := passes_as_flat quiet "outer" "flat"
    [single 0, group "entered" [group "inner" [single 1], single 5, single 2],
      group "passed over" [single 0, single 1], group "empty" []] 0
  have counted : Pass countAt [0, 1, 5, 2, 0, 1] 0 [0, 1, 2] (.ok 3) :=
    .executes rfl rfl (.executes rfl rfl (.skips rfl (.executes rfl rfl (.skips rfl
      (.skips rfl (.done 3))))))
  obtain ⟨same, ended⟩ := counted.unique pass
  rw [(logged []).2, ended, same]
  rfl

end Grouping

end Cubesat
