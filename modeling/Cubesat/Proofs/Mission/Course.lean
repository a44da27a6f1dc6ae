import Cubesat.Mission.Schedule
import Mathlib.Order.Defs.Unbundled

/-!
The course of a mission cycle, one entry of the schedule after the other.

A preorder that every entry respects holds from the start of a cycle to each
turn of an action. Whatever a log of the state has gained in a cycle's dispatch
it has gained in the turn of one action.
-/

namespace Cubesat

universe u v

def Preserves {State : Type u} (property : State → Prop) (before after : State) : Prop :=
  property before → property after

instance {State : Type u} (property : State → Prop) : IsPreorder State (Preserves property) where
  refl _ holds := holds
  trans _ _ _ early late holds := late (early holds)

def Grown {State : Type u} {Entry : Type v} (log : State → List Entry) (before after : State) :
    Prop :=
  ∃ fresh, log after = fresh ++ log before

instance {State : Type u} {Entry : Type v} (log : State → List Entry) :
    IsPreorder State (Grown log) where
  refl _ := ⟨[], rfl⟩
  trans := by
    rintro _ _ _ ⟨older, first⟩ ⟨newer, second⟩
    exact ⟨newer ++ older, by rw [second, first, List.append_assoc]⟩

def Gained {State : Type u} {Entry : Type v} (log : State → List Entry) (before after : State)
    (entry : Entry) : Prop :=
  ∃ fresh, log after = fresh ++ log before ∧ entry ∈ fresh

theorem Gained.split {State : Type u} {Entry : Type v} {log : State → List Entry}
    {before middle after : State} {entry : Entry} (gained : Gained log before after entry)
    (first : Grown log before middle) (second : Grown log middle after) :
    Gained log before middle entry ∨ Gained log middle after entry := by
  obtain ⟨older, firstEquality⟩ := first
  obtain ⟨newer, secondEquality⟩ := second
  obtain ⟨fresh, equality, membership⟩ := gained
  have parts : fresh = newer ++ older := by
    rw [secondEquality, firstEquality, ← List.append_assoc] at equality
    exact (List.append_cancel_right equality).symm
  rw [parts, List.mem_append] at membership
  rcases membership with inNewer | inOlder
  · exact .inr ⟨newer, secondEquality, inNewer⟩
  · exact .inl ⟨older, firstEquality, inOlder⟩

theorem not_gained_of_eq {State : Type u} {Entry : Type v} {log : State → List Entry}
    {before after : State} {entry : Entry} (same : log after = log before) :
    ¬ Gained log before after entry := by
  rintro ⟨fresh, equality, membership⟩
  have empty : fresh = [] := by
    rw [same] at equality
    exact List.self_eq_append_left.mp equality
  rw [empty] at membership
  exact List.not_mem_nil membership

theorem Gained.congr {State : Type u} {Entry : Type v} {log : State → List Entry}
    {before after start finish : State} {entry : Entry} (gained : Gained log before after entry)
    (sameStart : log start = log before) (sameFinish : log finish = log after) :
    Gained log start finish entry := by
  obtain ⟨fresh, equality, membership⟩ := gained
  refine ⟨fresh, ?_, membership⟩
  rw [sameStart, sameFinish]
  exact equality

namespace Action

theorem through_execute_eq_ok_iff {Whole : Type u} {Part : Type v} {lens : Lens Whole Part}
    {action : Action Part} {before after : Whole} :
    (action.through lens).execute before = .ok after ↔
      ∃ part, action.execute (lens.get before) = .ok part ∧ after = lens.set part before := by
  unfold through
  dsimp only
  cases action.execute (lens.get before) with
  | error fault => simp [Except.map]
  | ok part => simp [Except.map, eq_comm]

theorem through_execute_eq_error_iff {Whole : Type u} {Part : Type v} {lens : Lens Whole Part}
    {action : Action Part} {before : Whole} {fault : Fault} :
    (action.through lens).execute before = .error fault ↔
      action.execute (lens.get before) = .error fault := by
  unfold through
  dsimp only
  cases action.execute (lens.get before) with
  | error stopped => simp [Except.map]
  | ok part => simp [Except.map]

variable {State : Type u} {along : State → State → Prop} [IsPreorder State along]

/-- The action respects the relation when it is asked for its condition and when it is executed. -/
structure Respects (action : Action State) (along : State → State → Prop) : Prop where
  condition : ∀ state, along state (action.condition state).2
  execute : ∀ before after, action.execute before = .ok after → along before after

theorem runEach_along {members : List (Action State)}
    (respects : ∀ member ∈ members, member.Respects along) {before after : State}
    (executed : runEach members before = .ok after) : along before after := by
  induction members generalizing before with
  | nil =>
      cases executed
      exact Std.Refl.refl _
  | cons member rest inductionHypothesis =>
      have asked := (respects member List.mem_cons_self).condition before
      have later := fun other membership => respects other (List.mem_cons_of_mem member membership)
      simp only [runEach, List.foldlM_cons, runIfRunnable] at executed inductionHypothesis
      split at executed
      · cases done : member.execute (member.condition before).2 with
        | error fault =>
            rw [done] at executed
            cases executed
        | ok middle =>
            rw [done] at executed
            have first := (respects member List.mem_cons_self).execute _ _ done
            exact IsTrans.trans _ _ _ (IsTrans.trans _ _ _ asked first)
              (inductionHypothesis later executed)
      · exact IsTrans.trans _ _ _ asked (inductionHypothesis later executed)

theorem anyRunnable_along {members : List (Action State)}
    (respects : ∀ member ∈ members, member.Respects along) (state : State) :
    along state (anyRunnable members state).2 := by
  induction members generalizing state with
  | nil => exact Std.Refl.refl _
  | cons member rest inductionHypothesis =>
      have asked := (respects member List.mem_cons_self).condition state
      unfold anyRunnable
      dsimp only
      split
      · exact asked
      · exact IsTrans.trans _ _ _ asked (inductionHypothesis
          (fun other membership => respects other (List.mem_cons_of_mem _ membership)) _)

theorem composite_respects {name : String} {members : List (Action State)}
    (respects : ∀ member ∈ members, member.Respects along) :
    (composite name members).Respects along where
  condition := anyRunnable_along respects
  execute _ _ := runEach_along respects

end Action

namespace Schedule

variable {State : Type u}

theorem selectRunnable_sublist (actions : List (Action State)) (state : State) :
    (selectRunnable actions state).1.Sublist actions := by
  induction actions generalizing state with
  | nil => exact .slnil
  | cons action rest inductionHypothesis =>
      unfold selectRunnable
      dsimp only
      split
      · exact (inductionHypothesis _).cons_cons action
      · exact (inductionHypothesis _).cons action

theorem selectRunnable_append (front rest : List (Action State)) (state : State) :
    selectRunnable (front ++ rest) state =
      ((selectRunnable front state).1 ++ (selectRunnable rest (selectRunnable front state).2).1,
        (selectRunnable rest (selectRunnable front state).2).2) := by
  induction front generalizing state with
  | nil => rfl
  | cons action front inductionHypothesis =>
      have later := inductionHypothesis (action.condition state).2
      simp only [List.cons_append, selectRunnable]
      rw [later]
      cases (action.condition state).1 with
      | false => rfl
      | true => rfl

theorem selectRunnable_concat (front : List (Action State)) (last : Action State)
    (state : State) :
    (selectRunnable (front ++ [last]) state).1 =
      (selectRunnable front state).1 ++
        if (last.condition (selectRunnable front state).2).1 then [last] else [] := by
  rw [selectRunnable_append]
  rfl

theorem name_not_mem_selectRunnable {name : String} {actions : List (Action State)}
    (stranger : name ∉ actions.map Action.name) (state : State) :
    name ∉ (selectRunnable actions state).1.map Action.name := by
  intro membership
  have selected := (selectRunnable_sublist actions state).map Action.name
  exact stranger (selected.subset membership)

/-- An action whose name is its own is selected just when its condition holds in its place. -/
theorem name_mem_selectRunnable_iff {front rest : List (Action State)} {action : Action State}
    (ahead : action.name ∉ front.map Action.name) (behind : action.name ∉ rest.map Action.name)
    (state : State) :
    action.name ∈ (selectRunnable (front ++ action :: rest) state).1.map Action.name ↔
      (action.condition (selectRunnable front state).2).1 = true := by
  have notAhead := name_not_mem_selectRunnable ahead state
  have notBehind := name_not_mem_selectRunnable behind
    (action.condition (selectRunnable front state).2).2
  rw [selectRunnable_append, List.map_append, List.mem_append]
  simp only [selectRunnable, notAhead, false_or]
  cases (action.condition (selectRunnable front state).2).1 with
  | false => simpa using notBehind
  | true => simp

theorem runUpdates_concat (front : List (Update State)) (last : Update State) (state : State) :
    (runUpdates (front ++ [last]) state).2 = (last.run (runUpdates front state).2).2 := by
  induction front generalizing state with
  | nil => rfl
  | cons update front inductionHypothesis => exact inductionHypothesis (update.run state).2

theorem executeAll_cons_eq_ok_iff {action : Action State} {rest : List (Action State)}
    {before after : State} :
    executeAll (action :: rest) before = .ok after ↔
      ∃ middle, action.execute before = .ok middle ∧ executeAll rest middle = .ok after := by
  unfold executeAll
  rw [List.foldlM_cons]
  cases action.execute before with
  | error fault => simp [bind, Except.bind]
  | ok middle => simp [bind, Except.bind]

theorem executeAll_append_eq_ok_iff {front rest : List (Action State)} {before after : State} :
    executeAll (front ++ rest) before = .ok after ↔
      ∃ middle, executeAll front before = .ok middle ∧ executeAll rest middle = .ok after := by
  unfold executeAll
  rw [List.foldlM_append]
  cases List.foldlM (fun state (action : Action State) => action.execute state) before front with
  | error fault => simp [bind, Except.bind]
  | ok middle => simp [bind, Except.bind]

theorem executeAll_eq_error_iff {actions : List (Action State)} {start : State} {fault : Fault} :
    executeAll actions start = .error fault ↔
      ∃ ahead action later before, actions = ahead ++ action :: later ∧
        executeAll ahead start = .ok before ∧ action.execute before = .error fault := by
  induction actions generalizing start with
  | nil =>
      constructor
      · intro stopped
        cases stopped
      · rintro ⟨ahead, action, later, before, parts, -⟩
        exact absurd parts.symm (List.append_ne_nil_of_right_ne_nil _ (List.cons_ne_nil _ _))
  | cons first rest inductionHypothesis =>
      cases done : first.execute start with
      | error stopped =>
          have whole : executeAll (first :: rest) start = .error stopped := by
            simp [executeAll, done, bind, Except.bind]
          rw [whole]
          constructor
          · intro same
            exact ⟨[], first, rest, start, rfl, rfl, done.trans same⟩
          · rintro ⟨ahead, action, later, before, parts, executed, failed⟩
            cases ahead with
            | nil =>
                obtain ⟨rfl, -⟩ := List.cons.inj parts
                cases executed
                exact done.symm.trans failed
            | cons other others =>
                obtain ⟨rfl, -⟩ := List.cons.inj parts
                obtain ⟨middle, returned, -⟩ := executeAll_cons_eq_ok_iff.mp executed
                rw [done] at returned
                cases returned
      | ok middle =>
          have whole : executeAll (first :: rest) start = executeAll rest middle := by
            simp [executeAll, done, bind, Except.bind]
          rw [whole, inductionHypothesis]
          constructor
          · rintro ⟨ahead, action, later, before, rfl, executed, failed⟩
            exact ⟨first :: ahead, action, later, before, rfl,
              executeAll_cons_eq_ok_iff.mpr ⟨middle, done, executed⟩, failed⟩
          · rintro ⟨ahead, action, later, before, parts, executed, failed⟩
            cases ahead with
            | nil =>
                obtain ⟨rfl, -⟩ := List.cons.inj parts
                cases executed
                rw [done] at failed
                cases failed
            | cons other others =>
                obtain ⟨rfl, remaining⟩ := List.cons.inj parts
                obtain ⟨next, returned, executed⟩ := executeAll_cons_eq_ok_iff.mp executed
                rw [done] at returned
                cases returned
                exact ⟨others, action, later, before, remaining, executed, failed⟩

theorem runCycle_report {schedule : Schedule State} {cycle : UInt64} {state after : State}
    {report : CycleReport} (ran : schedule.runCycle cycle state = .ok (report, after)) :
    let observed := runUpdates schedule.updates state
    let selected := selectRunnable schedule.actions observed.2
    executeAll selected.1 selected.2 = .ok after ∧
      report =
        { cycle
          updates := observed.1
          verifications := runVerifies schedule.verifies observed.2
          executed := selected.1.map Action.name } := by
  intro observed selected
  unfold runCycle at ran
  dsimp only at ran
  cases executed : executeAll selected.1 selected.2 with
  | error fault =>
      rw [executed] at ran
      cases ran
  | ok finished =>
      rw [executed] at ran
      cases ran
      exact ⟨rfl, rfl⟩

/-- A cycle that returns has executed the actions that it selected after the updates. -/
theorem runCycle_eq_ok {schedule : Schedule State} {cycle : UInt64} {state after : State}
    {report : CycleReport} (ran : schedule.runCycle cycle state = .ok (report, after)) :
    let selected := selectRunnable schedule.actions (runUpdates schedule.updates state).2
    executeAll selected.1 selected.2 = .ok after ∧
      report.executed = selected.1.map Action.name := by
  obtain ⟨executed, rfl⟩ := runCycle_report ran
  exact ⟨executed, rfl⟩

theorem runCycle_verifications {schedule : Schedule State} {cycle : UInt64} {state after : State}
    {report : CycleReport} (ran : schedule.runCycle cycle state = .ok (report, after)) :
    report.verifications =
      runVerifies schedule.verifies (runUpdates schedule.updates state).2 := by
  obtain ⟨-, rfl⟩ := runCycle_report ran
  rfl

/-- Dispatch has come to the action in this state, in a cycle that started in the other one. -/
inductive Turn (schedule : Schedule State) (start : State) (action : Action State)
    (before : State) : Prop
  | intro (ahead later : List (Action State))
      (selected : (selectRunnable schedule.actions (runUpdates schedule.updates start).2).1 =
        ahead ++ action :: later)
      (executed : executeAll ahead
        (selectRunnable schedule.actions (runUpdates schedule.updates start).2).2 = .ok before)

/-- A cycle stops just if an action does so in its turn. -/
theorem runCycle_eq_error_iff {schedule : Schedule State} {cycle : UInt64} {state : State}
    {fault : Fault} :
    schedule.runCycle cycle state = .error fault ↔
      ∃ action before, schedule.Turn state action before ∧
        action.execute before = .error fault := by
  let selected := selectRunnable schedule.actions (runUpdates schedule.updates state).2
  have dispatched : schedule.runCycle cycle state = .error fault ↔
      executeAll selected.1 selected.2 = .error fault := by
    unfold runCycle
    dsimp only
    cases executeAll selected.1 selected.2 with
    | error stopped => simp [Except.map]
    | ok after => simp [Except.map]
  rw [dispatched, executeAll_eq_error_iff]
  constructor
  · rintro ⟨ahead, action, later, before, parts, executed, failed⟩
    exact ⟨action, before, ⟨ahead, later, parts, executed⟩, failed⟩
  · rintro ⟨action, before, ⟨ahead, later, parts, executed⟩, failed⟩
    exact ⟨ahead, action, later, before, parts, executed, failed⟩

section Along

variable {along : State → State → Prop} [IsPreorder State along]

theorem runUpdates_along {updates : List (Update State)}
    (each : ∀ update ∈ updates, ∀ state, along state (update.run state).2) (state : State) :
    along state (runUpdates updates state).2 := by
  induction updates generalizing state with
  | nil => exact Std.Refl.refl _
  | cons update rest inductionHypothesis =>
      have first := each update List.mem_cons_self state
      have later := inductionHypothesis
        (fun other membership => each other (List.mem_cons_of_mem _ membership))
        (update.run state).2
      exact IsTrans.trans _ _ _ first later

theorem selectRunnable_along {actions : List (Action State)}
    (each : ∀ action ∈ actions, ∀ state, along state (action.condition state).2) (state : State) :
    along state (selectRunnable actions state).2 := by
  induction actions generalizing state with
  | nil => exact Std.Refl.refl _
  | cons action rest inductionHypothesis =>
      have first := each action List.mem_cons_self state
      have later := inductionHypothesis
        (fun other membership => each other (List.mem_cons_of_mem _ membership))
        (action.condition state).2
      exact IsTrans.trans _ _ _ first later

theorem executeAll_along {actions : List (Action State)}
    (each : ∀ action ∈ actions, ∀ before after, action.execute before = .ok after →
      along before after)
    {before after : State} (executed : executeAll actions before = .ok after) :
    along before after := by
  induction actions generalizing before with
  | nil =>
      cases executed
      exact Std.Refl.refl _
  | cons action rest inductionHypothesis =>
      obtain ⟨middle, first, later⟩ := executeAll_cons_eq_ok_iff.mp executed
      have reached := inductionHypothesis
        (fun other membership => each other (List.mem_cons_of_mem _ membership)) later
      exact IsTrans.trans _ _ _ (each action List.mem_cons_self _ _ first) reached

/--
Dispatch around one action of the schedule. If the action is not due, a preorder
that the other actions respect holds throughout; otherwise it holds up to the
one turn of the action, and from there on.
-/
theorem dispatch_cases {front rest : List (Action State)} {action : Action State}
    (ahead : ∀ other ∈ front, other.Respects along) (behind : ∀ other ∈ rest, other.Respects along)
    (asks : ∀ state, along state (action.condition state).2) {start after : State}
    (executed : executeAll (selectRunnable (front ++ action :: rest) start).1
      (selectRunnable (front ++ action :: rest) start).2 = .ok after) :
    ((action.condition (selectRunnable front start).2).1 = false → along start after) ∧
      ((action.condition (selectRunnable front start).2).1 = true →
        ∃ before next, along start before ∧ action.execute before = .ok next ∧
          along next after) := by
  have asked := selectRunnable_along (fun other membership => (ahead other membership).condition)
    start
  have askedToo := asks (selectRunnable front start).2
  have askedLater := selectRunnable_along
    (fun other membership => (behind other membership).condition)
    (action.condition (selectRunnable front start).2).2
  have selected := selectRunnable_sublist front start
  have selectedLater := selectRunnable_sublist rest
    (action.condition (selectRunnable front start).2).2
  rw [selectRunnable_append] at executed
  obtain ⟨middle, first, second⟩ := executeAll_append_eq_ok_iff.mp executed
  have prepared := IsTrans.trans _ _ _ (IsTrans.trans _ _ _ asked askedToo) askedLater
  have reached := IsTrans.trans _ _ _ prepared (executeAll_along
    (fun other membership => (ahead other (selected.subset membership)).execute) first)
  have finish {dispatched : State}
      (remaining : executeAll (selectRunnable rest
        (action.condition (selectRunnable front start).2).2).1 dispatched = .ok after) :
      along dispatched after :=
    executeAll_along
      (fun other membership => (behind other (selectedLater.subset membership)).execute) remaining
  simp only [selectRunnable] at second
  constructor
  · intro idle
    rw [idle] at second
    exact IsTrans.trans _ _ _ reached (finish second)
  · intro due
    rw [due] at second
    obtain ⟨next, done, remaining⟩ := executeAll_cons_eq_ok_iff.mp second
    exact ⟨middle, next, reached, done, finish remaining⟩

end Along

/-- What is executed ahead of an action that is not behind a place is ahead of this place. -/
theorem ahead_sublist {front rest : List (Action State)} {place action : Action State}
    {ahead later : List (Action State)} (behind : action ∉ rest)
    (sublist : (ahead ++ action :: later).Sublist (front ++ place :: rest)) :
    ahead.Sublist front := by
  obtain ⟨inFront, inRest, parts, frontSublist, restSublist⟩ := List.sublist_append_iff.mp sublist
  rcases List.append_eq_append_iff.mp parts with ⟨between, rfl, same⟩ | ⟨between, rfl, same⟩
  · exact (List.sublist_append_left ahead between).trans frontSublist
  · cases between with
    | nil => exact (List.append_nil inFront).symm ▸ frontSublist
    | cons first others =>
        -- At most one entry of this part takes the place, and `action` comes after it.
        rw [same] at restSublist
        have inside : (others ++ action :: later).Sublist rest := restSublist.tail
        exact absurd (inside.subset (List.mem_append_right _ List.mem_cons_self)) behind

theorem Turn.mem {schedule : Schedule State} {start before : State} {action : Action State}
    (turn : schedule.Turn start action before) : action ∈ schedule.actions := by
  obtain ⟨ahead, later, selected, -⟩ := turn
  apply (selectRunnable_sublist schedule.actions (runUpdates schedule.updates start).2).subset
  rw [selected]
  exact List.mem_append_right _ List.mem_cons_self

/--
When an action has its turn that is not behind a place, nothing has been
executed but what is ahead of this place.
-/
theorem Turn.reached {schedule : Schedule State} {start before : State}
    {action place : Action State} {front rest : List (Action State)}
    (turn : schedule.Turn start action before)
    (actions : schedule.actions = front ++ place :: rest) (behind : action ∉ rest) :
    ∃ ahead, ahead.Sublist front ∧
      executeAll ahead (selectRunnable schedule.actions
        (runUpdates schedule.updates start).2).2 = .ok before := by
  obtain ⟨ahead, later, selected, executed⟩ := turn
  have sublist := selectRunnable_sublist schedule.actions (runUpdates schedule.updates start).2
  rw [selected, actions] at sublist
  exact ⟨ahead, ahead_sublist behind sublist, executed⟩

theorem turn_of_first {schedule : Schedule State} {start : State} {action : Action State}
    {rest : List (Action State)} (actions : schedule.actions = action :: rest)
    (due : (action.condition (runUpdates schedule.updates start).2).1 = true) :
    schedule.Turn start action
      (selectRunnable schedule.actions (runUpdates schedule.updates start).2).2 := by
  let observed := (runUpdates schedule.updates start).2
  refine .intro [] (selectRunnable rest (action.condition observed).2).1 ?_ rfl
  rw [actions, selectRunnable]
  exact if_pos due

/-- A preorder that all entries but the last action respect holds from the start to every turn. -/
theorem Turn.along {along : State → State → Prop} [IsPreorder State along]
    {schedule : Schedule State} {start before : State} {action last : Action State}
    {front : List (Action State)} (turn : schedule.Turn start action before)
    (actions : schedule.actions = front ++ [last])
    (updates : ∀ update ∈ schedule.updates, ∀ state, along state (update.run state).2)
    (conditions : ∀ action ∈ schedule.actions, ∀ state, along state (action.condition state).2)
    (executions : ∀ action ∈ front, ∀ before after, action.execute before = .ok after →
      along before after) : along start before := by
  obtain ⟨ahead, inFront, executed⟩ := turn.reached actions List.not_mem_nil
  have observed := runUpdates_along updates start
  have asked := selectRunnable_along conditions (runUpdates schedule.updates start).2
  have dispatched := executeAll_along
    (fun other membership => executions other (inFront.subset membership)) executed
  exact IsTrans.trans _ _ _ (IsTrans.trans _ _ _ observed asked) dispatched

theorem exists_turn_of_gained {Entry : Type v} {log : State → List Entry}
    {actions : List (Action State)}
    (grows : ∀ action ∈ actions, ∀ before after, action.execute before = .ok after →
      Grown log before after)
    {start after : State} (executed : executeAll actions start = .ok after) {entry : Entry}
    (gained : Gained log start after entry) :
    ∃ ahead action later before next, actions = ahead ++ action :: later ∧
      executeAll ahead start = .ok before ∧ action.execute before = .ok next ∧
      Gained log before next entry := by
  induction actions generalizing start with
  | nil =>
      cases executed
      exact absurd gained (not_gained_of_eq rfl)
  | cons action rest inductionHypothesis =>
      obtain ⟨middle, first, remaining⟩ := executeAll_cons_eq_ok_iff.mp executed
      have growsLater := fun other membership =>
        grows other (List.mem_cons_of_mem action membership)
      rcases gained.split (grows action List.mem_cons_self _ _ first)
        (executeAll_along growsLater remaining) with here | later
      · exact ⟨[], action, rest, start, middle, rfl, rfl, first, here⟩
      · obtain ⟨ahead, other, others, before, next, parts, reached, done, entryGained⟩ :=
          inductionHypothesis growsLater remaining later
        refine ⟨action :: ahead, other, others, before, next, by rw [parts]; rfl, ?_, done,
          entryGained⟩
        exact executeAll_cons_eq_ok_iff.mpr ⟨middle, first, reached⟩

end Schedule

end Cubesat
