import Cubesat.Proofs.Mission.Course
import Mathlib.Data.List.Induction

/-!
What a mission cycle does, in closed form.

All updates come first, each on the state that the one before it has left; the
checks and the conditions then see that state, and what they say about it is
settled before any action runs. The tables of a loop have a fixed capacity. They
hold what has been offered, in that order and as far as there is room, and no
cycle of theirs overflows one of the tables that it fills.
-/

namespace Cubesat

universe u

namespace Schedule

variable {State : Type u}

def observed (schedule : Schedule State) (state : State) : State :=
  schedule.updates.foldl (fun state update => (update.run state).2) state

def observations (schedule : Schedule State) (state : State) : List (String × UpdateResult) :=
  List.zipWith (fun update before => (update.name, (update.run before).1)) schedule.updates
    (schedule.updates.scanl (fun state update => (update.run state).2) state)

def noted (actions : List (Action State)) (state : State) : State :=
  actions.foldl (fun state action => (action.condition state).2) state

def held (actions : List (Action State)) (state : State) : List (Action State) :=
  actions.filter fun action => (action.condition state).1

/-- No condition changes what a later one says. -/
def Apart (actions : List (Action State)) : Prop :=
  actions.Pairwise fun earlier later =>
    ∀ state, (later.condition (earlier.condition state).2).1 = (later.condition state).1

theorem noted_of_pure {actions : List (Action State)} (state : State)
    (pure : ∀ action ∈ actions, ∀ state, (action.condition state).2 = state) :
    noted actions state = state := by
  induction actions with
  | nil => rfl
  | cons action rest inductionHypothesis =>
      have unchanged := pure action List.mem_cons_self state
      have later := inductionHypothesis fun other membership =>
        pure other (List.mem_cons_of_mem _ membership)
      unfold noted at later ⊢
      rw [List.foldl_cons, unchanged, later]

theorem runUpdates_eq (updates : List (Update State)) (state : State) :
    runUpdates updates state =
      (List.zipWith (fun update before => (update.name, (update.run before).1)) updates
          (updates.scanl (fun state update => (update.run state).2) state),
        updates.foldl (fun state update => (update.run state).2) state) := by
  induction updates generalizing state with
  | nil => rfl
  | cons update rest inductionHypothesis =>
      rw [runUpdates, inductionHypothesis, List.scanl_cons]
      rfl

theorem selectRunnable_eq {actions : List (Action State)} (apart : Apart actions)
    (state : State) :
    selectRunnable actions state = (held actions state, noted actions state) := by
  induction actions generalizing state with
  | nil => rfl
  | cons action rest inductionHypothesis =>
      obtain ⟨unchanged, apartLater⟩ := List.pairwise_cons.mp apart
      have same : held rest (action.condition state).2 = held rest state := by
        apply List.filter_congr
        intro other membership
        exact unchanged other membership state
      rw [selectRunnable, inductionHypothesis apartLater, same]
      unfold held
      rw [List.filter_cons]
      rfl

/-- The cycle, written without asking one action after the other. -/
theorem runCycle_eq {schedule : Schedule State} (apart : Apart schedule.actions) (cycle : UInt64)
    (state : State) :
    schedule.runCycle cycle state =
      (executeAll (held schedule.actions (schedule.observed state))
          (noted schedule.actions (schedule.observed state))).map fun after =>
        ({ cycle
           updates := schedule.observations state
           verifications := runVerifies schedule.verifies (schedule.observed state)
           executed := (held schedule.actions (schedule.observed state)).map (·.name) },
          after) := by
  unfold runCycle
  rw [runUpdates_eq]
  simp only [selectRunnable_eq apart]
  rfl

/-- What runs depends on the states that the updates leave, and on nothing that they report. -/
theorem runCycle_congr {schedule other : Schedule State}
    (actions : other.actions = schedule.actions)
    (updates : other.updates.map (fun update state => (update.run state).2) =
      schedule.updates.map (fun update state => (update.run state).2))
    (cycle : UInt64) (state : State) :
    (other.runCycle cycle state).map (fun done => (done.1.executed, done.2)) =
      (schedule.runCycle cycle state).map (fun done => (done.1.executed, done.2)) := by
  have leaves (entries : List (Update State)) :
      (runUpdates entries state).2 =
        (entries.map (fun update state => (update.run state).2)).foldl
          (fun state change => change state) state := by
    rw [runUpdates_eq, List.foldl_map]
  have same : (runUpdates other.updates state).2 = (runUpdates schedule.updates state).2 := by
    rw [leaves, leaves, updates]
  unfold runCycle
  dsimp only
  rw [same, actions]
  cases executeAll (selectRunnable schedule.actions (runUpdates schedule.updates state).2).1
    (selectRunnable schedule.actions (runUpdates schedule.updates state).2).2 <;> rfl

section Tables

variable {Entry : Type u}

/-- A table of a fixed capacity to which an entry is added: a full one drops it. -/
def pushWithin (capacity : Nat) (table : List Entry) (entry : Entry) : List Entry :=
  if table.length < capacity then table ++ [entry] else table

def fill (capacity : Nat) (entries : List Entry) : List Entry :=
  entries.foldl (pushWithin capacity) []

theorem pushWithin_take (capacity : Nat) (entries : List Entry) (entry : Entry) :
    pushWithin capacity (entries.take capacity) entry = (entries ++ [entry]).take capacity := by
  unfold pushWithin
  rw [List.length_take]
  split
  case isTrue room =>
    have short : entries.length < capacity := by omega
    rw [List.take_of_length_le (Nat.le_of_lt short), List.take_of_length_le]
    rw [List.length_append]
    exact short
  case isFalse full =>
    rw [List.take_append_of_le_length (by omega)]

theorem fill_eq_take (capacity : Nat) (entries : List Entry) :
    fill capacity entries = entries.take capacity := by
  induction entries using List.reverseRecOn with
  | nil => rw [List.take_nil]; rfl
  | append_singleton entries entry inductionHypothesis =>
      unfold fill at inductionHypothesis ⊢
      rw [List.foldl_append, inductionHypothesis, List.foldl_cons, List.foldl_nil, pushWithin_take]

theorem fill_of_le {capacity : Nat} {entries : List Entry} (room : entries.length ≤ capacity) :
    fill capacity entries = entries := by
  rw [fill_eq_take, List.take_of_length_le room]

theorem length_take_lt {capacity : Nat} {entries : List Entry} :
    (entries.take capacity).length < capacity ↔ entries.length < capacity := by
  rw [List.length_take]
  omega

/-- A cycle that keeps all that it collects in tables of a fixed capacity. -/
def runCycleInTables (schedule : Schedule State) (cycle : UInt64) (state : State) :
    Except Fault (CycleReport × State) :=
  let observed := runUpdates schedule.updates state
  let verifications := runVerifies schedule.verifies observed.2
  let asked := selectRunnable schedule.actions observed.2
  let runnable := fill maxActions asked.1
  (executeAll runnable asked.2).map fun state =>
    ({ cycle
       updates := fill maxUpdates observed.1
       verifications := fill maxVerifies verifications
       executed := fill maxActions (runnable.map (·.name)) }, state)

structure Bounded (schedule : Schedule State) : Prop where
  updates : schedule.updates.length ≤ maxUpdates
  verifies : schedule.verifies.length ≤ maxVerifies
  actions : schedule.actions.length ≤ maxActions

/-- The entries that find room, of all that are offered. -/
def registered (offered : Schedule State) : Schedule State :=
  { updates := offered.updates.take maxUpdates
    verifies := offered.verifies.take maxVerifies
    actions := offered.actions.take maxActions }

theorem bounded_registered (offered : Schedule State) : offered.registered.Bounded :=
  ⟨List.length_take_le _ _, List.length_take_le _ _, List.length_take_le _ _⟩

theorem names_runUpdates (updates : List (Update State)) (state : State) :
    (runUpdates updates state).1.map Prod.fst = updates.map Update.name := by
  induction updates generalizing state with
  | nil => rfl
  | cons update rest inductionHypothesis =>
      exact congrArg (update.name :: ·) (inductionHypothesis (update.run state).2)

theorem runCycleInTables_eq {schedule : Schedule State} (bounded : schedule.Bounded)
    (cycle : UInt64) (state : State) :
    schedule.runCycleInTables cycle state = schedule.runCycle cycle state := by
  have updates : (runUpdates schedule.updates state).1.length ≤ maxUpdates := by
    have names := congrArg List.length (names_runUpdates schedule.updates state)
    rw [List.length_map, List.length_map] at names
    exact names ▸ bounded.updates
  have verifications : (runVerifies schedule.verifies
      (runUpdates schedule.updates state).2).length ≤ maxVerifies := by
    rw [runVerifies, List.length_map]
    exact bounded.verifies
  have runnable : (selectRunnable schedule.actions
      (runUpdates schedule.updates state).2).1.length ≤ maxActions :=
    Nat.le_trans (selectRunnable_sublist _ _).length_le bounded.actions
  unfold runCycleInTables runCycle
  dsimp only
  rw [fill_of_le updates, fill_of_le verifications, fill_of_le runnable,
    fill_of_le (by rw [List.length_map]; exact runnable)]

end Tables

end Schedule

namespace MissionLoop

variable {State : Type u}

/--
A loop that has run a number of cycles: entries are offered for registration,
with room for them or not, and commands change the state, in any order and also
between cycles.
-/
inductive Ran : Schedule State → Nat → MissionLoop State → Prop
  | start (state : State) : Ran .empty 0 (.start state)
  | addUpdate {offered : Schedule State} {cycles : Nat} {mission : MissionLoop State}
      (ran : Ran offered cycles mission) (update : Update State) :
      Ran { offered with updates := offered.updates ++ [update] } cycles
        (mission.register (Schedule.addUpdate update)).2
  | addVerify {offered : Schedule State} {cycles : Nat} {mission : MissionLoop State}
      (ran : Ran offered cycles mission) (verify : Verify State) :
      Ran { offered with verifies := offered.verifies ++ [verify] } cycles
        (mission.register (Schedule.addVerify verify)).2
  | addAction {offered : Schedule State} {cycles : Nat} {mission : MissionLoop State}
      (ran : Ran offered cycles mission) (action : Action State) :
      Ran { offered with actions := offered.actions ++ [action] } cycles
        (mission.register (Schedule.addAction action)).2
  | command {offered : Schedule State} {cycles : Nat} {mission : MissionLoop State}
      (ran : Ran offered cycles mission) (state : State) :
      Ran offered cycles { mission with state }
  | cycle {offered : Schedule State} {cycles : Nat} {mission later : MissionLoop State}
      {report : CycleReport} (ran : Ran offered cycles mission)
      (done : mission.runCycle = .ok (report, later)) : Ran offered (cycles + 1) later

section Registration

variable (mission : MissionLoop State)

theorem register_addUpdate (update : Update State) :
    mission.register (Schedule.addUpdate update) =
      (if mission.schedule.updates.length < Schedule.maxUpdates then .ok ()
        else .error (.tooManyUpdates update.name),
        { mission with
          schedule :=
            { mission.schedule with
              updates :=
                Schedule.pushWithin Schedule.maxUpdates mission.schedule.updates update } }) := by
  unfold register Schedule.addUpdate Schedule.pushWithin
  split_ifs <;> rfl

theorem register_addVerify (verify : Verify State) :
    mission.register (Schedule.addVerify verify) =
      (if mission.schedule.verifies.length < Schedule.maxVerifies then .ok ()
        else .error (.tooManyVerifies verify.name),
        { mission with
          schedule :=
            { mission.schedule with
              verifies :=
                Schedule.pushWithin Schedule.maxVerifies mission.schedule.verifies verify } }) := by
  unfold register Schedule.addVerify Schedule.pushWithin
  split_ifs <;> rfl

theorem register_addAction (action : Action State) :
    mission.register (Schedule.addAction action) =
      (if mission.schedule.actions.length < Schedule.maxActions then .ok ()
        else .error (.tooManyActions action.name),
        { mission with
          schedule :=
            { mission.schedule with
              actions :=
                Schedule.pushWithin Schedule.maxActions mission.schedule.actions action } }) := by
  unfold register Schedule.addAction Schedule.pushWithin
  split_ifs <;> rfl

end Registration

/--
The tables hold what has been offered, in that order and as far as they go. An
entry is refused only by a full table.
-/
structure Registers (offered : Schedule State) (mission : MissionLoop State) : Prop where
  entries : mission.schedule = offered.registered
  addUpdate : ∀ update, (mission.register (Schedule.addUpdate update)).1 =
    if offered.updates.length < Schedule.maxUpdates then .ok ()
    else .error (.tooManyUpdates update.name)
  addVerify : ∀ verify, (mission.register (Schedule.addVerify verify)).1 =
    if offered.verifies.length < Schedule.maxVerifies then .ok ()
    else .error (.tooManyVerifies verify.name)
  addAction : ∀ action, (mission.register (Schedule.addAction action)).1 =
    if offered.actions.length < Schedule.maxActions then .ok ()
    else .error (.tooManyActions action.name)

theorem runCycle_keeps {mission later : MissionLoop State} {report : CycleReport}
    (done : mission.runCycle = .ok (report, later)) :
    later.cycleCount = mission.cycleCount + 1 ∧ later.schedule = mission.schedule := by
  unfold runCycle at done
  dsimp only at done
  cases ran : mission.schedule.runCycle (mission.cycleCount + 1) mission.state with
  | error fault =>
      rw [ran] at done
      cases done
  | ok result =>
      rw [ran] at done
      cases done
      exact ⟨rfl, rfl⟩

namespace Ran

variable {offered : Schedule State} {cycles : Nat} {mission : MissionLoop State}
  (ran : Ran offered cycles mission)

include ran

theorem cycleCount_eq : mission.cycleCount = .ofNat cycles := by
  induction ran with
  | start state => rfl
  | addUpdate ran update inductionHypothesis =>
      rw [register_addUpdate]
      exact inductionHypothesis
  | addVerify ran verify inductionHypothesis =>
      rw [register_addVerify]
      exact inductionHypothesis
  | addAction ran action inductionHypothesis =>
      rw [register_addAction]
      exact inductionHypothesis
  | command ran state inductionHypothesis => exact inductionHypothesis
  | cycle ran done inductionHypothesis =>
      rw [(runCycle_keeps done).1, inductionHypothesis, UInt64.ofNat_add]
      rfl

theorem schedule_eq : mission.schedule = offered.registered := by
  induction ran with
  | start state => rfl
  | addUpdate ran update inductionHypothesis =>
      rw [register_addUpdate, inductionHypothesis]
      unfold Schedule.registered
      rw [Schedule.pushWithin_take]
  | addVerify ran verify inductionHypothesis =>
      rw [register_addVerify, inductionHypothesis]
      unfold Schedule.registered
      rw [Schedule.pushWithin_take]
  | addAction ran action inductionHypothesis =>
      rw [register_addAction, inductionHypothesis]
      unfold Schedule.registered
      rw [Schedule.pushWithin_take]
  | command ran state inductionHypothesis => exact inductionHypothesis
  | cycle ran done inductionHypothesis => exact (runCycle_keeps done).2.trans inductionHypothesis

theorem registers : Registers offered mission where
  entries := ran.schedule_eq
  addUpdate update := by
    rw [register_addUpdate, ran.schedule_eq]
    exact if_congr Schedule.length_take_lt rfl rfl
  addVerify verify := by
    rw [register_addVerify, ran.schedule_eq]
    exact if_congr Schedule.length_take_lt rfl rfl
  addAction action := by
    rw [register_addAction, ran.schedule_eq]
    exact if_congr Schedule.length_take_lt rfl rfl

end Ran

/--
A cycle applies all updates in the order of their registration, each on the
state that the one before has left. It checks the state that they all have left,
and executes, in order, the actions whose condition held on that state, whatever
the earlier ones among them have changed. Nothing that an update or a check
reports decides what runs, and the report has all of it and the number of the
cycle. What is registered is what was offered, up to the room in the tables.
-/
theorem runs_what_held {offered : Schedule State} {cycles : Nat} {mission : MissionLoop State}
    (ran : Ran offered cycles mission) (apart : Schedule.Apart offered.registered.actions) :
    let schedule := offered.registered
    let observed := schedule.observed mission.state
    let noted := Schedule.noted schedule.actions observed
    let held := Schedule.held schedule.actions observed
    Registers offered mission ∧
      mission.runCycle =
        (held.foldlM (fun state (action : Action State) => action.execute state) noted).map
          (fun after =>
            ({ cycle := .ofNat (cycles + 1)
               updates := schedule.observations mission.state
               verifications := schedule.verifies.map fun verify =>
                 (verify.name, verify.run observed)
               executed := held.map (·.name) },
              { mission with state := after, cycleCount := .ofNat (cycles + 1) })) ∧
      (schedule.observations mission.state).map (·.1) = schedule.updates.map (·.name) ∧
      (∀ number : UInt64, schedule.runCycleInTables number mission.state =
        schedule.runCycle number mission.state) ∧
      ((∀ action ∈ schedule.actions, ∀ state, (action.condition state).2 = state) →
        noted = observed) ∧
      ∀ (number : UInt64) (other : Schedule State), other.actions = schedule.actions →
        other.updates.map (fun update state => (update.run state).2) =
          schedule.updates.map (fun update state => (update.run state).2) →
        (other.runCycle number mission.state).map (fun done => (done.1.executed, done.2)) =
          (schedule.runCycle number mission.state).map
            (fun done => (done.1.executed, done.2)) := by
  intro schedule observed noted held
  refine ⟨ran.registers, ?_, ?_, ?_, ?_, ?_⟩
  · have number : mission.cycleCount + 1 = .ofNat (cycles + 1) := by
      rw [ran.cycleCount_eq, UInt64.ofNat_add]
      rfl
    unfold runCycle
    dsimp only
    rw [number, ran.schedule_eq, Schedule.runCycle_eq apart]
    change Except.map _ (Except.map _ (Schedule.executeAll held noted)) =
      Except.map _ (Schedule.executeAll held noted)
    cases Schedule.executeAll held noted with
    | error fault => rfl
    | ok after => rfl
  · have names := Schedule.names_runUpdates schedule.updates mission.state
    rw [Schedule.runUpdates_eq] at names
    exact names
  · intro number
    exact Schedule.runCycleInTables_eq offered.bounded_registered number mission.state
  · exact Schedule.noted_of_pure observed
  · intro number other actions updates
    exact Schedule.runCycle_congr actions updates number mission.state

section Staged

def broken : Update (Nat × List String) where
  name := "broken"
  run state := (.failure, state)

def sensor : Update (Nat × List String) where
  name := "sensor"
  run state := (.ok, (state.1 - 1, state.2))

def doubtful : Verify (Nat × List String) where
  name := "doubtful"
  run _ := .failure

def first : Action (Nat × List String) where
  name := "first"
  condition state := (state.1 == 0, (state.1, "asked" :: state.2))
  execute state := .ok (state.1 + 1, state.2)

/-- Its condition no longer holds once the first action has run. -/
def second : Action (Nat × List String) :=
  .ofPure "second" (fun state => state.1 == 0) fun state => .ok (state.1 + 10, state.2)

/-- Its condition holds only once the first action has run. -/
def third : Action (Nat × List String) :=
  .ofPure "third" (fun state => 0 < state.1) fun state => .ok (state.1 + 100, state.2)

def staged : Schedule (Nat × List String) :=
  { updates := [broken, sensor], verifies := [doubtful], actions := [first, second, third] }

theorem runs_what_held_staged :
    let mission : MissionLoop (Nat × List String) :=
      { schedule := staged, state := (1, []), cycleCount := 0 }
    Ran staged 0 mission ∧ Schedule.Apart staged.registered.actions ∧
      (mission.register (Schedule.addVerify doubtful)).1 = .ok () ∧
      mission.runCycle =
        .ok ({ cycle := 1
               updates := [("broken", .failure), ("sensor", .ok)]
               verifications := [("doubtful", .failure)]
               executed := ["first", "second"] },
          { mission with state := (11, ["asked"]), cycleCount := 1 }) := by
  intro mission
  have observing := ((Ran.start (1, [])).addUpdate broken).addUpdate sensor
  have checked := observing.addVerify doubtful
  have ran : Ran staged 0 mission := ((checked.addAction first).addAction second).addAction third
  have apart : Schedule.Apart staged.registered.actions := by
    simp [staged, Schedule.registered, Schedule.maxActions, Schedule.Apart, first, second, third,
      Action.ofPure]
  obtain ⟨registers, runs, -⟩ := runs_what_held ran apart
  exact ⟨ran, apart, registers.addVerify doubtful, runs⟩

end Staged

end MissionLoop

end Cubesat
