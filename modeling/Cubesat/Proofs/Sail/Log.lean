import Cubesat.Proofs.Sail.Steps
import Mathlib.Data.List.Infix
import Mathlib.Logic.Relation

/-!
The switch operations of the sail opening, over whole runs.

Beside the power system a log is kept of the operations that it was asked for
and of those that it has accepted. Accepted operations are complete copies of
the table, followed by its front up to the current step while a sequence is in
progress. What may be on at the same time is read off the table then.
-/

namespace Cubesat

universe u

open Relation (ReflTransGen)

namespace SailStep

def operations : List SwitchOperation :=
  sequence.map operation

@[simp]
theorem length_operations : operations.length = 8 := rfl

theorem take_operations_succ {count : Nat} {step : SailStep} {rest : List SailStep}
    (remaining : sequence.drop count = step :: rest) :
    operations.take (count + 1) = operations.take count ++ [step.operation] := by
  have next : sequence[count]? = some step := by
    rw [← List.head?_drop, remaining]
    rfl
  rw [List.take_add_one, operations, List.getElem?_map, next]
  rfl

theorem drop_sequence_succ {count : Nat} {step : SailStep} {rest : List SailStep}
    (remaining : sequence.drop count = step :: rest) : sequence.drop (count + 1) = rest := by
  rw [← List.tail_drop, remaining]
  rfl

theorem lt_length_of_drop {count : Nat} {step : SailStep} {rest : List SailStep}
    (remaining : sequence.drop count = step :: rest) : count < sequence.length := by
  by_contra beyond
  rw [List.drop_eq_nil_of_le (Nat.not_lt.mp beyond)] at remaining
  cases remaining

def rounds (count : Nat) : List SwitchOperation :=
  (List.replicate count operations).flatten

theorem rounds_succ (count : Nat) : rounds (count + 1) = rounds count ++ operations := by
  unfold rounds
  rw [List.replicate_succ', List.flatten_append]
  simp

end SailStep

/-- A power system with a log of what it was asked for and of what it has accepted. -/
structure Recorded (Devices : Type u) where
  devices : Devices
  asked : List SwitchOperation
  accepted : List SwitchOperation

def PowerUnit.recording {Devices : Type u} (power : PowerUnit Devices) :
    PowerUnit (Recorded Devices) where
  operate operation recorded :=
    match power.operate operation recorded.devices with
    | (.ok (), devices) =>
        (.ok (),
          { devices
            asked := recorded.asked ++ [operation]
            accepted := recorded.accepted ++ [operation] })
    | (.error error, devices) =>
        (.error error, { recorded with devices, asked := recorded.asked ++ [operation] })
  cycle recorded :=
    let done := power.cycle recorded.devices
    (done.1, { recorded with devices := done.2 })

namespace PowerUnit

variable {Devices : Type u} {power : PowerUnit Devices} {operation : SwitchOperation}
  {recorded later : Recorded Devices}

theorem recording_of_ok (answered : power.recording.operate operation recorded = (.ok (), later)) :
    later.asked = recorded.asked ++ [operation] ∧
      later.accepted = recorded.accepted ++ [operation] := by
  simp only [recording] at answered
  split at answered
  · cases answered
    exact ⟨rfl, rfl⟩
  · cases answered

theorem recording_of_error {error : DeviceError}
    (answered : power.recording.operate operation recorded = (.error error, later)) :
    later.asked = recorded.asked ++ [operation] ∧ later.accepted = recorded.accepted := by
  simp only [recording] at answered
  split at answered
  · cases answered
  · cases answered
    exact ⟨rfl, rfl⟩

end PowerUnit

/-- Whether a switch is on after operations, if all switches were off before. -/
def PowerSwitch.isOn (operations : List SwitchOperation) (switch : PowerSwitch) : Bool :=
  operations.foldl
    (fun on operation => if operation.switch = switch then operation.enabled else on) false

def SailChannel.isPowered (operations : List SwitchOperation) (channel : SailChannel) : Bool :=
  PowerSwitch.isOn operations (.thermalKnife channel) ||
    PowerSwitch.isOn operations (.burnSwitch channel)

/-- What has to hold of the switches of both channels at any moment of a release. -/
structure Interlocked (operations : List SwitchOperation) : Prop where
  knife_of_burn : ∀ channel, PowerSwitch.isOn operations (.burnSwitch channel) = true →
    PowerSwitch.isOn operations (.thermalKnife channel) = true
  one_channel : ¬ (SailChannel.isPowered operations .main = true ∧
    SailChannel.isPowered operations .redundant = true)

namespace SailStep

theorem isOn_operations_append (rest : List SwitchOperation) (switch : PowerSwitch) :
    PowerSwitch.isOn (operations ++ rest) switch = PowerSwitch.isOn rest switch := by
  have off : PowerSwitch.isOn operations switch = false := by
    rcases switch with channel | channel
    all_goals cases channel <;> decide
  unfold PowerSwitch.isOn at off ⊢
  rw [List.foldl_append, off]

theorem isOn_rounds_append (count : Nat) (rest : List SwitchOperation) (switch : PowerSwitch) :
    PowerSwitch.isOn (rounds count ++ rest) switch = PowerSwitch.isOn rest switch := by
  induction count with
  | zero => rfl
  | succ count inductionHypothesis =>
      change PowerSwitch.isOn ((operations ++ rounds count) ++ rest) switch = _
      rw [List.append_assoc, isOn_operations_append]
      exact inductionHypothesis

theorem interlocked_take (count : Nat) : Interlocked (operations.take count) := by
  have table : ∀ count < 9, (∀ channel ∈ [SailChannel.main, SailChannel.redundant],
      PowerSwitch.isOn (operations.take count) (.burnSwitch channel) = true →
        PowerSwitch.isOn (operations.take count) (.thermalKnife channel) = true) ∧
      ¬ (SailChannel.isPowered (operations.take count) .main = true ∧
        SailChannel.isPowered (operations.take count) .redundant = true) := by
    decide
  by_cases early : count < 9
  · constructor
    · intro channel
      exact (table count early).1 channel (by cases channel <;> simp)
    · exact (table count early).2
  · have whole : operations.take count = operations.take 8 := by
      rw [List.take_of_length_le (by rw [length_operations]; omega)]
      rfl
    rw [whole]
    constructor
    · intro channel
      exact (table 8 (by decide)).1 channel (by cases channel <;> simp)
    · exact (table 8 (by decide)).2

/-- A part of the log from its beginning is a number of rounds and the front of one more. -/
theorem eq_of_prefix {count done : Nat} {earlier : List SwitchOperation}
    (isPrefix : earlier <+: rounds count ++ operations.take done) :
    ∃ full begun, earlier = rounds full ++ operations.take begun := by
  induction count generalizing earlier with
  | zero =>
      refine ⟨0, min earlier.length done, ?_⟩
      have front := List.prefix_iff_eq_take.mp isPrefix
      rw [front]
      simp [rounds, List.take_take]
  | succ count inductionHypothesis =>
      have front := List.prefix_iff_eq_take.mp isPrefix
      change earlier = List.take earlier.length
        ((operations ++ rounds count) ++ operations.take done) at front
      rw [List.append_assoc, List.take_append] at front
      by_cases inside : earlier.length ≤ operations.length
      · refine ⟨0, earlier.length, ?_⟩
        rw [Nat.sub_eq_zero_of_le inside, List.take_zero, List.append_nil] at front
        exact front
      · obtain ⟨full, begun, later⟩ := inductionHypothesis
          (List.take_prefix (earlier.length - operations.length) _)
        refine ⟨full + 1, begun, ?_⟩
        rw [front, later, List.take_of_length_le (Nat.le_of_not_le inside), ← List.append_assoc]
        rfl

theorem interlocked_of_prefix {count done : Nat} {earlier : List SwitchOperation}
    (isPrefix : earlier <+: rounds count ++ operations.take done) : Interlocked earlier := by
  obtain ⟨full, begun, rfl⟩ := eq_of_prefix isPrefix
  have front := interlocked_take begun
  constructor
  · intro channel
    rw [isOn_rounds_append, isOn_rounds_append]
    exact front.knife_of_burn channel
  · unfold SailChannel.isPowered
    simp only [isOn_rounds_append]
    exact front.one_channel

end SailStep

namespace SailOpening

variable {Devices : Type u}

/-- Any of the calls to a sail opening, or a change around it. -/
inductive Call (power : PowerUnit Devices) (autoOpen : Option Duration) :
    Context SailOpening (Recorded Devices) → Context SailOpening (Recorded Devices) → Prop
  | request (context : Context SailOpening (Recorded Devices)) :
      Call power autoOpen context { context with task := context.task.requestOpen.2 }
  | update (context : Context SailOpening (Recorded Devices)) :
      Call power autoOpen context (update autoOpen context).2
  | timeChanged (jump : TimeJump) (context : Context SailOpening (Recorded Devices)) :
      Call power autoOpen context { context with task := context.task.timeChanged jump }
  | execute {before after : Context SailOpening (Recorded Devices)}
      (due : condition before.task before.state = true)
      (executed : execute power.recording before = .ok after) :
      Call power autoOpen before after
  | elsewhere (state : SystemState) (devices : Devices)
      (context : Context SailOpening (Recorded Devices)) :
      Call power autoOpen context { context with state, env := { context.env with devices } }

def fresh (state : SystemState) (devices : Devices) : Context SailOpening (Recorded Devices) :=
  { task := .start, state, env := { devices, asked := [], accepted := [] } }

/-- The log consists of complete rounds and the front of one more while it is in progress. -/
structure InOrder (context : Context SailOpening (Recorded Devices)) : Prop where
  accepted : ∃ count, context.env.accepted = SailStep.rounds count ++
    if context.task.inProgress then SailStep.operations.take context.task.step else []
  step_lt : context.task.inProgress = true → context.task.step < SailStep.sequence.length

theorem finishIfDone_inOrder {context : Context SailOpening (Recorded Devices)} {count : Nat}
    (running : context.task.inProgress = true)
    (accepted : context.env.accepted =
      SailStep.rounds count ++ SailStep.operations.take context.task.step) :
    InOrder (finishIfDone context) := by
  unfold finishIfDone
  by_cases done : SailStep.sequence.length ≤ context.task.step
  · rw [if_pos done]
    constructor
    · refine ⟨count + 1, ?_⟩
      rw [SailStep.length_sequence] at done
      rw [SailStep.rounds_succ]
      have whole : SailStep.operations.take context.task.step = SailStep.operations :=
        List.take_of_length_le done
      rw [whole] at accepted
      simpa using accepted
    · intro inProgress
      cases inProgress
  · rw [if_neg done]
    constructor
    · refine ⟨count, ?_⟩
      rw [running]
      exact accepted
    · intro _
      exact Nat.not_le.mp done

/-- Performing what is left of the table keeps the log in order, wherever it stops. -/
theorem perform_inOrder {power : PowerUnit Devices} {count : Nat} {steps : List SailStep}
    {before after : Context SailOpening (Recorded Devices)}
    (running : before.task.inProgress = true)
    (remaining : SailStep.sequence.drop before.task.step = steps)
    (accepted : before.env.accepted =
      SailStep.rounds count ++ SailStep.operations.take before.task.step)
    (performed : perform power.recording steps before = .ok after) : InOrder after := by
  induction steps generalizing before with
  | nil =>
      cases performed
      exact finishIfDone_inOrder running accepted
  | cons step rest inductionHypothesis =>
      -- What is accepted so far is the table up to `step`, and what is left begins with it.
      have inside := SailStep.lt_length_of_drop remaining
      have taken := SailStep.take_operations_succ remaining
      have left := SailStep.drop_sequence_succ remaining
      have grown (env : Recorded Devices)
          (answered : power.recording.operate step.operation before.env = (.ok (), env)) :
          env.accepted =
            SailStep.rounds count ++ SailStep.operations.take (before.task.step + 1) := by
        rw [(PowerUnit.recording_of_ok answered).2, accepted, taken, List.append_assoc]
      rcases perform_cons_cases performed with ⟨error, env, refused, rfl⟩ |
        ⟨nextStep, env, answered, -, -, rfl⟩ | ⟨env, answered, -, remainder⟩
      · constructor
        · refine ⟨count, ?_⟩
          rw [(PowerUnit.recording_of_error refused).2, running]
          exact accepted
        · intro _
          exact inside
      · exact finishIfDone_inOrder running (grown env answered)
      · refine inductionHypothesis ?_ ?_ ?_ remainder
        · exact running
        · exact left
        · exact grown env answered

theorem execute_inOrder {power : PowerUnit Devices}
    {before after : Context SailOpening (Recorded Devices)}
    (due : condition before.task before.state = true)
    (executed : execute power.recording before = .ok after) (inOrder : InOrder before) :
    InOrder after := by
  have running := inProgress_of_condition due
  obtain ⟨count, accepted⟩ := inOrder.accepted
  rw [running] at accepted
  exact perform_inOrder running rfl accepted executed

/-- A sequence that is in progress goes on at the step that it has come to. -/
theorem update_task (autoOpen : Option Duration)
    {context : Context SailOpening (Recorded Devices)}
    (running : context.task.inProgress = true) :
    (update autoOpen context).2.task = { context.task with requested := false } := by
  rcases update_cases autoOpen context with ⟨idle, -⟩ | ⟨-, task, -⟩
  · rw [running] at idle
    contradiction
  · exact task

theorem update_inOrder (autoOpen : Option Duration)
    {context : Context SailOpening (Recorded Devices)} (inOrder : InOrder context) :
    InOrder (update autoOpen context).2 := by
  obtain ⟨count, accepted⟩ := inOrder.accepted
  rcases update_cases autoOpen context with ⟨idle, -, task, -⟩ | ⟨-, task, -⟩
  · rw [idle] at accepted
    constructor
    · refine ⟨count, ?_⟩
      rw [task]
      exact accepted
    · rw [task]
      intro _
      exact (by decide : 0 < SailStep.sequence.length)
  · constructor
    · refine ⟨count, ?_⟩
      rw [task]
      exact accepted
    · rw [task]
      exact inOrder.step_lt

theorem Call.inOrder {power : PowerUnit Devices} {autoOpen : Option Duration}
    {before after : Context SailOpening (Recorded Devices)}
    (call : Call power autoOpen before after) (inOrder : InOrder before) : InOrder after := by
  cases call with
  | request => exact ⟨inOrder.accepted, inOrder.step_lt⟩
  | update => exact update_inOrder autoOpen inOrder
  | timeChanged jump =>
      unfold SailOpening.timeChanged
      split
      · exact ⟨inOrder.accepted, inOrder.step_lt⟩
      · exact inOrder
  | execute due executed => exact execute_inOrder due executed inOrder
  | elsewhere => exact ⟨inOrder.accepted, inOrder.step_lt⟩

theorem reached_inOrder {power : PowerUnit Devices} {autoOpen : Option Duration}
    {state : SystemState} {devices : Devices} {context : Context SailOpening (Recorded Devices)}
    (reached : ReflTransGen (Call power autoOpen) (fresh state devices) context) :
    InOrder context := by
  induction reached with
  | refl =>
      constructor
      · exact ⟨0, rfl⟩
      · intro contrary
        cases contrary
  | tail _ call inductionHypothesis => exact call.inOrder inductionHypothesis

theorem perform_cons_asked {power : PowerUnit Devices} {step : SailStep} {rest : List SailStep}
    {before after : Context SailOpening (Recorded Devices)}
    (performed : perform power.recording (step :: rest) before = .ok after) :
    ∃ issued, issued <+: rest.map SailStep.operation ∧
      after.env.asked = before.env.asked ++ step.operation :: issued := by
  induction rest generalizing step before with
  | nil =>
      refine ⟨[], List.nil_prefix, ?_⟩
      rcases perform_cons_cases performed with ⟨error, env, refused, rfl⟩ |
        ⟨nextStep, env, answered, -, -, rfl⟩ | ⟨env, answered, -, remainder⟩
      · exact (PowerUnit.recording_of_error refused).1
      · rw [finishIfDone_env]
        exact (PowerUnit.recording_of_ok answered).1
      · cases remainder
        rw [finishIfDone_env]
        exact (PowerUnit.recording_of_ok answered).1
  | cons next others inductionHypothesis =>
      rcases perform_cons_cases performed with ⟨error, env, refused, rfl⟩ |
        ⟨nextStep, env, answered, -, -, rfl⟩ | ⟨env, answered, -, remainder⟩
      · exact ⟨[], List.nil_prefix, (PowerUnit.recording_of_error refused).1⟩
      · refine ⟨[], List.nil_prefix, ?_⟩
        rw [finishIfDone_env]
        exact (PowerUnit.recording_of_ok answered).1
      · obtain ⟨issued, isPrefix, asked⟩ := inductionHypothesis remainder
        refine ⟨next.operation :: issued, ?_, ?_⟩
        · exact (List.prefix_cons_inj next.operation).mpr isPrefix
        · rw [asked, (PowerUnit.recording_of_ok answered).1, List.append_assoc]
          rfl

/-- The current step is asked for, and what follows it in the table after it. -/
theorem execute_asked {power : PowerUnit Devices}
    {before after : Context SailOpening (Recorded Devices)}
    (inside : before.task.step < SailStep.sequence.length)
    (executed : execute power.recording before = .ok after) :
    ∃ operation issued, SailStep.operations[before.task.step]? = some operation ∧
      after.env.asked = before.env.asked ++ operation :: issued ∧
      operation :: issued <+: SailStep.operations.drop before.task.step := by
  have parts := List.drop_eq_getElem_cons inside
  unfold execute at executed
  rw [parts] at executed
  obtain ⟨issued, isPrefix, asked⟩ := perform_cons_asked executed
  refine ⟨_, issued, ?_, asked, ?_⟩
  · rw [SailStep.operations, List.getElem?_map, List.getElem?_eq_getElem inside]
    rfl
  · rw [SailStep.operations, ← List.map_drop, parts]
    exact (List.prefix_cons_inj _).mpr isPrefix

/-- A sequence that comes to its end has asked for all that was left of the table. -/
theorem perform_finished {power : PowerUnit Devices} {steps : List SailStep}
    {before after : Context SailOpening (Recorded Devices)}
    (running : before.task.inProgress = true)
    (remaining : SailStep.sequence.drop before.task.step = steps)
    (performed : perform power.recording steps before = .ok after)
    (finished : after.task.inProgress = false) :
    after.env.asked = before.env.asked ++ steps.map SailStep.operation := by
  induction steps generalizing before with
  | nil =>
      cases performed
      rw [finishIfDone_env, List.map_nil, List.append_nil]
  | cons step rest inductionHypothesis =>
      have left := SailStep.drop_sequence_succ remaining
      rcases perform_cons_cases performed with ⟨error, env, -, rfl⟩ |
        ⟨nextStep, env, answered, -, -, rfl⟩ | ⟨env, answered, -, remainder⟩
      · rw [running] at finished
        contradiction
      · -- The opening waits, unless that was the last step of the table.
        rcases finishIfDone_cases
          { before with task := { before.task with step := before.task.step + 1, nextStep }, env }
          with same | ⟨done, -⟩
        · rw [same, running] at finished
          contradiction
        · have nothing : rest = [] := by
            rw [← left]
            exact List.drop_eq_nil_of_le done
          rw [finishIfDone_env, nothing]
          exact (PowerUnit.recording_of_ok answered).1
      · have asked : after.env.asked = env.asked ++ rest.map SailStep.operation := by
          refine inductionHypothesis ?_ ?_ remainder
          · exact running
          · exact left
        rw [asked, (PowerUnit.recording_of_ok answered).1, List.append_assoc]
        rfl

theorem Call.asked {power : PowerUnit Devices} {autoOpen : Option Duration}
    {before after : Context SailOpening (Recorded Devices)}
    (call : Call power autoOpen before after) :
    ∃ issued, after.env.asked = before.env.asked ++ issued ∧
      issued <+: if before.task.inProgress then
        SailStep.operations.drop before.task.step else [] := by
  cases call with
  | request => exact ⟨[], (List.append_nil _).symm, List.nil_prefix⟩
  | update => exact ⟨[], (List.append_nil _).symm, List.nil_prefix⟩
  | timeChanged => exact ⟨[], (List.append_nil _).symm, List.nil_prefix⟩
  | execute due executed =>
      obtain ⟨operation, issued, -, asked, isPrefix⟩ :=
        execute_asked (step_lt_of_condition due) executed
      refine ⟨operation :: issued, asked, ?_⟩
      rw [inProgress_of_condition due]
      exact isPrefix
  | elsewhere => exact ⟨[], (List.append_nil _).symm, List.nil_prefix⟩

/--
At any point of any run the accepted operations are complete rounds of the
table and its front up to the current step; what is asked for next is the
operation of this step, with those that follow it, and nothing else; and at no
moment are switches on that exclude each other.
-/
theorem release_in_order {power : PowerUnit Devices} {autoOpen : Option Duration}
    {state : SystemState} {devices : Devices} {context : Context SailOpening (Recorded Devices)}
    (reached : ReflTransGen (Call power autoOpen) (fresh state devices) context) :
    (∃ count, context.env.accepted = SailStep.rounds count ++
      if context.task.inProgress then SailStep.operations.take context.task.step else []) ∧
    (context.task.inProgress = true →
      context.task.step < 8 ∧
        (update autoOpen context).2.task = { context.task with requested := false }) ∧
    (∀ next, Call power autoOpen context next →
      ∃ issued, next.env.asked = context.env.asked ++ issued ∧
        issued <+: if context.task.inProgress then
          SailStep.operations.drop context.task.step else []) ∧
    (condition context.task context.state = true →
      ∀ next, execute power.recording context = .ok next →
        ∃ operation issued, SailStep.operations[context.task.step]? = some operation ∧
          next.env.asked = context.env.asked ++ operation :: issued) ∧
    (∀ earlier, earlier <+: context.env.accepted → Interlocked earlier) ∧
    (context.task.inProgress = false →
      ∀ switch, PowerSwitch.isOn context.env.accepted switch = false) := by
  have inOrder := reached_inOrder reached
  obtain ⟨count, accepted⟩ := inOrder.accepted
  refine ⟨inOrder.accepted, ?_, ?_, ?_, ?_, ?_⟩
  · intro running
    exact ⟨inOrder.step_lt running, update_task autoOpen running⟩
  · intro next call
    exact call.asked
  · intro due next executed
    obtain ⟨operation, issued, current, asked, -⟩ :=
      execute_asked (step_lt_of_condition due) executed
    exact ⟨operation, issued, current, asked⟩
  · intro earlier isPrefix
    rw [accepted] at isPrefix
    cases running : context.task.inProgress with
    | true =>
        rw [running] at isPrefix
        exact SailStep.interlocked_of_prefix isPrefix
    | false =>
        rw [running] at isPrefix
        have complete : earlier <+: SailStep.rounds count ++ SailStep.operations.take 0 :=
          isPrefix
        exact SailStep.interlocked_of_prefix complete
  · intro idle switch
    rw [accepted, idle]
    exact SailStep.isOn_rounds_append count [] switch

def started : Context SailOpening (Recorded SimulatedEps) :=
  { task := { step := 0, nextStep := .zero, inProgress := true, requested := false }
    state := { SystemState.initial.set (.sail .opening) with sail := .opening }
    env := { devices := .idle, asked := [], accepted := [] } }

def begun : Context SailOpening (Recorded SimulatedEps) :=
  { started with
    task := { started.task with step := 1, nextStep := .ofSeconds 2 }
    env :=
      { devices := { SimulatedEps.idle with operations := [⟨.thermalKnife .main, true⟩] }
        asked := [⟨.thermalKnife .main, true⟩]
        accepted := [⟨.thermalKnife .main, true⟩] } }

theorem reached_begun :
    ReflTransGen (Call SimulatedEps.unit none) (fresh .initial .idle) begun := by
  have requested : Call SimulatedEps.unit none (fresh .initial .idle)
      { fresh .initial SimulatedEps.idle with task := start.requestOpen.2 } :=
    .request _
  have updated : Call SimulatedEps.unit none
      { fresh .initial SimulatedEps.idle with task := start.requestOpen.2 } started :=
    .update _
  have performed : Call SimulatedEps.unit none started begun :=
    .execute (by decide) rfl
  exact ((ReflTransGen.single requested).tail updated).tail performed

theorem release_in_order_begun :
    begun.env.accepted = [⟨.thermalKnife .main, true⟩] ∧ Interlocked begun.env.accepted :=
  ⟨rfl, (release_in_order reached_begun).2.2.2.2.1 _ (List.prefix_refl _)⟩

end SailOpening

end Cubesat
