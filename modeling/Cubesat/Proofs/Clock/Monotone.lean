import Cubesat.Rehearsal.Clock

/-!
When mission time moves backwards.

The reference of the blend is the mission time of the last correction. Updates
that cannot read the external clock move mission time ahead of it, and the next
correction starts from the reference again. So all that decides whether mission
time falls back is by how much it has run ahead.
-/

namespace Cubesat

universe u

def meanElapsed (mcuElapsed externalElapsed : Duration) (weights : ClockWeights) : Duration :=
  if weights.mcuShare + weights.externalShare = 0 then
    mcuElapsed
  else
    .ofNanosClamped
      ((mcuElapsed.nanos * weights.mcuShare + externalElapsed.nanos * weights.externalShare) /
        (weights.mcuShare + weights.externalShare))

theorem blend_eq (base mcuElapsed externalElapsed : Duration) (weights : ClockWeights) :
    blend base mcuElapsed externalElapsed weights =
      base.saturatingAdd (meanElapsed mcuElapsed externalElapsed weights) := by
  unfold blend meanElapsed
  dsimp only
  split
  · rfl
  · rfl

theorem saturatingAdd_lt_iff {base elapsed time : Duration} {ahead : Nat}
    (parts : base.nanos + ahead = time.nanos) :
    base.saturatingAdd elapsed < time ↔ elapsed.nanos < ahead := by
  have bound := time.nanos_lt
  rw [Duration.lt_iff, Duration.nanos_saturatingAdd]
  simp only [Duration.longest]
  omega

namespace Timekeeper

variable {Env : Type u}

/--
The readings that an update goes by: the mission clock's, unless the update
leaves mission time to an earlier value or an explicit one, and the external
clock's as far as it can be had.
-/
def readings? (clocks : Clocks Env) (context : Context Timekeeper Env) :
    Option (Duration × Option Duration) :=
  match context.task.pending, clocks.mission.now context.env with
  | none, (.ok now, env) =>
      if now < context.state.time then
        none
      else
        some (now, clocks.external.bind fun external => (external.now env).1.toOption)
  | _, _ => none

def corrected (context : Context Timekeeper Env) (now reading : Duration) : Duration :=
  match context.task.reference with
  | none => now
  | some reference =>
      reference.mission.saturatingAdd
        (meanElapsed (now.saturatingSub reference.mission)
          (reading.saturatingSub reference.external) context.state.settings.clockWeights)

theorem correct_of_unread {clocks : Clocks Env} (weights : ClockWeights) (mcu : Duration)
    (task : Timekeeper) {env : Env}
    (unread : clocks.external.bind (fun external => (external.now env).1.toOption) = none) :
    (correct clocks weights mcu task env).1 = mcu ∧
      (correct clocks weights mcu task env).2.1 = task := by
  unfold correct
  cases fitted : clocks.external with
  | none => exact ⟨rfl, rfl⟩
  | some external =>
      rw [fitted] at unread
      rcases answered : external.now env with ⟨_ | reading, middle⟩
      · simp [answered]
      · simp only [Option.bind_some, answered, Except.toOption] at unread
        cases unread

theorem correct_of_read {clocks : Clocks Env} (context : Context Timekeeper Env)
    (mcu : Duration) {reading : Duration} {env : Env}
    (read : clocks.external.bind (fun external => (external.now env).1.toOption) = some reading) :
    (correct clocks context.state.settings.clockWeights mcu context.task env).1 =
        corrected context mcu reading ∧
      (correct clocks context.state.settings.clockWeights mcu context.task env).2.1 =
        { context.task with
          reference :=
            some { mission := corrected context mcu reading, external := reading } } := by
  unfold correct corrected
  cases fitted : clocks.external with
  | none =>
      rw [fitted] at read
      cases read
  | some external =>
      rw [fitted] at read
      rcases answered : external.now env with ⟨_ | now, middle⟩
      · simp only [Option.bind_some, answered, Except.toOption] at read
        cases read
      · simp only [Option.bind_some, answered, Except.toOption] at read
        cases read
        cases known : context.task.reference with
        | none => simp [answered]
        | some reference => simp [answered, blend_eq]

/-- The three ways in which an update without an explicit change ends. -/
theorem update_cases (clocks : Clocks Env) {context : Context Timekeeper Env}
    (unasked : context.task.pending = none) :
    (readings? clocks context = none ∧
      (update clocks context).2.task = context.task ∧
      (update clocks context).2.state.time = context.state.time) ∨
    (∃ now, readings? clocks context = some (now, none) ∧ context.state.time ≤ now ∧
      (update clocks context).2.task = context.task ∧
      (update clocks context).2.state.time = now) ∨
    (∃ now reading, readings? clocks context = some (now, some reading) ∧
      context.state.time ≤ now ∧
      (update clocks context).2.task =
        { context.task with
          reference := some { mission := corrected context now reading, external := reading } } ∧
      (update clocks context).2.state.time = corrected context now reading) := by
  rcases answered : clocks.mission.now context.env with ⟨_ | now, env⟩
  · apply Or.inl
    simp [readings?, update, unasked, answered]
  · by_cases behind : now < context.state.time
    · apply Or.inl
      simp [readings?, update, unasked, answered, behind]
    · apply Or.inr
      have reached : context.state.time ≤ now := Nat.le_of_not_lt behind
      cases external : clocks.external.bind
        (fun external => (external.now env).1.toOption) with
      | none =>
          apply Or.inl
          obtain ⟨time, task⟩ := correct_of_unread context.state.settings.clockWeights now
            context.task external
          refine ⟨now, ?_, reached, ?_, ?_⟩
          · simp [readings?, unasked, answered, behind, external]
          · simpa [update, unasked, answered, behind] using task
          · simpa [update, unasked, answered, behind] using time
      | some reading =>
          apply Or.inr
          obtain ⟨time, task⟩ := correct_of_read context now external
          refine ⟨now, reading, ?_, reached, ?_, ?_⟩
          · simp [readings?, unasked, answered, behind, external]
          · rw [← task]
            simp [update, unasked, answered, behind]
          · simpa [update, unasked, answered, behind] using time

/-- By how much mission time has run ahead of the reference once an update is done. -/
def aheadAfter (clocks : Clocks Env) (context : Context Timekeeper Env) (ahead : Nat) : Nat :=
  match readings? clocks context with
  | none => ahead
  | some (now, none) => ahead + (now.nanos - context.state.time.nanos)
  | some (_, some _) => 0

/--
What a timekeeper comes to in a run, with the nanoseconds by which updates that
could not read the external clock have moved mission time since the last one
that could. Nothing but the timekeeper changes mission time.
-/
inductive Kept (clocks : Clocks Env) : Context Timekeeper Env → Nat → Prop
  | boot (state : SystemState) (env : Env) : Kept clocks { task := .start, state, env } 0
  | update {context : Context Timekeeper Env} {ahead : Nat} (kept : Kept clocks context ahead) :
      Kept clocks (update clocks context).2 (aheadAfter clocks context ahead)
  | setTime {context : Context Timekeeper Env} {ahead : Nat} (time : Duration)
      (kept : Kept clocks context ahead) :
      Kept clocks
        { context with
          task := (context.task.setTime clocks time context.env).2.1
          env := (context.task.setTime clocks time context.env).2.2 }
        ahead
  | elsewhere {context : Context Timekeeper Env} {ahead : Nat} (state : SystemState) (env : Env)
      (kept : Kept clocks context ahead) (time : state.time = context.state.time) :
      Kept clocks { context with state, env } ahead

structure Ahead (context : Context Timekeeper Env) (ahead : Nat) : Prop where
  reference : ∀ reference, context.task.reference = some reference →
    reference.mission.nanos + ahead = context.state.time.nanos
  pending : context.task.pending ≠ none → context.task.reference = none

theorem update_ahead {clocks : Clocks Env} {context : Context Timekeeper Env} {ahead : Nat}
    (known : Ahead context ahead) :
    Ahead (update clocks context).2 (aheadAfter clocks context ahead) := by
  cases pending : context.task.pending with
  | some time =>
      have cleared := known.pending (by rw [pending]; simp)
      constructor
      · intro reference recorded
        simp only [update, pending, cleared] at recorded
        cases recorded
      · intro _
        simpa only [update, pending] using cleared
  | none =>
      rcases update_cases clocks pending with ⟨none, task, time⟩ |
        ⟨now, unread, reached, task, time⟩ | ⟨now, reading, read, reached, task, time⟩
      · constructor
        · intro reference recorded
          rw [task] at recorded
          rw [time, aheadAfter, none]
          exact known.reference reference recorded
        · rw [task]
          exact known.pending
      · constructor
        · intro reference recorded
          rw [task] at recorded
          -- The reference stays, so it falls behind by as much as mission time moves.
          have before := known.reference reference recorded
          have later := Duration.le_iff.mp reached
          rw [time, aheadAfter, unread]
          dsimp only
          omega
        · rw [task]
          exact known.pending
      · constructor
        · intro reference recorded
          rw [task] at recorded
          cases recorded
          rw [time, aheadAfter, read]
          rfl
        · rw [task]
          intro contrary
          exact absurd pending contrary

theorem Kept.ahead {clocks : Clocks Env} {context : Context Timekeeper Env} {ahead : Nat}
    (kept : Kept clocks context ahead) : Ahead context ahead := by
  induction kept with
  | boot state env =>
      constructor
      · intro reference recorded
        cases recorded
      · intro _
        rfl
  | update _ inductionHypothesis => exact update_ahead inductionHypothesis
  | @setTime context ahead time _ inductionHypothesis =>
      rcases answered : clocks.mission.set time context.env with ⟨_ | _, env⟩
      · have task : (context.task.setTime clocks time context.env).2.1 = context.task := by
          simp only [Timekeeper.setTime, answered]
        rw [task]
        exact ⟨inductionHypothesis.reference, inductionHypothesis.pending⟩
      · have task : (context.task.setTime clocks time context.env).2.1 =
            { reference := none, pending := some time } := by
          simp only [Timekeeper.setTime, answered]
        rw [task]
        constructor
        · intro reference recorded
          cases recorded
        · intro _
          rfl
  | elsewhere state env _ time inductionHypothesis =>
      constructor
      · intro reference recorded
        rw [time]
        exact inductionHypothesis.reference reference recorded
      · exact inductionHypothesis.pending

theorem corrected_lt_iff {clocks : Clocks Env} {context : Context Timekeeper Env} {ahead : Nat}
    {reference : ClockReference} (kept : Kept clocks context ahead)
    (recorded : context.task.reference = some reference) (now reading : Duration) :
    corrected context now reading < context.state.time ↔
      (meanElapsed (now.saturatingSub reference.mission)
        (reading.saturatingSub reference.external)
        context.state.settings.clockWeights).nanos < ahead := by
  have parts := kept.ahead.reference reference recorded
  rw [corrected, recorded]
  exact saturatingAdd_lt_iff parts

theorem readings?_of_unfitted {clocks : Clocks Env} {context : Context Timekeeper Env}
    {now reading : Duration} (unfitted : clocks.external = none) :
    readings? clocks context ≠ some (now, some reading) := by
  intro read
  unfold readings? at read
  split at read
  · split at read
    · cases read
    · rw [unfitted] at read
      cases read
  · cases read

/--
An update without an explicit change moves mission time backwards if and only
if it reads both clocks and the time that they agree on has elapsed since the
reference is shorter than that by which mission time is ahead of it. So it does
not if there is no external clock, or none of its readouts has failed since.
-/
theorem update_time_lt_iff {clocks : Clocks Env} {context : Context Timekeeper Env} {ahead : Nat}
    (kept : Kept clocks context ahead) (unasked : context.task.pending = none) :
    ((update clocks context).2.state.time < context.state.time ↔
      ∃ now reading reference, readings? clocks context = some (now, some reading) ∧
        context.task.reference = some reference ∧
        (meanElapsed (now.saturatingSub reference.mission)
          (reading.saturatingSub reference.external)
          context.state.settings.clockWeights).nanos < ahead) ∧
    (clocks.external = none ∨ ahead = 0 →
      context.state.time ≤ (update clocks context).2.state.time) := by
  have falls : (update clocks context).2.state.time < context.state.time ↔
      ∃ now reading reference, readings? clocks context = some (now, some reading) ∧
        context.task.reference = some reference ∧
        (meanElapsed (now.saturatingSub reference.mission)
          (reading.saturatingSub reference.external)
          context.state.settings.clockWeights).nanos < ahead := by
    rcases update_cases clocks unasked with ⟨none, -, time⟩ |
      ⟨now, unread, reached, -, time⟩ | ⟨now, reading, read, reached, -, time⟩
    · rw [time, none]
      simp [Duration.lt_iff]
    · rw [time, unread]
      simp [Duration.lt_iff, Nat.not_lt.mpr reached]
    · rw [time, read]
      cases recorded : context.task.reference with
      | none => simp [corrected, recorded, Duration.lt_iff, Nat.not_lt.mpr reached]
      | some reference =>
          have back := corrected_lt_iff kept recorded now reading
          rw [back]
          constructor
          · intro short
            exact ⟨now, reading, reference, rfl, rfl, short⟩
          · rintro ⟨_, _, _, same, known, short⟩
            cases same
            cases known
            exact short
  refine ⟨falls, ?_⟩
  intro steady
  apply Nat.le_of_not_lt
  intro less
  obtain ⟨now, reading, reference, read, -, short⟩ := falls.mp less
  rcases steady with unfitted | level
  · exact readings?_of_unfitted unfitted read
  · rw [level] at short
    exact Nat.not_lt_zero _ short

/-- A timekeeper whose external clock is back after one update without it. -/
def outrun : Context Timekeeper ClockBench :=
  { task :=
      { reference := some { mission := .ofSeconds 100, external := .ofSeconds 1000 }
        pending := none }
    state := { SystemState.initial with time := .ofSeconds 200 }
    env :=
      { ClockBench.start with
        mcu := { FickleClock.start with time := .ofSeconds 200 }
        rtc := { FickleClock.start with time := .ofSeconds 1000 } } }

theorem kept_outrun : Kept (ClockBench.clocks true) outrun 100000000000 := by
  have booted : Kept (ClockBench.clocks true) _ 0 :=
    .boot .initial
      { ClockBench.start with
        mcu := { FickleClock.start with time := .ofSeconds 100 }
        rtc := { FickleClock.start with time := .ofSeconds 1000 } }
  have failing := booted.update.elsewhere { SystemState.initial with time := .ofSeconds 100 }
    { outrun.env with rtc := { outrun.env.rtc with readFailure := some .notResponding } } rfl
  exact failing.update.elsewhere outrun.state outrun.env rfl

theorem update_time_lt_iff_outrun :
    ∃ now reading reference,
      readings? (ClockBench.clocks true) outrun = some (now, some reading) ∧
      outrun.task.reference = some reference ∧
      (meanElapsed (now.saturatingSub reference.mission)
        (reading.saturatingSub reference.external)
        outrun.state.settings.clockWeights).nanos < 100000000000 :=
  (update_time_lt_iff kept_outrun rfl).1.mp (by decide)

theorem time_falls_back :
    Kept (ClockBench.clocks true) outrun 100000000000 ∧ outrun.task.pending = none ∧
      (update (ClockBench.clocks true) outrun).2.state.time < outrun.state.time :=
  ⟨kept_outrun, rfl, by decide⟩

end Timekeeper

end Cubesat
