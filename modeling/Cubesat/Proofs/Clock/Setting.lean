import Cubesat.Proofs.Clock.Monotone
import Cubesat.Proofs.Task.Mirror
import Mathlib.Data.List.Induction

/-!
Setting the time.

An explicit change of mission time waits for the next update. What carries the
proofs is the task alone: an accepted change leaves the new time and no
reference, whatever the task was before, and from then on a reference can only
come from clocks that are read later.
-/

namespace Cubesat

universe u v

/--
What a timekeeper was called for: an update with its result, or an explicit time
with the answer of the mission clock itself.
-/
inductive TimeCall where
  | update (result : UpdateResult) (applied : Option TimeJump)
  | setTime (time : Duration) (answer : Except DeviceError Unit)

namespace TimeCall

def isUpdate : TimeCall → Bool
  | update _ _ => true
  | setTime _ _ => false

def accepted? : TimeCall → Option Duration
  | setTime time (.ok ()) => some time
  | _ => none

def latest (calls : List TimeCall) : Option Duration :=
  (calls.filterMap accepted?).getLast?

@[simp]
theorem latest_accepted (calls : List TimeCall) (time : Duration) :
    latest (calls ++ [.setTime time (.ok ())]) = some time := by
  simp [latest, accepted?]

@[simp]
theorem latest_refused (calls : List TimeCall) (time : Duration) (error : DeviceError) :
    latest (calls ++ [.setTime time (.error error)]) = latest calls := by
  simp [latest, accepted?]

end TimeCall

inductive TimeContact where
  | readMission
  | readExternal
  | setMission (time : Duration)
  | setExternal (time : Duration)
  /-- An observer is told, by its place in the order of registration. -/
  | tell (observer : Nat) (jump : TimeJump)
  deriving DecidableEq

/-- Devices with a log of what a timekeeper has done with them, first contact first. -/
structure Contacted (Devices : Type u) where
  devices : Devices
  contacts : List TimeContact

section Contacts

variable {Devices : Type u}

def Contacted.noting {Answer : Type} (contact : TimeContact)
    (operation : Devices → Answer × Devices) (contacted : Contacted Devices) :
    Answer × Contacted Devices :=
  let done := operation contacted.devices
  (done.1, { devices := done.2, contacts := contacted.contacts ++ [contact] })

def Clocks.contacted (clocks : Clocks Devices) : Clocks (Contacted Devices) where
  mission :=
    { now := Contacted.noting .readMission clocks.mission.now
      set := fun time => Contacted.noting (.setMission time) (clocks.mission.set time) }
  external := clocks.external.map fun external =>
    { now := Contacted.noting .readExternal external.now
      set := fun time => Contacted.noting (.setExternal time) (external.set time) }

def TimeObservers.contacted (observers : TimeObservers Devices) :
    TimeObservers (Contacted Devices) where
  entries := observers.entries.mapIdx fun index observer jump contacted =>
    { devices := observer jump contacted.devices
      contacts := contacted.contacts ++ [.tell index jump] }

/-- Each observer is told once, in the order of registration. -/
theorem TimeObservers.notify_contacted (observers : TimeObservers Devices) (jump : TimeJump)
    (contacted : Contacted Devices) :
    observers.contacted.notify jump contacted =
      { devices := observers.notify jump contacted.devices
        contacts := contacted.contacts ++
          (List.range observers.entries.length).map fun index => .tell index jump } := by
  obtain ⟨entries⟩ := observers
  induction entries using List.reverseRecOn with
  | nil => simp [TimeObservers.contacted, notify]
  | append_singleton entries last inductionHypothesis =>
      simp only [TimeObservers.contacted, notify] at inductionHypothesis ⊢
      rw [List.mapIdx_concat, List.foldl_concat, inductionHypothesis, List.foldl_concat,
        List.length_append, List.length_singleton, List.range_succ, List.map_append,
        ← List.append_assoc]
      rfl

/-- What is shown of the devices once an observer has been told goes by what was shown before. -/
def TimeObservers.Follow {Shown : Type v} (observers : TimeObservers Devices)
    (shown : Devices → Shown) : Prop :=
  ∀ observer ∈ observers.entries, ∀ jump, (shown ∘ observer jump).FactorsThrough shown

theorem TimeObservers.Follow.notifyIf {Shown : Type v} {observers : TimeObservers Devices}
    {shown : Devices → Shown} (follow : observers.Follow shown) (jump : Option TimeJump)
    {one other : Devices} (same : shown one = shown other) :
    shown (observers.notifyIf jump one) = shown (observers.notifyIf jump other) := by
  cases jump with
  | none => exact same
  | some jump =>
      refine List.foldl_rel (r := fun one other => shown one = shown other) same ?_
      intro observer membership one other same
      exact follow observer membership jump same

end Contacts

namespace Timekeeper

variable {Env : Type u}

/-- An update, after which the observers know of the explicit change that it has applied. -/
def updateTelling (clocks : Clocks Env) (observers : TimeObservers Env)
    (context : Context Timekeeper Env) : Context Timekeeper Env :=
  let done := update clocks context
  { done.2 with env := observers.notifyIf done.1.2 done.2.env }

def afterSetTime (clocks : Clocks Env) (time : Duration) (context : Context Timekeeper Env) :
    Context Timekeeper Env :=
  let done := context.task.setTime clocks time context.env
  { context with task := done.2.1, env := done.2.2 }

/-- What happens to a timekeeper from a context on, with the calls and their answers in order. -/
inductive Course (clocks : Clocks Env) (observers : TimeObservers Env)
    (start : Context Timekeeper Env) : List TimeCall → Context Timekeeper Env → Prop
  | start : Course clocks observers start [] start
  | update {calls : List TimeCall} {context : Context Timekeeper Env}
      (course : Course clocks observers start calls context) :
      Course clocks observers start
        (calls ++ [.update (update clocks context).1.1 (update clocks context).1.2])
        (updateTelling clocks observers context)
  | setTime {calls : List TimeCall} {context : Context Timekeeper Env}
      (course : Course clocks observers start calls context) (time : Duration) :
      Course clocks observers start
        (calls ++ [.setTime time (clocks.mission.set time context.env).1])
        (afterSetTime clocks time context)
  /-- Time goes by, and the rest of the satellite does what it likes. -/
  | elsewhere {calls : List TimeCall} {context : Context Timekeeper Env}
      (course : Course clocks observers start calls context) (state : SystemState) (env : Env) :
      Course clocks observers start calls { context with state, env }

variable {clocks : Clocks Env} {observers : TimeObservers Env}
  {start context : Context Timekeeper Env} {calls : List TimeCall}

section Setting

variable {time : Duration} {task : Timekeeper} {env : Env}

theorem setTime_of_error {error : DeviceError}
    (refused : (clocks.mission.set time env).1 = .error error) :
    task.setTime clocks time env = (false, task, (clocks.mission.set time env).2) := by
  unfold setTime
  rcases answered : clocks.mission.set time env with ⟨_ | _, middle⟩
  · rfl
  · rw [answered] at refused
    cases refused

theorem setTime_of_ok (accepted : (clocks.mission.set time env).1 = .ok ()) :
    task.setTime clocks time env =
      (true, { reference := none, pending := some time },
        clocks.external.elim (clocks.mission.set time env).2 fun external =>
          (external.set time (clocks.mission.set time env).2).2) := by
  unfold setTime
  rcases answered : clocks.mission.set time env with ⟨_ | _, middle⟩
  · rw [answered] at accepted
    cases accepted
  · cases clocks.external with
    | none => rfl
    | some external => rfl

end Setting

/-- Between two updates all that counts is the last explicit time that was accepted. -/
theorem Course.task_eq (course : Course clocks observers start calls context)
    (between : ∀ call ∈ calls, call.isUpdate = false) :
    context.task = (TimeCall.latest calls).elim start.task
      fun time => { reference := none, pending := some time } := by
  induction course with
  | start => rfl
  | update course =>
      have contrary := between _ (List.mem_append_right _ List.mem_cons_self)
      cases contrary
  | @setTime calls context course time inductionHypothesis =>
      have before := inductionHypothesis fun call membership =>
        between call (List.mem_append_left _ membership)
      cases answer : (clocks.mission.set time context.env).1 with
      | error error =>
          rw [TimeCall.latest_refused, ← before, afterSetTime, setTime_of_error answer]
      | ok =>
          rw [TimeCall.latest_accepted, afterSetTime, setTime_of_ok answer]
          rfl
  | elsewhere course state env inductionHypothesis => exact inductionHypothesis between

/--
A reference that an update has taken in a course. Both clocks were read by that
update, and mission time was moved to the reference.
-/
def TakenIn (clocks : Clocks Env) (observers : TimeObservers Env)
    (start : Context Timekeeper Env) (calls : List TimeCall) (finish : Context Timekeeper Env)
    (reference : ClockReference) : Prop :=
  ∃ front rest middle now, calls = front ++ .update .ok none :: rest ∧
    Course clocks observers start front middle ∧
    readings? clocks middle = some (now, some reference.external) ∧
    (update clocks middle).2.state.time = reference.mission ∧
    Course clocks observers (updateTelling clocks observers middle) rest finish

theorem update_of_pending {time : Duration} (pending : context.task.pending = some time) :
    update clocks context =
      ((.ok, some { previous := context.state.time, current := time }),
        { context with
          task := { context.task with pending := none }
          state := { context.state with time } }) := by
  simp only [update, pending]

theorem update_eq_ok_iff :
    (update clocks context).1 = (.ok, none) ↔ (readings? clocks context).isSome = true := by
  cases pending : context.task.pending with
  | some time => simp [update, readings?, pending]
  | none =>
      rcases answered : clocks.mission.now context.env with ⟨_ | now, env⟩
      · simp [update, readings?, pending, answered]
      · by_cases behind : now < context.state.time
        · simp [update, readings?, pending, answered, behind]
        · simp [update, readings?, pending, answered, behind]

theorem now_of_readings? {now : Duration} {external : Option Duration}
    (read : readings? clocks context = some (now, external)) :
    context.task.pending = none ∧ (clocks.mission.now context.env).1 = .ok now := by
  cases pending : context.task.pending with
  | some time => simp [readings?, pending] at read
  | none =>
      rcases answered : clocks.mission.now context.env with ⟨_ | time, env⟩
      · simp [readings?, pending, answered] at read
      · by_cases behind : time < context.state.time
        · simp [readings?, pending, answered, behind] at read
        · simp only [readings?, pending, answered, behind, if_false, Option.some.injEq,
            Prod.mk.injEq] at read
          exact ⟨rfl, congrArg Except.ok read.1⟩

/-- Without a reference mission time is moved to the mission clock's reading. -/
theorem update_unreferenced (cleared : context.task.reference = none)
    (result : (update clocks context).1 = (.ok, none)) :
    (clocks.mission.now context.env).1 = .ok (update clocks context).2.state.time := by
  obtain ⟨⟨now, external⟩, read⟩ := Option.isSome_iff_exists.mp (update_eq_ok_iff.mp result)
  obtain ⟨pending, answered⟩ := now_of_readings? read
  rw [answered]
  rcases update_cases clocks pending with ⟨none, -, -⟩ | ⟨time, unread, -, -, moved⟩ |
    ⟨time, reading, both, -, -, moved⟩
  · rw [none] at read
    cases read
  · rw [unread] at read
    cases read
    rw [moved]
  · rw [both] at read
    cases read
    rw [moved, corrected, cleared]

namespace TakenIn

variable {finish : Context Timekeeper Env} {reference : ClockReference}
  (taken : TakenIn clocks observers start calls finish reference)

include taken

theorem update : TakenIn clocks observers start
    (calls ++ [.update (Timekeeper.update clocks finish).1.1
      (Timekeeper.update clocks finish).1.2])
    (updateTelling clocks observers finish) reference := by
  obtain ⟨front, rest, middle, now, rfl, course, read, time, later⟩ := taken
  exact ⟨front, _, middle, now, List.append_assoc _ _ _, course, read, time, later.update⟩

theorem setTime (time : Duration) : TakenIn clocks observers start
    (calls ++ [.setTime time (clocks.mission.set time finish.env).1])
    (afterSetTime clocks time finish) reference := by
  obtain ⟨front, rest, middle, now, rfl, course, read, missionTime, later⟩ := taken
  exact ⟨front, _, middle, now, List.append_assoc _ _ _, course, read, missionTime,
    later.setTime time⟩

theorem elsewhere (state : SystemState) (env : Env) :
    TakenIn clocks observers start calls { finish with state, env } reference := by
  obtain ⟨front, rest, middle, now, parts, course, read, time, later⟩ := taken
  exact ⟨front, rest, middle, now, parts, course, read, time, later.elsewhere state env⟩

end TakenIn

theorem Course.taken (course : Course clocks observers start calls context)
    (cleared : start.task.reference = none) {reference : ClockReference}
    (recorded : context.task.reference = some reference) :
    TakenIn clocks observers start calls context reference := by
  induction course with
  | start =>
      rw [cleared] at recorded
      cases recorded
  | @update calls context course inductionHypothesis =>
      have kept (same : (Timekeeper.update clocks context).2.task.reference =
          context.task.reference) :=
        (inductionHypothesis (same.symm.trans recorded)).update
      cases pending : context.task.pending with
      | some time =>
          apply kept
          rw [update_of_pending pending]
      | none =>
          rcases update_cases clocks pending with ⟨-, task, -⟩ | ⟨now, -, -, task, -⟩ |
            ⟨now, reading, read, -, task, time⟩
          · exact kept (congrArg Timekeeper.reference task)
          · exact kept (congrArg Timekeeper.reference task)
          · have result : (Timekeeper.update clocks context).1 = (.ok, none) := by
              rw [update_eq_ok_iff, read]
              rfl
            have new := (congrArg Timekeeper.reference task).symm.trans recorded
            cases new
            exact ⟨calls, [], context, now, by rw [result], course, read, time, .start⟩
  | @setTime calls context course time inductionHypothesis =>
      apply TakenIn.setTime
      apply inductionHypothesis
      rw [← recorded]
      cases answer : (clocks.mission.set time context.env).1 with
      | error error => rw [afterSetTime, setTime_of_error answer]
      | ok =>
          rw [afterSetTime, setTime_of_ok answer] at recorded
          cases recorded
  | elsewhere course state env inductionHypothesis =>
      exact (inductionHypothesis recorded).elsewhere state env

/--
A course after an explicit change. The clocks are compared with what they have
shown since, and mission time starts again from the mission clock's reading.
-/
structure Clean (clocks : Clocks Env) (observers : TimeObservers Env)
    (start : Context Timekeeper Env) : Prop where
  reference : ∀ calls context, Course clocks observers start calls context →
    ∀ reference, context.task.reference = some reference →
      TakenIn clocks observers start calls context reference
  first : ∀ calls context, Course clocks observers start calls context →
    .update .ok none ∉ calls → (update clocks context).1 = (.ok, none) →
      (clocks.mission.now context.env).1 = .ok (update clocks context).2.state.time

theorem Clean.of_cleared (cleared : start.task.reference = none) :
    Clean clocks observers start := by
  constructor
  · intro calls context course reference recorded
    exact course.taken cleared recorded
  · intro calls context course unread result
    cases recorded : context.task.reference with
    | none => exact update_unreferenced recorded result
    | some reference =>
        obtain ⟨front, rest, middle, now, parts, -⟩ := course.taken cleared recorded
        rw [parts] at unread
        exact absurd (List.mem_append_right front List.mem_cons_self) unread

theorem contacts_set (clocks : Clocks Env) (time : Duration) (contacted : Contacted Env) :
    (clocks.contacted.external.elim (clocks.contacted.mission.set time contacted).2 fun external =>
        (external.set time (clocks.contacted.mission.set time contacted).2).2).contacts =
      contacted.contacts ++ .setMission time ::
        (clocks.external.map fun _ => TimeContact.setExternal time).toList := by
  unfold Clocks.contacted
  cases clocks.external with
  | none => rfl
  | some external => exact List.append_assoc _ _ _

section Alike

variable {Shown : Type v} {shown : Env → Shown} {image : Clocks Shown}
  {other : Context Timekeeper Env}

theorem updateTelling_alike (mirrors : clocks.Mirrors shown image)
    (follow : observers.Follow shown) (same : context.showing shown = other.showing shown) :
    (update clocks context).1 = (update clocks other).1 ∧
      (updateTelling clocks observers context).showing shown =
        (updateTelling clocks observers other).showing shown := by
  have here := update_mirrors mirrors context
  rw [same, update_mirrors mirrors other, Prod.mk.injEq] at here
  obtain ⟨answer, after⟩ := here
  simp only [Context.showing, Context.mk.injEq] at after
  obtain ⟨task, state, env⟩ := after
  refine ⟨answer.symm, ?_⟩
  simp only [updateTelling, Context.showing, Context.mk.injEq, task, state, answer, true_and]
  exact follow.notifyIf _ env.symm

theorem afterSetTime_showing (mirrors : clocks.Mirrors shown image) (time : Duration)
    (context : Context Timekeeper Env) :
    afterSetTime image time (context.showing shown) =
      (afterSetTime clocks time context).showing shown := by
  simp only [afterSetTime, Context.showing, setTime_mirrors mirrors time context.task context.env]

theorem setTime_alike (mirrors : clocks.Mirrors shown image) (time : Duration)
    (same : context.showing shown = other.showing shown) :
    (clocks.mission.set time context.env).1 = (clocks.mission.set time other.env).1 ∧
      (afterSetTime clocks time context).showing shown =
        (afterSetTime clocks time other).showing shown := by
  constructor
  · have env : shown context.env = shown other.env := congrArg Context.env same
    have answer := mirrors.mission.set time context.env
    rw [env, mirrors.mission.set time other.env] at answer
    exact (congrArg Prod.fst answer).symm
  · rw [← afterSetTime_showing mirrors, ← afterSetTime_showing mirrors, same]

/-- What is shown of a course goes by what was shown of its start. -/
theorem Course.exists_alike (course : Course clocks observers start calls context)
    (mirrors : clocks.Mirrors shown image) (follow : observers.Follow shown)
    (same : start.showing shown = other.showing shown) :
    ∃ finish, Course clocks observers other calls finish ∧
      context.showing shown = finish.showing shown := by
  induction course with
  | start => exact ⟨other, .start, same⟩
  | update _ inductionHypothesis =>
      obtain ⟨finish, course, shownSame⟩ := inductionHypothesis
      obtain ⟨answer, after⟩ := updateTelling_alike mirrors follow shownSame
      rw [answer]
      exact ⟨_, course.update, after⟩
  | setTime _ time inductionHypothesis =>
      obtain ⟨finish, course, shownSame⟩ := inductionHypothesis
      obtain ⟨answer, after⟩ := setTime_alike mirrors time shownSame
      rw [answer]
      exact ⟨_, course.setTime time, after⟩
  | elsewhere _ state env inductionHypothesis =>
      obtain ⟨finish, course, shownSame⟩ := inductionHypothesis
      refine ⟨_, course.elsewhere state env, ?_⟩
      simp only [Context.showing, Context.mk.injEq] at shownSame
      simp only [Context.showing, shownSame.1]

end Alike

/--
An explicit time that the mission clock accepts is applied by the next update,
the last one if there are several. That update reads no clock and tells every
observer once; what follows it owes nothing to the time before. The answer is
the mission clock's: a time that it accepts waits for the update, whatever the
external clock makes of it, and one that it refuses leaves no trace, as long as
the refusal itself leaves none in the clocks.
-/
theorem explicit_time_applied (clocks : Clocks Env) (observers : TimeObservers Env) :
    (∀ start calls before time,
      Course clocks.contacted observers.contacted start calls before →
      (∀ call ∈ calls, call.isUpdate = false) → TimeCall.latest calls = some time →
      let jump : TimeJump := { previous := before.state.time, current := time }
      let after := updateTelling clocks.contacted observers.contacted before
      (update clocks.contacted before).1 = (.ok, some jump) ∧
        after.state = { before.state with time } ∧
        after.env.devices = observers.notify jump before.env.devices ∧
        after.env.contacts = before.env.contacts ++
          (List.range observers.entries.length).map (fun index => .tell index jump) ∧
        Clean clocks.contacted observers.contacted after) ∧
    (∀ (context : Context Timekeeper (Contacted Env)) (time : Duration),
      (clocks.contacted.mission.set time context.env).1 = .ok () →
      let done := context.task.setTime clocks.contacted time context.env
      done.1 = true ∧ done.2.1 = { reference := none, pending := some time } ∧
        done.2.2.contacts = context.env.contacts ++ .setMission time ::
          (clocks.external.map fun _ => TimeContact.setExternal time).toList) ∧
    ∀ (context : Context Timekeeper Env) (time : Duration) (error : DeviceError),
      (clocks.mission.set time context.env).1 = .error error →
      (context.task.setTime clocks time context.env).1 = false ∧
        (afterSetTime clocks time context).task = context.task ∧
        (afterSetTime clocks time context).state = context.state ∧
        ∀ {Shown : Type v} (shown : Env → Shown) (image : Clocks Shown),
          clocks.Mirrors shown image → observers.Follow shown →
          shown (clocks.mission.set time context.env).2 = shown context.env →
          ∀ calls seen,
            (∃ finish, Course clocks observers (afterSetTime clocks time context) calls finish ∧
              finish.showing shown = seen) ↔
            ∃ finish, Course clocks observers context calls finish ∧
              finish.showing shown = seen := by
  refine ⟨?_, ?_, ?_⟩
  · intro start calls before time course between latest jump after
    have task := course.task_eq between
    rw [latest] at task
    have pending : before.task.pending = some time := by rw [task]; rfl
    have updated : after = { before with
        task := { before.task with pending := none }
        state := { before.state with time }
        env := observers.contacted.notify jump before.env } := by
      simp only [after, updateTelling, update_of_pending pending]
      rfl
    have cleared : after.task.reference = none := by rw [updated, task]; rfl
    refine ⟨by rw [update_of_pending pending], by rw [updated], ?_, ?_, .of_cleared cleared⟩
    · rw [updated, observers.notify_contacted]
    · rw [updated, observers.notify_contacted]
  · intro context time accepted done
    have set : done = _ := setTime_of_ok accepted
    refine ⟨congrArg Prod.fst set, congrArg (·.2.1) set, ?_⟩
    rw [set]
    exact contacts_set clocks time context.env
  · intro context time error refused
    have ignored : context.task.setTime clocks time context.env =
        (false, context.task, (clocks.mission.set time context.env).2) := setTime_of_error refused
    refine ⟨congrArg Prod.fst ignored, congrArg (·.2.1) ignored, rfl, ?_⟩
    intro Shown shown image mirrors follow unchanged calls seen
    have same : (afterSetTime clocks time context).showing shown = context.showing shown := by
      simp only [afterSetTime, ignored, Context.showing, unchanged]
    constructor
    · rintro ⟨finish, course, rfl⟩
      obtain ⟨other, courseOther, sameOther⟩ := course.exists_alike mirrors follow same
      exact ⟨other, courseOther, sameOther.symm⟩
    · rintro ⟨finish, course, rfl⟩
      obtain ⟨other, courseOther, sameOther⟩ := course.exists_alike mirrors follow same.symm
      exact ⟨other, courseOther, sameOther.symm⟩

def scribes : TimeObservers ClockBench where
  entries :=
    [fun jump bench => { bench with notes := bench.notes ++ [{ observer := 0, jump }] },
      fun jump bench => { bench with notes := bench.notes ++ [{ observer := 1, jump }] }]

/-- Clocks that have drifted apart. The external one refuses to be set, the other one may do so. -/
def drifted (mcu rtc : UInt64) (setFailure : Option DeviceError) : ClockBench :=
  { ClockBench.start with
    mcu := { time := .ofSeconds mcu, readFailure := none, setFailure }
    rtc := { time := .ofSeconds rtc, readFailure := none, setFailure := some .rejected } }

def unlogged (bench : ClockBench) : Contacted ClockBench :=
  { devices := bench, contacts := [] }

def atHundred {Env : Type} (env : Env) : Context Timekeeper Env :=
  { task :=
      { reference := some { mission := .ofSeconds 100, external := .ofSeconds 1000 }
        pending := none }
    state := { SystemState.initial with time := .ofSeconds 100 }
    env }

/-- The timekeeper when five hundred seconds are accepted and seven hundred are not. -/
def setOnce : Context Timekeeper (Contacted ClockBench) :=
  { task := { reference := none, pending := some (.ofSeconds 500) }
    state := { SystemState.initial with time := .ofSeconds 100 }
    env :=
      { devices := drifted 500 1060 (some .rejected), contacts := [.setMission (.ofSeconds 700)] } }

def movedOn : Context Timekeeper (Contacted ClockBench) :=
  { updateTelling (ClockBench.clocks true).contacted scribes.contacted setOnce with
    env := unlogged (drifted 510 1100 none) }

theorem explicit_time_applied_drifted :
    let clocks := ClockBench.clocks true
    let start := atHundred (unlogged (drifted 120 1060 none))
    let jump : TimeJump := { previous := .ofSeconds 100, current := .ofSeconds 500 }
    let after := updateTelling clocks.contacted scribes.contacted setOnce
    let deaf := atHundred (drifted 110 1030 (some .rejected))
    Course clocks.contacted scribes.contacted start
        [.setTime (.ofSeconds 500) (.ok ()), .setTime (.ofSeconds 700) (.error .rejected)]
        setOnce ∧
      after.state.time = .ofSeconds 500 ∧
      after.env.contacts = [.setMission (.ofSeconds 700), .tell 0 jump, .tell 1 jump] ∧
      (update clocks.contacted movedOn).2.state.time = .ofSeconds 510 ∧
      (start.task.setTime clocks.contacted (.ofSeconds 500) start.env).1 = true ∧
      ∃ finish, Course clocks scribes (afterSetTime clocks (.ofSeconds 700) deaf)
          [.update .ok none] finish ∧
        finish.showing id = (updateTelling clocks scribes deaf).showing id := by
  intro clocks start jump after deaf
  obtain ⟨applied, accepts, ignored⟩ := explicit_time_applied.{0, 0} clocks scribes
  have accepted : Course clocks.contacted scribes.contacted start
      [.setTime (.ofSeconds 500) (.ok ())] _ := Course.start.setTime (.ofSeconds 500)
  have course : Course clocks.contacted scribes.contacted start
      [.setTime (.ofSeconds 500) (.ok ()), .setTime (.ofSeconds 700) (.error .rejected)] setOnce :=
    (accepted.elsewhere start.state (unlogged (drifted 500 1060 (some .rejected)))).setTime
      (.ofSeconds 700)
  obtain ⟨-, state, -, contacts, clean⟩ :=
    applied _ _ _ (.ofSeconds 500) course (by simp [TimeCall.isUpdate]) rfl
  have later : Course clocks.contacted scribes.contacted after [] movedOn :=
    Course.start.elsewhere after.state (unlogged (drifted 510 1100 none))
  refine ⟨course, congrArg SystemState.time state, contacts, ?_,
    (accepts start (.ofSeconds 500) rfl).1, ?_⟩
  · have first := clean.first _ _ later (by simp) (by decide)
    exact (Except.ok.inj first).symm
  · obtain ⟨-, -, -, unnoticed⟩ := ignored deaf (.ofSeconds 700) .rejected rfl
    have updated : Course clocks scribes deaf [.update .ok none] _ := Course.start.update
    have whole : clocks.Mirrors id clocks :=
      ⟨⟨fun _ => rfl, fun _ _ => rfl⟩, .some ⟨fun _ => rfl, fun _ _ => rfl⟩⟩
    have follow : scribes.Follow id := fun observer _ jump _ _ same => congrArg (observer jump) same
    exact (unnoticed id clocks whole follow rfl _ _).mpr ⟨_, updated, rfl⟩

end Timekeeper

end Cubesat
