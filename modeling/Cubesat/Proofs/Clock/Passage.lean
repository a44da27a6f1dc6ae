import Cubesat.Mission.Action
import Cubesat.State
import Mathlib.Algebra.GroupWithZero.Nat
import Mathlib.Order.Monotone.Basic

/-!
Mission time going by, for a task that keeps a time stamp.

Mission time moves on by itself, and explicit changes move it in either
direction. A task moves its stamp along with the explicit changes. What becomes
of the stamp is proved here once: a stamp of the past keeps the time that has
elapsed since, cut to the new mission time, and a deadline keeps the time that
is left.
-/

namespace Cubesat

universe u v

namespace Duration

theorem movedBy_left {deadline : Duration} {jump : TimeJump}
    (room : deadline.nanos + (jump.current.nanos - jump.previous.nanos) ≤ longest.nanos) :
    (deadline.movedBy jump).nanos - jump.current.nanos =
      deadline.nanos - jump.previous.nanos := by
  unfold movedBy
  by_cases forwards : jump.previous ≤ jump.current
  · rw [if_pos forwards, nanos_saturatingAdd, nanos_saturatingSub]
    rw [le_iff] at forwards
    omega
  · rw [if_neg forwards, nanos_saturatingSub, nanos_saturatingSub]
    rw [le_iff] at forwards
    omega

theorem movedBy_elapsed {stamp : Duration} {jump : TimeJump} {elapsed : Nat}
    (past : stamp.nanos + elapsed = jump.previous.nanos) :
    (stamp.movedBy jump).nanos + min elapsed jump.current.nanos = jump.current.nanos := by
  have bound := jump.current.nanos_lt
  unfold movedBy
  by_cases forwards : jump.previous ≤ jump.current
  · rw [if_pos forwards, nanos_saturatingAdd, nanos_saturatingSub]
    rw [le_iff] at forwards
    simp only [longest]
    omega
  · rw [if_neg forwards, nanos_saturatingSub, nanos_saturatingSub]
    rw [le_iff] at forwards
    omega

end Duration

inductive TimeEvent where
  | natural (nanos : Nat)
  | explicit (current : Duration)

namespace TimeEvent

def lasting : TimeEvent → Nat
  | natural nanos => nanos
  | explicit _ => 0

/-- What becomes of an elapsed time. More than the new mission time cannot have elapsed. -/
def elapse (elapsed : Nat) : TimeEvent → Nat
  | natural nanos => elapsed + nanos
  | explicit current => min elapsed current.nanos

end TimeEvent

def naturalTime (events : List TimeEvent) : Nat :=
  (events.map TimeEvent.lasting).sum

def elapsedTime (events : List TimeEvent) : Nat :=
  events.foldl TimeEvent.elapse 0

@[simp]
theorem naturalTime_concat (events : List TimeEvent) (event : TimeEvent) :
    naturalTime (events ++ [event]) = naturalTime events + event.lasting := by
  simp [naturalTime]

@[simp]
theorem elapsedTime_concat (events : List TimeEvent) (event : TimeEvent) :
    elapsedTime (events ++ [event]) = event.elapse (elapsedTime events) := by
  simp [elapsedTime]

theorem TimeEvent.elapse_monotone (event : TimeEvent) :
    Monotone fun elapsed => event.elapse elapsed := by
  intro shorter longer bound
  cases event with
  | natural nanos => exact Nat.add_le_add_right bound nanos
  | explicit current =>
      simp only [elapse]
      omega

theorem elapsedTime_append (front rest : List TimeEvent) :
    elapsedTime (front ++ rest) = rest.foldl TimeEvent.elapse (elapsedTime front) :=
  List.foldl_append

theorem elapsedTime_jump_le (front rest : List TimeEvent) (current : Duration) :
    elapsedTime (front ++ .explicit current :: rest) ≤ elapsedTime (front ++ rest) := by
  rw [elapsedTime_append, elapsedTime_append, List.foldl_cons]
  exact List.foldl_monotone TimeEvent.elapse_monotone rest (min_le_left _ _)

/-- A change to a time beyond the elapsed one takes nothing off it. -/
theorem elapsedTime_jump_eq {front : List TimeEvent} {current : Duration}
    (beyond : elapsedTime front ≤ current.nanos) (rest : List TimeEvent) :
    elapsedTime (front ++ .explicit current :: rest) = elapsedTime (front ++ rest) := by
  rw [elapsedTime_append, elapsedTime_append, List.foldl_cons, TimeEvent.elapse,
    min_eq_left beyond]

/-- A task that keeps a time stamp, and moves it along with explicit changes of mission time. -/
structure TimeFollower (Task : Type u) where
  timeChanged : TimeJump → Task → Task
  stamp : Task → Option Duration
  stamp_timeChanged : ∀ jump task, stamp (timeChanged jump task) = (stamp task).map (·.movedBy jump)

/-- The stamp, moved along with a change, does not pass the longest duration. -/
def TimeFollower.Fits {Task : Type u} (follower : TimeFollower Task) (task : Task)
    (jump : TimeJump) : Prop :=
  ∀ stamp, follower.stamp task = some stamp →
    stamp.nanos + (jump.current.nanos - jump.previous.nanos) ≤ Duration.longest.nanos

def Action.cycle {State : Type u} (action : Action State) (observation : Update State)
    (state : State) : Except Fault State :=
  action.runIfRunnable (observation.run state).2

theorem Action.cycle_ofPure {State : Type u} (name : String) (condition : State → Bool)
    (execute : State → Except Fault State) (observation : Update State) (state : State) :
    (ofPure name condition execute).cycle observation state =
      if condition (observation.run state).2 then execute (observation.run state).2
      else .ok (observation.run state).2 := rfl

variable {Task : Type u} {Env : Type v}

def TimeFollower.jump (follower : TimeFollower Task) (current : Duration)
    (context : Context Task Env) : Context Task Env :=
  { context with
    task := follower.timeChanged { previous := context.state.time, current } context.task
    state := { context.state with time := current } }

theorem TimeFollower.stamp_jump (follower : TimeFollower Task) (current : Duration)
    {context : Context Task Env} {stamp : Duration}
    (stamped : follower.stamp context.task = some stamp) :
    follower.stamp (follower.jump current context).task =
      some (stamp.movedBy { previous := context.state.time, current }) := by
  rw [jump, follower.stamp_timeChanged, stamped]
  rfl

/--
What happens between two contexts of a task, with the movements of mission time
in their order: acts of the task or around it, and mission time going by.
-/
inductive Passage (follower : TimeFollower Task) (admits : Task → TimeJump → Prop)
    (act : Context Task Env → Context Task Env → Prop) (start : Context Task Env) :
    List TimeEvent → Context Task Env → Prop
  | start : Passage follower admits act start [] start
  | elapse {events : List TimeEvent} {context : Context Task Env}
      (passage : Passage follower admits act start events context) (time : Duration)
      (later : context.state.time ≤ time) :
      Passage follower admits act start
        (events ++ [.natural (time.nanos - context.state.time.nanos)])
        { context with state := { context.state with time } }
  | jump {events : List TimeEvent} {context : Context Task Env}
      (passage : Passage follower admits act start events context) (current : Duration)
      (admitted : admits context.task { previous := context.state.time, current }) :
      Passage follower admits act start (events ++ [.explicit current])
        (follower.jump current context)
  | act {events : List TimeEvent} {context after : Context Task Env}
      (passage : Passage follower admits act start events context) (acted : act context after) :
      Passage follower admits act start events after

abbrev AnyPassage (follower : TimeFollower Task)
    (act : Context Task Env → Context Task Env → Prop) (start : Context Task Env) :
    List TimeEvent → Context Task Env → Prop :=
  Passage follower (fun _ _ => True) act start

/-- Neither mission time going by nor any act disturbs a task while it is running. -/
structure Persists (follower : TimeFollower Task) (act : Context Task Env → Context Task Env → Prop)
    (running : Context Task Env → Prop) : Prop where
  elapse : ∀ context time, running context →
    running { context with state := { context.state with time } }
  jump : ∀ context current, running context → running (follower.jump current context)
  act : ∀ before after, act before after → running before →
    running after ∧ after.state.time = before.state.time ∧
      follower.stamp after.task = follower.stamp before.task

namespace Passage

variable {follower : TimeFollower Task} {admits : Task → TimeJump → Prop}
  {act : Context Task Env → Context Task Env → Prop} {running : Context Task Env → Prop}
  {start context : Context Task Env} {events : List TimeEvent}

theorem keeps (passage : Passage follower admits act start events context)
    (persists : Persists follower act running) (started : running start) : running context := by
  induction passage with
  | start => exact started
  | elapse _ time _ inductionHypothesis => exact persists.elapse _ time inductionHypothesis
  | jump _ current _ inductionHypothesis => exact persists.jump _ current inductionHypothesis
  | act _ acted inductionHypothesis => exact (persists.act _ _ acted inductionHypothesis).1

/-- The time that is left until a deadline goes by with natural time, and only with it. -/
theorem left (passage : Passage follower follower.Fits act start events context)
    (persists : Persists follower act running) (started : running start) {deadline : Duration}
    (stamped : follower.stamp start.task = some deadline) :
    ∃ stamp, follower.stamp context.task = some stamp ∧
      stamp.nanos - context.state.time.nanos =
        deadline.nanos - start.state.time.nanos - naturalTime events := by
  induction passage with
  | start => exact ⟨deadline, stamped, rfl⟩
  | elapse _ time later inductionHypothesis =>
      obtain ⟨stamp, same, left⟩ := inductionHypothesis
      refine ⟨stamp, same, ?_⟩
      rw [Duration.le_iff] at later
      simp only [naturalTime_concat, TimeEvent.lasting]
      omega
  | jump _ current admitted inductionHypothesis =>
      obtain ⟨stamp, same, left⟩ := inductionHypothesis
      have moved := Duration.movedBy_left (admitted stamp same)
      refine ⟨_, follower.stamp_jump current same, ?_⟩
      rw [naturalTime_concat]
      exact moved.trans left
  | act passage acted inductionHypothesis =>
      obtain ⟨stamp, same, left⟩ := inductionHypothesis
      obtain ⟨-, time, kept⟩ := persists.act _ _ acted (passage.keeps persists started)
      refine ⟨stamp, kept.trans same, ?_⟩
      rw [time, left]

/-- A stamp of the past stays one, and lies back by the elapsed time of the events. -/
theorem elapsed (passage : Passage follower admits act start events context)
    (persists : Persists follower act running) (started : running start)
    (stamped : follower.stamp start.task = some start.state.time) :
    ∃ stamp, follower.stamp context.task = some stamp ∧
      stamp.nanos + elapsedTime events = context.state.time.nanos := by
  induction passage with
  | start => exact ⟨start.state.time, stamped, rfl⟩
  | elapse _ time later inductionHypothesis =>
      obtain ⟨stamp, same, parts⟩ := inductionHypothesis
      refine ⟨stamp, same, ?_⟩
      rw [Duration.le_iff] at later
      simp only [elapsedTime_concat, TimeEvent.elapse]
      omega
  | jump _ current _ inductionHypothesis =>
      obtain ⟨stamp, same, parts⟩ := inductionHypothesis
      refine ⟨_, follower.stamp_jump current same, ?_⟩
      rw [elapsedTime_concat]
      exact Duration.movedBy_elapsed parts
  | act passage acted inductionHypothesis =>
      obtain ⟨stamp, same, parts⟩ := inductionHypothesis
      obtain ⟨-, time, kept⟩ := persists.act _ _ acted (passage.keeps persists started)
      refine ⟨stamp, kept.trans same, ?_⟩
      rw [time, parts]

end Passage

end Cubesat
