import Cubesat.Attitude.Detumbling
import Cubesat.Proofs.Clock.Passage
import Cubesat.Proofs.Task.Timing

/-!
Detumbling as a control loop: the task, the mode that it observes, and a
coordinator that may refuse what it is asked for.

The task is detumbling exactly as long as the coordinator is, although neither
start nor stop looks at both. A log of the requests is kept beside the
coordinator; what it has accepted takes turns.
-/

namespace Cubesat

universe u

inductive AdcsOrder where
  | start
  | stop
  deriving DecidableEq

namespace AdcsOrder

def mode : AdcsOrder → AdcsMode
  | start => .builtinDetumbling
  | stop => .stopped

def outcome : AdcsOrder → Detumbling
  | start => .detumbling
  | stop => .finished

/-- Starts and stops that take turns, in full rounds. -/
def turns (rounds : Nat) : List AdcsOrder :=
  (List.replicate rounds [start, stop]).flatten

theorem turns_succ (rounds : Nat) : turns (rounds + 1) = turns rounds ++ [start, stop] := by
  simp [turns, List.replicate_succ']

end AdcsOrder

structure AdcsRequest where
  order : AdcsOrder
  accepted : Bool
  deriving DecidableEq

/-- A coordinator with a log of what it was asked for. -/
structure AdcsLog (Devices : Type u) where
  devices : Devices
  /-- The requests in their order. -/
  requests : List AdcsRequest

def AdcsLog.accepted {Devices : Type u} (log : AdcsLog Devices) : List AdcsOrder :=
  (log.requests.filter (·.accepted)).map (·.order)

def AdcsUnit.logged {Devices : Type u} (adcs : AdcsUnit Devices) : AdcsUnit (AdcsLog Devices) where
  mode log := adcs.mode log.devices
  startDetumbling log :=
    let done := adcs.startDetumbling log.devices
    (done.1, { devices := done.2, requests := log.requests ++ [⟨.start, done.1.isOk⟩] })
  stop log :=
    let done := adcs.stop log.devices
    (done.1, { devices := done.2, requests := log.requests ++ [⟨.stop, done.1.isOk⟩] })

namespace Detumbling

variable {Env : Type u}

def cycle (window : DetumblingWindow) (adcs : AdcsUnit Env) (context : Context Detumbling Env) :
    Except Fault (Context Detumbling Env) :=
  (action window adcs).cycle (observation adcs) context

def order? (window : DetumblingWindow) (context : Context Detumbling Env) : Option AdcsOrder :=
  if canStart window context.state then some .start
  else if canStop window context.task context.state then some .stop
  else none

def request (adcs : AdcsUnit Env) (context : Context Detumbling Env) :
    AdcsOrder → Context Detumbling Env
  | .start => requestStart adcs context
  | .stop => requestStop adcs context

theorem canStart_iff {window : DetumblingWindow} {state : SystemState} :
    canStart window state = true ↔
      window.opens ≤ state.time ∧ state.time < window.closes ∧ state.adcs = .stopped ∧
        state.antenna.deployed = true ∧ state.settings.detumblingDisabled = false := by
  simp [canStart, and_assoc]

theorem canStop_iff {window : DetumblingWindow} {task : Detumbling} {state : SystemState} :
    canStop window task state = true ↔
      window.closes ≤ state.time ∧ task = .detumbling ∧ state.adcs ≠ .stopped := by
  simp [canStop, and_assoc]

/-- A start is due before the window closes, and a stop only from then on. -/
theorem canStop_eq_false_of_canStart {window : DetumblingWindow} {state : SystemState}
    (starts : canStart window state = true) (task : Detumbling) :
    canStop window task state = false := by
  rw [Bool.eq_false_iff]
  intro stops
  have early := (canStart_iff.mp starts).2.1
  have late := (canStop_iff.mp stops).1
  rw [Duration.lt_iff] at early
  rw [Duration.le_iff] at late
  omega

theorem order?_eq_start_iff {window : DetumblingWindow} {context : Context Detumbling Env} :
    order? window context = some .start ↔ canStart window context.state = true := by
  unfold order?
  by_cases starts : canStart window context.state = true
  · simp [starts]
  · by_cases stops : canStop window context.task context.state = true
    · simp [starts, stops]
    · simp [starts, stops]

theorem order?_eq_stop_iff {window : DetumblingWindow} {context : Context Detumbling Env} :
    order? window context = some .stop ↔
      canStop window context.task context.state = true := by
  unfold order?
  by_cases starts : canStart window context.state = true
  · simp [starts, canStop_eq_false_of_canStart starts]
  · simp [starts]

/-- A cycle makes the request that is due on what it has observed, and no other one. -/
theorem cycle_eq (window : DetumblingWindow) (adcs : AdcsUnit Env)
    (context : Context Detumbling Env) :
    cycle window adcs context =
      .ok ((order? window (update adcs context).2).elim (update adcs context).2
        (request adcs (update adcs context).2)) := by
  change (action window adcs).runIfRunnable (update adcs context).2 = _
  generalize (update adcs context).2 = observed
  cases starts : canStart window observed.state with
  | true =>
      have same : (requestStart adcs observed).state = observed.state :=
        requestStart_sameState adcs observed
      have late := canStop_eq_false_of_canStart starts (requestStart adcs observed).task
      rw [← same] at late
      simp [action, Action.runIfRunnable, Action.composite, Action.anyRunnable, Action.runEach,
        Action.ofPure, bind, Except.bind, pure, Except.pure, order?, request, starts, late]
  | false =>
      cases stops : canStop window observed.task observed.state with
      | true =>
          simp [action, Action.runIfRunnable, Action.composite, Action.anyRunnable,
            Action.runEach, Action.ofPure, bind, Except.bind, pure, Except.pure, order?, request,
            starts, stops]
      | false =>
          simp [action, Action.runIfRunnable, Action.composite, Action.anyRunnable, Action.ofPure,
            order?, starts, stops]

section Simulated

variable {window : DetumblingWindow}

structure Answered (order : AdcsOrder) (before after : Context Detumbling (AdcsLog SimulatedAdcs)) :
    Prop where
  state : after.state = before.state
  rejecting : after.env.devices.rejecting = before.env.devices.rejecting
  requests : after.env.requests =
    before.env.requests ++ [⟨order, !before.env.devices.rejecting⟩]
  mode : after.env.devices.mode =
    if before.env.devices.rejecting then before.env.devices.mode else order.mode
  task : after.task = if before.env.devices.rejecting then before.task else order.outcome

theorem request_answered (order : AdcsOrder)
    (context : Context Detumbling (AdcsLog SimulatedAdcs)) :
    Answered order context (request SimulatedAdcs.unit.logged context order) := by
  obtain ⟨task, state, ⟨mode, rejecting, startRequests, stopRequests⟩, requests⟩ := context
  cases order with
  | start =>
      cases rejecting with
      | true => exact ⟨rfl, rfl, rfl, rfl, rfl⟩
      | false => exact ⟨rfl, rfl, rfl, rfl, rfl⟩
  | stop =>
      cases rejecting with
      | true => exact ⟨rfl, rfl, rfl, rfl, rfl⟩
      | false => exact ⟨rfl, rfl, rfl, rfl, rfl⟩

/-- What the task and the coordinator have come to. -/
structure Controlled (context : Context Detumbling (AdcsLog SimulatedAdcs)) : Prop where
  mode : context.env.devices.mode =
    if context.task = .detumbling then .builtinDetumbling else .stopped
  turns : ∃ rounds, context.env.accepted =
    AdcsOrder.turns rounds ++ if context.task = .detumbling then [.start] else []

/--
The task in its cycles with a simulated coordinator. Between two cycles the
shared state may change in any way, and the coordinator may start or stop to
refuse requests.
-/
inductive Ran (window : DetumblingWindow) : Context Detumbling (AdcsLog SimulatedAdcs) → Prop
  | start (state : SystemState) (rejecting : Bool) :
      Ran window ⟨.idle, state, { SimulatedAdcs.idle with rejecting }, []⟩
  | elsewhere {context : Context Detumbling (AdcsLog SimulatedAdcs)} (ran : Ran window context)
      (state : SystemState) (rejecting : Bool) :
      Ran window { context with
        state, env := { context.env with devices := { context.env.devices with rejecting } } }
  | cycle {before after : Context Detumbling (AdcsLog SimulatedAdcs)} (ran : Ran window before)
      (cycled : cycle window SimulatedAdcs.unit.logged before = .ok after) : Ran window after

theorem Answered.accepted {order : AdcsOrder}
    {before after : Context Detumbling (AdcsLog SimulatedAdcs)}
    (answered : Answered order before after) :
    after.env.accepted =
      before.env.accepted ++ if before.env.devices.rejecting then [] else [order] := by
  unfold AdcsLog.accepted
  rw [answered.requests, List.filter_append, List.map_append]
  cases before.env.devices.rejecting with
  | true => rfl
  | false => rfl

theorem Controlled.mode_eq_iff {context : Context Detumbling (AdcsLog SimulatedAdcs)}
    (controlled : Controlled context) :
    context.env.devices.mode = .builtinDetumbling ↔ context.task = .detumbling := by
  rw [controlled.mode]
  by_cases detumbling : context.task = .detumbling
  · simp [detumbling]
  · simp [detumbling]

theorem Controlled.mode_eq_stopped_iff {context : Context Detumbling (AdcsLog SimulatedAdcs)}
    (controlled : Controlled context) :
    context.env.devices.mode = .stopped ↔ context.task ≠ .detumbling := by
  rw [controlled.mode]
  by_cases detumbling : context.task = .detumbling
  · simp [detumbling]
  · simp [detumbling]

theorem Controlled.order_eq_stop_iff {context : Context Detumbling (AdcsLog SimulatedAdcs)}
    (controlled : Controlled context) (observed : context.state.adcs = context.env.devices.mode)
    {order : AdcsOrder} (due : order? window context = some order) :
    order = .stop ↔ context.task = .detumbling := by
  cases order with
  | start =>
      have stopped := (canStart_iff.mp (order?_eq_start_iff.mp due)).2.2.1
      rw [observed, controlled.mode] at stopped
      simpa using stopped
  | stop =>
      have detumbling := (canStop_iff.mp (order?_eq_stop_iff.mp due)).2.1
      simp [detumbling]

theorem Controlled.answered {order : AdcsOrder}
    {before after : Context Detumbling (AdcsLog SimulatedAdcs)} (controlled : Controlled before)
    (stops : order = .stop ↔ before.task = .detumbling)
    (answered : Answered order before after) : Controlled after := by
  obtain ⟨rounds, turns⟩ := controlled.turns
  have accepted := answered.accepted
  have mode := answered.mode
  have task := answered.task
  cases refused : before.env.devices.rejecting with
  | true =>
      simp only [refused, if_true, List.append_nil] at accepted mode task
      refine ⟨?_, rounds, ?_⟩
      · rw [mode, task, controlled.mode]
      · rw [accepted, task, turns]
  | false =>
      simp only [refused, Bool.false_eq_true, if_false] at accepted mode task
      cases order with
      | start =>
          have idle : before.task ≠ .detumbling := by simpa using stops
          refine ⟨by rw [mode, task]; rfl, rounds, ?_⟩
          rw [accepted, task, turns, if_neg idle, List.append_nil]
          rfl
      | stop =>
          have detumbling : before.task = .detumbling := stops.mp rfl
          have finished : AdcsOrder.stop.outcome ≠ .detumbling := by decide
          refine ⟨by rw [mode, task]; rfl, rounds + 1, ?_⟩
          rw [accepted, task, turns, if_pos detumbling, if_neg finished, AdcsOrder.turns_succ,
            List.append_assoc, List.append_nil]
          rfl

/-- A cycle gives at most one order, and leaves everything else but the observed mode. -/
theorem cycle_cases (window : DetumblingWindow)
    (context : Context Detumbling (AdcsLog SimulatedAdcs)) :
    let observed := (update SimulatedAdcs.unit.logged context).2
    order? window observed = none ∧
        cycle window SimulatedAdcs.unit.logged context = .ok observed ∨
      ∃ order after, order? window observed = some order ∧
        cycle window SimulatedAdcs.unit.logged context = .ok after ∧
          Answered order observed after := by
  intro observed
  have cycled := cycle_eq window SimulatedAdcs.unit.logged context
  cases due : order? window observed with
  | none =>
      rw [due] at cycled
      exact .inl ⟨rfl, cycled⟩
  | some order =>
      rw [due] at cycled
      exact .inr ⟨order, _, rfl, cycled, request_answered order observed⟩

theorem Ran.controlled {context : Context Detumbling (AdcsLog SimulatedAdcs)}
    (ran : Ran window context) : Controlled context := by
  induction ran with
  | start => exact ⟨rfl, 0, rfl⟩
  | elsewhere _ _ _ inductionHypothesis =>
      -- The invariant is about the coordinator itself, and not about the mode in the state.
      exact ⟨inductionHypothesis.mode, inductionHypothesis.turns⟩
  | @cycle before after _ cycled inductionHypothesis =>
      have observed : Controlled (update SimulatedAdcs.unit.logged before).2 :=
        ⟨inductionHypothesis.mode, inductionHypothesis.turns⟩
      rcases cycle_cases window before with ⟨-, idle⟩ | ⟨order, next, due, done, answered⟩
      · rw [idle] at cycled
        cases cycled
        exact observed
      · rw [done] at cycled
        cases cycled
        exact observed.answered (observed.order_eq_stop_iff rfl due) answered

variable (window) in
theorem starts_iff (context : Context Detumbling (AdcsLog SimulatedAdcs)) :
    order? window (update SimulatedAdcs.unit.logged context).2 = some .start ↔
      window.opens ≤ context.state.time ∧ context.state.time < window.closes ∧
        context.env.devices.mode = .stopped ∧ context.state.antenna.deployed = true ∧
        context.state.settings.detumblingDisabled = false :=
  order?_eq_start_iff.trans canStart_iff

variable (window) in
/-- The coordinator is not stopped while the task is detumbling, so a stop need not ask for it. -/
theorem Controlled.stops_iff {context : Context Detumbling (AdcsLog SimulatedAdcs)}
    (controlled : Controlled context) :
    order? window (update SimulatedAdcs.unit.logged context).2 = some .stop ↔
      window.closes ≤ context.state.time ∧ context.task = .detumbling := by
  have mode := controlled.mode_eq_stopped_iff
  rw [order?_eq_stop_iff, canStop_iff]
  constructor
  · rintro ⟨late, detumbling, -⟩
    exact ⟨late, detumbling⟩
  · rintro ⟨late, detumbling⟩
    exact ⟨late, detumbling, fun stopped => mode.mp stopped detumbling⟩

/--
The control loop of detumbling. The coordinator detumbles exactly as long as the
task does, and is stopped otherwise. A cycle requests a start exactly inside the
window, with the antennas out, while not disabled and stopped; it requests a
stop exactly from the end of the window on, in every cycle until one is
accepted. What is accepted takes turns, and a coordinator that does not refuse
is stopped after every cycle from the end of the window on.
-/
theorem detumbles_within_window {context : Context Detumbling (AdcsLog SimulatedAdcs)}
    (ran : Ran window context) :
    (context.env.devices.mode = .builtinDetumbling ↔ context.task = .detumbling) ∧
      (context.env.devices.mode = .stopped ↔ context.task ≠ .detumbling) ∧
      (∃ rounds, context.env.accepted =
        AdcsOrder.turns rounds ++ if context.task = .detumbling then [.start] else []) ∧
      ∃ order after,
        cycle window SimulatedAdcs.unit.logged context = .ok after ∧
        after.env.requests = context.env.requests ++
          (order.map (AdcsRequest.mk · !context.env.devices.rejecting)).toList ∧
        (order = some .start ↔
          window.opens ≤ context.state.time ∧ context.state.time < window.closes ∧
            context.env.devices.mode = .stopped ∧ context.state.antenna.deployed = true ∧
            context.state.settings.detumblingDisabled = false) ∧
        (order = some .stop ↔
          window.closes ≤ context.state.time ∧ context.task = .detumbling) ∧
        after.task = (if context.env.devices.rejecting then context.task
          else (order.map AdcsOrder.outcome).getD context.task) ∧
        (window.closes ≤ context.state.time → context.env.devices.rejecting = false →
          after.env.devices.mode = .stopped) := by
  have controlled := ran.controlled
  have stopped := controlled.mode_eq_stopped_iff
  have starts := starts_iff window context
  have stops := controlled.stops_iff window
  refine ⟨controlled.mode_eq_iff, stopped, controlled.turns, ?_⟩
  rcases cycle_cases window context with ⟨due, idle⟩ | ⟨order, after, due, done, answered⟩
  · rw [due] at starts stops
    refine ⟨none, _, idle, (List.append_nil _).symm, starts, stops, (ite_self _).symm, ?_⟩
    intro late _
    apply stopped.mpr
    intro detumbling
    cases stops.mpr ⟨late, detumbling⟩
  · rw [due] at starts stops
    refine ⟨some order, after, done, answered.requests, starts, stops, answered.task, ?_⟩
    intro late obeys
    cases order with
    | start =>
        have early := (starts.mp rfl).2.1
        rw [Duration.lt_iff] at early
        rw [Duration.le_iff] at late
        omega
    | stop => exact answered.mode.trans (if_neg (Bool.eq_false_iff.mp obeys))

end Simulated

def placedAt (seconds : UInt64) (rejecting : Bool)
    (context : Context Detumbling (AdcsLog SimulatedAdcs)) :
    Context Detumbling (AdcsLog SimulatedAdcs) :=
  { context with
    state := { context.state with time := .ofSeconds seconds, antenna := .all true }
    env := { context.env with devices := { context.env.devices with rejecting } } }

def cycled (context : Context Detumbling (AdcsLog SimulatedAdcs)) :
    Context Detumbling (AdcsLog SimulatedAdcs) :=
  ((cycle .standard SimulatedAdcs.unit.logged context).toOption).getD context

theorem Ran.cycled {context : Context Detumbling (AdcsLog SimulatedAdcs)}
    (ran : Ran .standard context) : Ran .standard (Detumbling.cycled context) := by
  unfold Detumbling.cycled
  cases done : Detumbling.cycle .standard SimulatedAdcs.unit.logged context with
  | error fault => exact ran
  | ok after => exact ran.cycle done

/-- Detumbling has been started, and the stop at the end of the window has been refused. -/
def overdue : Context Detumbling (AdcsLog SimulatedAdcs) :=
  placedAt 10900 false
    (cycled (placedAt 10800 true
      (cycled (placedAt 3000 false ⟨.idle, .initial, SimulatedAdcs.idle, []⟩))))

/-- The refused stop is requested again, and the coordinator is stopped after it. -/
theorem detumbles_within_window_overdue : ∃ after,
    Ran .standard overdue ∧
      overdue.env.requests = [⟨.start, true⟩, ⟨.stop, false⟩] ∧
      cycle .standard SimulatedAdcs.unit.logged overdue = .ok after ∧
      after.env.requests = overdue.env.requests ++ [⟨.stop, true⟩] ∧
      after.task = .finished ∧ after.env.devices.mode = .stopped := by
  have idle : Ran .standard ⟨.idle, .initial, SimulatedAdcs.idle, []⟩ := .start .initial false
  have started : Ran .standard (cycled (placedAt 3000 false _)) := (idle.elsewhere _ _).cycled
  have refused : Ran .standard (cycled (placedAt 10800 true _)) := (started.elsewhere _ _).cycled
  have ran : Ran .standard overdue := refused.elsewhere _ _
  obtain ⟨-, -, -, order, after, done, requests, -, stops, task, obeys⟩ :=
    detumbles_within_window ran
  have due : order = some .stop := stops.mpr (by decide)
  subst due
  exact ⟨after, ran, by decide, done, requests, task, obeys (by decide) rfl⟩

end Detumbling

end Cubesat
