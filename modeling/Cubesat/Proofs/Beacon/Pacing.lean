import Cubesat.Proofs.Clock.Elapsed
import Cubesat.Proofs.Codec.Forms
import Cubesat.Proofs.Settings.Image

/-!
When beacons are sent.

A history of the requests and of the frames that were handed over is kept beside
the task, with the times. Two questions to the history, whether a request is
pending and when a beacon was last accepted, are all that the task remembers,
and they decide each cycle.
-/

namespace Cubesat

universe u

namespace Beacon

def frame (state : SystemState) : Bytes :=
  Codec.beacon.encode (ofState state)

/-- The call sign takes at most seventeen bytes, the time nine, and the rest one each. -/
theorem length_frame_le (state : SystemState) : (frame state).length ≤ 29 := by
  have callsign : (Codec.blob.encode (ofState state).callsign).length ≤ 17 := by
    have size := Codec.length_callsign state.settings.callsign
    have short := state.settings.callsign.fits
    exact Nat.le_trans (Nat.le_of_eq size) (by omega)
  have time : (Codec.uint64.encode (ofState state).timestampMillis).length ≤ 9 := by
    have marked : Varint.word64.markedWidth? 253 = some 8 := rfl
    exact Varint.length_encode_le marked (UInt64.toNat_lt _)
  have antenna : (Codec.flag.encode (ofState state).antennaDeployed).length = 1 := rfl
  have sail : ((Codec.choice SailState.all).encode (ofState state).sail).length = 1 := by
    cases (ofState state).sail <;> rfl
  have adcs : ((Codec.choice AdcsMode.all).encode (ofState state).adcs).length = 1 := by
    cases (ofState state).adcs <;> rfl
  simp only [frame, Codec.beacon, Codec.encode_refine, Codec.encode_pair, List.length_append,
    antenna, sail, adcs]
  omega

theorem encodeWithin?_eq (state : SystemState) :
    (ofState state).encodeWithin? Comm.maxDownlinkSize = some (frame state) := by
  have fits : (frame state).length ≤ Comm.maxDownlinkSize :=
    Nat.le_trans (length_frame_le state) (by decide)
  exact if_pos fits

end Beacon

inductive BeaconEvent where
  | requested
  | sent (time : Duration) (frame : Bytes) (accepted : Bool)

namespace BeaconEvent

def acceptedAt? : BeaconEvent → Option Duration
  | sent time _ true => some time
  | _ => none

def isRequest : BeaconEvent → Bool
  | requested => true
  | sent _ _ _ => false

def lastAccepted? (events : List BeaconEvent) : Option Duration :=
  events.findSome? acceptedAt?

/-- Whether there has been a request since a beacon was last accepted. -/
def isPending (events : List BeaconEvent) : Bool :=
  (events.takeWhile fun event => event.acceptedAt?.isNone).any isRequest

def ofHanded (time : Duration) (handed : List (Bytes × Bool)) : List BeaconEvent :=
  handed.map fun (frame, accepted) => sent time frame accepted

variable {between : List BeaconEvent}

def AllRefused (events : List BeaconEvent) : Prop :=
  ∀ event ∈ events, ∃ time frame, event = sent time frame false

theorem AllRefused.lastAccepted?_append (refused : AllRefused between)
    (events : List BeaconEvent) : lastAccepted? (between ++ events) = lastAccepted? events := by
  have none : between.findSome? acceptedAt? = none := by
    rw [List.findSome?_eq_none_iff]
    intro event membership
    obtain ⟨time, frame, rfl⟩ := refused event membership
    rfl
  rw [lastAccepted?, List.findSome?_append, none]
  rfl

theorem AllRefused.isPending_append (refused : AllRefused between) (events : List BeaconEvent) :
    isPending (between ++ events) = isPending events := by
  have passed : ∀ event ∈ between, event.acceptedAt?.isNone = true := by
    intro event membership
    obtain ⟨time, frame, rfl⟩ := refused event membership
    rfl
  have unasked : between.any isRequest = false := by
    rw [List.any_eq_false]
    intro event membership
    obtain ⟨time, frame, rfl⟩ := refused event membership
    exact Bool.false_ne_true
  rw [isPending, List.takeWhile_append_of_pos passed, List.any_append, unasked, Bool.false_or]
  rfl

/-- Consecutive accepted beacons without a request between them are an interval apart. -/
def Spaced (interval : Duration) (events : List BeaconEvent) : Prop :=
  ∀ (newer between older : List BeaconEvent) (early late : Duration) (first second : Bytes),
    events = newer ++ sent late second true :: (between ++ sent early first true :: older) →
    AllRefused between → early.nanos + interval.nanos ≤ late.nanos

theorem Spaced.cons {interval : Duration} {events : List BeaconEvent} {event : BeaconEvent}
    (spaced : Spaced interval events)
    (apart : ∀ late, event.acceptedAt? = some late → isPending events = false →
      ∀ early, lastAccepted? events = some early → early.nanos + interval.nanos ≤ late.nanos) :
    Spaced interval (event :: events) := by
  intro newer between older early late first second split refused
  cases newer with
  | nil =>
      obtain ⟨rfl, rfl⟩ := List.cons.inj split
      apply apart late rfl
      · rw [refused.isPending_append]
        rfl
      · rw [refused.lastAccepted?_append]
        rfl
  | cons latest newer =>
      obtain ⟨-, rest⟩ := List.cons.inj split
      exact spaced newer between older early late first second rest refused

end BeaconEvent

namespace Broadcast

variable {Env Devices : Type u}

def cycle (interval : Duration) (transmitter : Transmitter Env) (context : Context Broadcast Env) :
    Except Fault (Context Broadcast Env) :=
  (action interval transmitter).runIfRunnable context

theorem cycle_eq (interval : Duration) (transmitter : Transmitter Env)
    (context : Context Broadcast Env) :
    cycle interval transmitter context =
      .ok (if condition interval context.task context.state then execute transmitter context
        else context) := by
  unfold cycle Action.runIfRunnable action Action.ofPure
  dsimp only
  split
  · rfl
  · rfl

def justSent (time : Duration) : Broadcast :=
  { lastSent := some time, forced := false }

def handingOver (accepted : Bool) (devices : Devices)
    (context : Context Broadcast (FrameLog Devices)) : Context Broadcast (FrameLog Devices) :=
  { context with
    task := if accepted then .justSent context.state.time else context.task
    env := { devices, handed := (Beacon.frame context.state, accepted) :: context.env.handed } }

theorem execute_eq (transmitter : Transmitter Devices)
    (context : Context Broadcast (FrameLog Devices)) :
    let sent := transmitter.send (Beacon.frame context.state) context.env.devices
    execute transmitter.logged context = handingOver sent.1 sent.2 context := by
  intro sent
  rw [execute, Beacon.encodeWithin?_eq]
  cases answer : sent.1 with
  | true => simp [Transmitter.logged, handingOver, justSent, sent, answer]
  | false => simp [Transmitter.logged, handingOver, sent, answer]

/--
The task in its cycles, with the events so far. Mission time does not go back;
apart from that the shared state and the devices may change in any way between
two cycles, and requests may come at any time.
-/
inductive Ran (interval : Duration) (transmitter : Transmitter Devices) :
    List BeaconEvent → Context Broadcast (FrameLog Devices) → Prop
  | start (state : SystemState) (devices : Devices) :
      Ran interval transmitter [] ⟨.start, state, devices, []⟩
  | request {events : List BeaconEvent} {context : Context Broadcast (FrameLog Devices)}
      (ran : Ran interval transmitter events context) :
      Ran interval transmitter (.requested :: events)
        { context with task := context.task.requestImmediate }
  | elsewhere {events : List BeaconEvent} {context : Context Broadcast (FrameLog Devices)}
      (ran : Ran interval transmitter events context) (state : SystemState) (devices : Devices)
      (later : context.state.time ≤ state.time) :
      Ran interval transmitter events
        { context with state, env := { context.env with devices } }
  | cycle {events : List BeaconEvent} {before after : Context Broadcast (FrameLog Devices)}
      (ran : Ran interval transmitter events before)
      (cycled : cycle interval transmitter.logged before = .ok after)
      {handed : List (Bytes × Bool)} (added : after.env.handed = handed ++ before.env.handed) :
      Ran interval transmitter (BeaconEvent.ofHanded before.state.time handed ++ events) after

open BeaconEvent

/-- What the history asks a cycle for: a frame if one is wanted, or if the interval has passed. -/
def IsDue (interval : Duration) (events : List BeaconEvent) (state : SystemState) : Prop :=
  state.antenna.deployed = true ∧
    (isPending events = true ∨ lastAccepted? events = none ∨
      ∃ sent, lastAccepted? events = some sent ∧
        sent.nanos + interval.nanos ≤ state.time.nanos)

/-- The task remembers what matters of the history, and has kept to the interval. -/
structure Recalls (interval : Duration) (events : List BeaconEvent)
    (context : Context Broadcast (FrameLog Devices)) : Prop where
  forced : context.task.forced = isPending events
  lastSent : context.task.lastSent = lastAccepted? events
  past : ∀ sent, lastAccepted? events = some sent → sent ≤ context.state.time
  spaced : Spaced interval events

variable {interval : Duration} {transmitter : Transmitter Devices} {events : List BeaconEvent}
  {context : Context Broadcast (FrameLog Devices)}

theorem Recalls.condition_iff (recalls : Recalls interval events context) :
    condition interval context.task context.state = true ↔
      IsDue interval events context.state := by
  unfold condition IsDue
  rw [recalls.forced, recalls.lastSent, Bool.and_eq_true, Bool.or_eq_true]
  cases last : lastAccepted? events with
  | none => simp
  | some sent =>
      have past := recalls.past sent last
      rw [Duration.le_iff] at past
      simp only [decide_eq_true_eq, Duration.le_iff, Duration.nanos_saturatingSub, reduceCtorEq,
        Option.some.injEq, exists_eq_left', false_or]
      rw [Nat.le_sub_iff_add_le past, Nat.add_comm]

variable (transmitter) in
/-- A cycle hands over one frame if the history asks for it, and none otherwise. -/
theorem Recalls.cycle_cases (recalls : Recalls interval events context) :
    IsDue interval events context.state ∧
        (∃ accepted devices, cycle interval transmitter.logged context =
          .ok (handingOver accepted devices context)) ∨
      ¬ IsDue interval events context.state ∧
        cycle interval transmitter.logged context = .ok context := by
  rw [cycle_eq, ← recalls.condition_iff]
  by_cases due : condition interval context.task context.state = true
  · rw [if_pos due, execute_eq]
    exact .inl ⟨due, _, _, rfl⟩
  · rw [if_neg due]
    exact .inr ⟨due, rfl⟩

theorem Recalls.sent (recalls : Recalls interval events context)
    (due : IsDue interval events context.state) (accepted : Bool) (devices : Devices) :
    Recalls interval
      (.sent context.state.time (Beacon.frame context.state) accepted :: events)
      (handingOver accepted devices context) := by
  cases accepted with
  | true =>
      refine ⟨rfl, rfl, ?_, recalls.spaced.cons ?_⟩
      · intro sent last
        cases last
        exact Nat.le_refl _
      · intro late same unasked early last
        cases same
        rcases due.2 with pending | never | ⟨sent, found, passed⟩
        · rw [unasked] at pending
          contradiction
        · rw [last] at never
          contradiction
        · rw [last] at found
          cases found
          exact passed
  | false =>
      refine ⟨recalls.forced, recalls.lastSent, recalls.past, recalls.spaced.cons ?_⟩
      intro late refused
      cases refused

theorem Ran.recalls (ran : Ran interval transmitter events context) :
    Recalls interval events context := by
  induction ran with
  | start =>
      refine ⟨rfl, rfl, nofun, ?_⟩
      intro newer between older early late first second split
      exact absurd split.symm (List.append_ne_nil_of_right_ne_nil _ (List.cons_ne_nil _ _))
  | request _ inductionHypothesis =>
      refine ⟨rfl, inductionHypothesis.lastSent, inductionHypothesis.past, ?_⟩
      exact inductionHypothesis.spaced.cons nofun
  | elsewhere _ _ _ later inductionHypothesis =>
      obtain ⟨forced, lastSent, past, spaced⟩ := inductionHypothesis
      exact ⟨forced, lastSent, fun sent last => Nat.le_trans (past sent last) later, spaced⟩
  | @cycle _ before _ _ cycled handed added inductionHypothesis =>
      rcases inductionHypothesis.cycle_cases transmitter with
        ⟨due, accepted, devices, sends⟩ | ⟨-, idles⟩
      · rw [sends] at cycled
        cases cycled
        have parts : [_] ++ before.env.handed = handed ++ before.env.handed := added
        obtain rfl := List.append_cancel_right parts
        exact inductionHypothesis.sent due accepted devices
      · rw [idles] at cycled
        cases cycled
        obtain rfl := List.self_eq_append_left.mp added
        exact inductionHypothesis

/--
Beacons are sent exactly when they are due. The next cycle hands over one frame,
the beacon of its state, if the antennas are out and a request is pending, no
beacon has been accepted yet, or the interval has passed since the last accepted
one; it hands over none otherwise. Only an accepted frame changes the task: a
request is pending until one is accepted, whatever happens in between. Accepted
beacons with only refused ones between them are an interval apart.
-/
theorem sends_when_due (ran : Ran interval transmitter events context) :
    (∃ handed after, cycle interval transmitter.logged context = .ok after ∧
      after.env.handed = handed ++ context.env.handed ∧
      (IsDue interval events context.state → ∃ accepted,
        handed = [(Beacon.frame context.state, accepted)]) ∧
      (¬ IsDue interval events context.state → handed = []) ∧
      after.task = if handed.any (·.2) then .justSent context.state.time else context.task) ∧
      context.task = { lastSent := lastAccepted? events, forced := isPending events } ∧
      Spaced interval events := by
  have recalls := ran.recalls
  refine ⟨?_, ?_, recalls.spaced⟩
  · rcases recalls.cycle_cases transmitter with
      ⟨due, accepted, devices, sends⟩ | ⟨undue, idles⟩
    · refine ⟨[_], _, sends, rfl, fun _ => ⟨accepted, rfl⟩, fun undue => absurd due undue, ?_⟩
      rw [List.any_cons, List.any_nil, Bool.or_false]
      rfl
    · exact ⟨[], _, idles, rfl, fun due => absurd due undue, fun _ => rfl, rfl⟩
  · rw [← recalls.lastSent, ← recalls.forced]

theorem Ran.execute (ran : Ran interval transmitter events context)
    (due : condition interval context.task context.state = true) :
    Ran interval transmitter
      (.sent context.state.time (Beacon.frame context.state)
        (transmitter.send (Beacon.frame context.state) context.env.devices).1 :: events)
      (execute transmitter.logged context) := by
  have cycled : Broadcast.cycle interval transmitter.logged context =
      .ok (Broadcast.execute transmitter.logged context) := by
    rw [cycle_eq, if_pos due]
  have added : (Broadcast.execute transmitter.logged context).env.handed = [_] ++ _ :=
    congrArg (·.env.handed) (execute_eq transmitter context)
  exact ran.cycle cycled added

def refused : Context Broadcast (FrameLog PlannedTransmitter) :=
  execute PlannedTransmitter.unit.logged
    { aired with
      task := aired.task.requestImmediate
      state := { aired.state with time := .ofSeconds 1020 }
      env := { aired.env with devices := { aired.env.devices with answers := [false] } } }

/-- The request outlives the refusal: the next cycle sends another frame at once. -/
theorem sends_when_due_refused : ∃ events accepted after,
    Ran (.ofSeconds 300) PlannedTransmitter.unit events refused ∧
      events = [.sent (.ofSeconds 1020) (Beacon.frame refused.state) false, .requested,
        .sent (.ofSeconds 1000) (Beacon.frame silent.state) true] ∧
      cycle (.ofSeconds 300) PlannedTransmitter.unit.logged refused = .ok after ∧
      after.env.handed = (Beacon.frame refused.state, accepted) :: refused.env.handed := by
  have started : Ran (.ofSeconds 300) PlannedTransmitter.unit [] silent := .start _ _
  have sent := started.execute (by decide)
  have asked := sent.request.elsewhere { aired.state with time := .ofSeconds 1020 }
    { aired.env.devices with answers := [false] } (by decide)
  have ran := asked.execute (by decide)
  obtain ⟨⟨handed, after, cycled, added, sends, -⟩, -⟩ := sends_when_due ran
  obtain ⟨accepted, rfl⟩ := sends ⟨by decide, .inl (by decide)⟩
  exact ⟨_, accepted, after, ran, rfl, cycled, added⟩

end Broadcast

end Cubesat
