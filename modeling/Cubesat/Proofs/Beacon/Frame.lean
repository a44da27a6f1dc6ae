import Cubesat.Proofs.Beacon.Pacing
import Cubesat.Proofs.Comm.Downlink

/-!
The beacon as bytes: what it takes, what is read back, and what the transmitter
gets.

Only the call sign and the time vary in size. A state's call sign is short and
its time is cut to 64 bits, so that every state's beacon fits into a frame with
room to spare, and a cycle that is to send one always has one to send.
-/

namespace Cubesat

universe u v

def Varint.width (number : Nat) : Nat :=
  if number < 251 then 1
  else if number < 65536 then 3
  else if number < 4294967296 then 5
  else 9

theorem Varint.length_encode (number : Nat) : (encode number).length = width number := by
  unfold encode width
  split_ifs
  · rfl
  · rfl
  · rfl
  · rfl

namespace Codec

theorem length_uint64 (number : UInt64) :
    (uint64.encode number).length = Varint.width number.toNat :=
  Varint.length_encode _

theorem length_blob (bytes : Bytes) :
    (blob.encode bytes).length = Varint.width bytes.length + bytes.length := by
  simp only [blob, List.length_append, Varint.length_encode]

theorem uint64_givesBack (number : UInt64) : uint64.GivesBack number :=
  (varint_givesBack _).refine (by simp)

theorem sailState_givesBack (sail : SailState) : (choice SailState.all).GivesBack sail :=
  choice_givesBack (by cases sail <;> decide) (by decide)

theorem adcsMode_givesBack (adcs : AdcsMode) : (choice AdcsMode.all).GivesBack adcs :=
  choice_givesBack (by cases adcs <;> decide) (by decide)

end Codec

namespace Beacon

/-- The bytes that a beacon takes: three of them are the flag, the sail and the mode. -/
def encodedSize (beacon : Beacon) : Nat :=
  Varint.width beacon.callsign.length + beacon.callsign.length +
    Varint.width beacon.timestampMillis.toNat + 3

theorem length_encode (beacon : Beacon) :
    (Codec.beacon.encode beacon).length = beacon.encodedSize := by
  have antenna : (Codec.flag.encode beacon.antennaDeployed).length = 1 := rfl
  have sail : ((Codec.choice SailState.all).encode beacon.sail).length = 1 := by
    cases beacon.sail <;> rfl
  have adcs : ((Codec.choice AdcsMode.all).encode beacon.adcs).length = 1 := by
    cases beacon.adcs <;> rfl
  simp only [Codec.beacon, Codec.encode_refine, Codec.encode_pair, List.length_append,
    Codec.length_blob, Codec.length_uint64, antenna, sail, adcs, encodedSize]
  omega

theorem givesBack {beacon : Beacon} (short : beacon.callsign.length < 18446744073709551616) :
    Codec.beacon.GivesBack beacon :=
  ((Codec.blob_givesBack short).pair ((Codec.uint64_givesBack _).pair
    ((Codec.flag_givesBack _).pair
      ((Codec.sailState_givesBack _).pair (Codec.adcsMode_givesBack _))))).refine rfl

theorem encodeWithin?_of_le {beacon : Beacon} {size : Nat} (fits : beacon.encodedSize ≤ size) :
    beacon.encodeWithin? size = some (Codec.beacon.encode beacon) := by
  rw [← length_encode] at fits
  exact if_pos fits

theorem encodeWithin?_of_lt {beacon : Beacon} {size : Nat} (short : size < beacon.encodedSize) :
    beacon.encodeWithin? size = none := by
  rw [← length_encode] at short
  exact if_neg (Nat.not_le.mpr short)

theorem decode?_encode {beacon : Beacon} (short : beacon.callsign.length < 18446744073709551616)
    (rest : Bytes) : decode? (Codec.beacon.encode beacon ++ rest) = some beacon := by
  rw [decode?, givesBack short rest]
  rfl

section OfState

variable (state : SystemState)

theorem encodedSize_ofState_le : (ofState state).encodedSize ≤ 29 := by
  rw [← length_encode]
  exact length_frame_le state

theorem length_callsign_ofState_le : (ofState state).callsign.length ≤ 16 := by
  have fits := state.settings.callsign.fits
  rwa [← Codec.length_textBytes] at fits

theorem decode?_frame (rest : Bytes) : decode? (frame state ++ rest) = some (ofState state) :=
  decode?_encode (Nat.lt_of_le_of_lt (length_callsign_ofState_le state) (by decide)) rest

theorem timestampMillis_ofState :
    (ofState state).timestampMillis.toNat = min state.time.millis 18446744073709551615 :=
  UInt64.toNat_ofNat_of_lt' (Nat.lt_of_le_of_lt (Nat.min_le_right _ _) (by decide))

end OfState

end Beacon

def Transmitter.ofLink {Env : Type u} (link : Link Env) : Transmitter (Radio Env) where
  send frame radio := radio.sendFrame link frame

namespace Broadcast

variable {Env : Type u} {Devices : Type v}

/-- Whatever the transmitter makes of it, a frame is handed over: the beacon of the state. -/
theorem execute_handed (transmitter : Transmitter Devices)
    (context : Context Broadcast (FrameLog Devices)) :
    ∃ accepted, (execute transmitter.logged context).env.handed =
      (Beacon.frame context.state, accepted) :: context.env.handed := by
  rw [execute_eq]
  exact ⟨_, rfl⟩

theorem execute_queued {link : Link Env} {device : Env → Transceiver}
    {settles : Env → Env → Prop} (serves : link.Serves device settles)
    {context : Context Broadcast (Radio Env)} (online : (device context.env.env).offline = false)
    (room : (device context.env.env).downlink.length < Transceiver.downlinkCapacity) :
    device (execute (.ofLink link) context).env.env =
        (device context.env.env).queued (Beacon.frame context.state) ∧
      (execute (.ofLink link) context).task = .justSent context.state.time := by
  have short : (Beacon.frame context.state).length ≤ Comm.maxDownlinkSize :=
    Nat.le_trans (Beacon.length_frame_le context.state) (by decide)
  obtain ⟨accepted, -, queued⟩ := serves.sendFrame_of_room ⟨online, short⟩ room
  rw [execute, Beacon.encodeWithin?_eq]
  simp only [Transmitter.ofLink, accepted, if_true]
  exact ⟨queued, rfl⟩

/--
A buffer takes a beacon just if it is as long as the beacon is, and the beacon is
read back from what has been written there, whatever comes after it. The beacon
of a state takes at most 29 bytes, so that there is always a frame to hand over,
and one that fits. An online transceiver with room queues it, and nothing else.
-/
theorem beacon_to_queue {link : Link Env} {device : Env → Transceiver}
    {settles : Env → Env → Prop} (serves : link.Serves device settles) :
    (∀ beacon : Beacon, beacon.callsign.length < 18446744073709551616 → ∀ size,
      (beacon.encodedSize ≤ size →
        ∃ bytes, beacon.encodeWithin? size = some bytes ∧ bytes.length = beacon.encodedSize ∧
          ∀ rest, Beacon.decode? (bytes ++ rest) = some beacon) ∧
      (size < beacon.encodedSize → beacon.encodeWithin? size = none)) ∧
    (∀ state,
      (Beacon.ofState state).timestampMillis.toNat =
        min state.time.millis 18446744073709551615 ∧
      (Beacon.ofState state).callsign.length ≤ 16 ∧
      (Beacon.ofState state).encodedSize ≤ 29) ∧
    (∀ (transmitter : Transmitter Devices) (context : Context Broadcast (FrameLog Devices)),
      ∃ frame accepted,
        (execute transmitter.logged context).env.handed =
          (frame, accepted) :: context.env.handed ∧
        frame.length ≤ 29 ∧ frame.length ≤ Comm.maxDownlinkSize ∧
        Beacon.decode? frame = some (Beacon.ofState context.state)) ∧
    ∀ context : Context Broadcast (Radio Env),
      (device context.env.env).offline = false →
      (device context.env.env).downlink.length < Transceiver.downlinkCapacity →
      let done := execute (.ofLink link) context
      ∃ frame,
        (device done.env.env).downlink = (device context.env.env).downlink ++ [frame] ∧
        Beacon.decode? frame = some (Beacon.ofState context.state) ∧
        done.task = .justSent context.state.time := by
  have readBack (state : SystemState) :
      Beacon.decode? (Beacon.frame state) = some (Beacon.ofState state) := by
    have read := Beacon.decode?_frame state []
    rwa [List.append_nil] at read
  refine ⟨fun beacon short size => ⟨fun fits => ?_, Beacon.encodeWithin?_of_lt⟩,
    fun state => ?_, fun transmitter context => ?_, fun context online room => ?_⟩
  · exact ⟨_, Beacon.encodeWithin?_of_le fits, Beacon.length_encode beacon,
      Beacon.decode?_encode short⟩
  · exact ⟨Beacon.timestampMillis_ofState state, Beacon.length_callsign_ofState_le state,
      Beacon.encodedSize_ofState_le state⟩
  · obtain ⟨accepted, handed⟩ := execute_handed transmitter context
    have size := Beacon.length_frame_le context.state
    exact ⟨_, accepted, handed, size, Nat.le_trans size (by decide), readBack _⟩
  · obtain ⟨queued, sent⟩ := execute_queued serves online room
    refine ⟨_, ?_, readBack _, sent⟩
    rw [queued]
    rfl

/-- A beacon whose call sign and time are both too large for the shorter forms, and a first one. -/
theorem beacon_to_idle_queue :
    let wide : Beacon :=
      { callsign := List.replicate 251 0x41, timestampMillis := 65536, antennaDeployed := true
        sail := .opening, adcs := .stopped }
    let link := Transceiver.link fun millis (waited : Nat) => waited + millis
    let context : Context Broadcast (Radio (Transceiver × Nat)) :=
      ⟨.start, .initial, .start (.idle, 0)⟩
    let done := execute (.ofLink link) context
    (∃ bytes, wide.encodeWithin? 262 = some bytes ∧ bytes.length = 262 ∧
      ∀ rest, Beacon.decode? (bytes ++ rest) = some wide) ∧
    wide.encodeWithin? 261 = none ∧
    ∃ frame, done.env.env.1.downlink = [frame] ∧
      Beacon.decode? frame = some (Beacon.ofState .initial) := by
  intro wide link context done
  obtain ⟨codec, -, -, queue⟩ := @beacon_to_queue _ Unit _ _ _
    (Transceiver.link_serves fun millis (waited : Nat) => waited + millis)
  have callsign : wide.callsign.length = 251 := List.length_replicate
  have short : wide.callsign.length < 18446744073709551616 := by
    rw [callsign]
    decide
  have size : wide.encodedSize = 262 := by
    rw [Beacon.encodedSize, callsign]
    rfl
  obtain ⟨frame, queued, read, -⟩ := queue context rfl (by decide)
  refine ⟨?_, (codec wide short 261).2 (by omega), frame, queued, read⟩
  rw [← size]
  exact (codec wide short wide.encodedSize).1 (Nat.le_refl _)

end Broadcast

end Cubesat
