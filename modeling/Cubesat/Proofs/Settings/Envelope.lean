import Cubesat.Proofs.Codec.Forms
import Cubesat.Proofs.Settings.Image

/-!
The envelope of a settings image.

An image is written wherever it fits and is read back whatever follows it. A
damaged envelope is refused as a whole, and what is refused changes nothing. An
image that is accepted in a longer form than the written one is replaced by the
written one when it is saved again, in the space that it came from.
-/

namespace Cubesat

namespace Codec

theorem clockWeights_takesForms : clockWeights.TakesForms := by
  refine (int16_takesForms.pair int16_takesForms).refine fun {wire weights} accepted => ?_
  cases accepted
  rfl

theorem callsign_takesForms : callsign.TakesForms := by
  refine text_takesForms.refine fun {text sign} accepted => ?_
  unfold Callsign.ofString? at accepted
  split at accepted
  · cases accepted
    rfl
  · cases accepted

theorem sailRecord_takesForms : sailRecord.TakesForms :=
  choice_takesForms (by decide)

theorem settings_takesForms : settings.TakesForms := by
  refine (clockWeights_takesForms.pair
    (flag_takesForms.pair
      (callsign_takesForms.pair
        (byte_takesForms.pair (sailRecord_takesForms.pair flag_takesForms))))).refine
    fun {wire values} accepted => ?_
  cases accepted
  rfl

end Codec

namespace Image

theorem le_length_encode (values : Settings) : 15 ≤ (encode values).length := by
  have written (number : Int16) : 1 ≤ (Codec.int16.encode number).length :=
    Varint.length_encode_mono (Nat.zero_le _)
  have weightMcu := written values.clockWeights.mcu
  have weightExternal := written values.clockWeights.external
  rw [length_encode]
  omega

theorem write_of_unfitted {values : Settings} {buffer : Bytes} (envelope : 8 ≤ buffer.length)
    (unfitted : buffer.length < (encode values).length) :
    (write values buffer).1 = .error .encode := by
  unfold write
  rw [length_magic, if_neg (by omega), if_pos unfitted]

theorem decode_of_short {buffer : Bytes} (short : buffer.length < 8) :
    decode buffer = .error (.bufferTooSmall buffer.length) :=
  if_pos short

theorem decode_of_front {buffer : Bytes} (long : 8 ≤ buffer.length)
    (changed : buffer.take 4 ≠ magic) : decode buffer = .error .leadingMagicMismatch := by
  unfold decode
  rw [length_magic, if_neg (by omega), if_pos changed]

/-- Behind the first magic number the body decides, and then the second magic number. -/
theorem decode_magic_append {rest : Bytes} (long : 4 ≤ rest.length) :
    decode (magic ++ rest) =
      match Codec.settings.decode rest with
      | none => .error .decode
      | some (values, after) =>
          if after.take 4 = magic then .ok values else .error .trailingMagicMismatch := by
  have envelope : ¬ (magic ++ rest).length < 2 * magic.length := by
    rw [List.length_append, length_magic]
    omega
  unfold decode
  rw [if_neg envelope, List.take_left, if_neg (by simp), List.drop_left]
  rfl

theorem length_body_le {values : Settings} {body : Bytes}
    (isForm : Codec.settings.IsForm values body) :
    (encode values).length ≤ (magic ++ body ++ magic).length := by
  have shortest := Codec.settings_takesForms.length_encode_le isForm
  simp only [encode, List.length_append]
  omega

theorem decode_of_form {values : Settings} {body : Bytes}
    (isForm : Codec.settings.IsForm values body) (after : Bytes) :
    decode (magic ++ body ++ after) =
      if after.take 4 = magic then .ok values else .error .trailingMagicMismatch := by
  have long : 4 ≤ (body ++ after).length := by
    have shortest := Codec.settings_takesForms.length_encode_le isForm
    rw [Codec.length_settings] at shortest
    rw [List.length_append]
    omega
  rw [List.append_assoc, decode_magic_append long, isForm]

/-- What is accepted are the forms of settings in an envelope, whatever follows them. -/
theorem decode_eq_ok_iff {buffer : Bytes} {values : Settings} :
    decode buffer = .ok values ↔
      ∃ body rest, buffer = magic ++ body ++ magic ++ rest ∧
        Codec.settings.IsForm values body := by
  constructor
  · intro accepted
    have long : 8 ≤ buffer.length := by
      rcases Nat.lt_or_ge buffer.length 8 with short | long
      · rw [decode_of_short short] at accepted
        cases accepted
      · exact long
    have front : buffer.take 4 = magic := by
      by_cases same : buffer.take 4 = magic
      · exact same
      · rw [decode_of_front long same] at accepted
        cases accepted
    rw [← List.take_append_drop 4 buffer, front] at accepted ⊢
    rw [decode_magic_append (by rw [List.length_drop]; omega)] at accepted
    cases read : Codec.settings.decode (buffer.drop 4) with
    | none =>
        rw [read] at accepted
        cases accepted
    | some found =>
        obtain ⟨found, after⟩ := found
        rw [read] at accepted
        dsimp only at accepted
        split at accepted
        · next closed =>
          cases accepted
          obtain ⟨body, same, isForm, -⟩ := Codec.settings_takesForms read
          refine ⟨body, after.drop 4, ?_, isForm⟩
          rw [same, ← closed, List.append_assoc, List.append_assoc, List.take_append_drop]
        · cases accepted
  · rintro ⟨body, rest, rfl, isForm⟩
    rw [List.append_assoc, decode_of_form isForm]
    exact if_pos (List.take_left' length_magic)

theorem length_encode_eq (values : Settings) :
    (encode values).length = (magic ++ Codec.settings.encode values).length + 4 := by
  rw [encode, List.length_append, length_magic]

theorem take_encode (values : Settings) :
    (encode values).take ((encode values).length - 4) = magic ++ Codec.settings.encode values := by
  rw [length_encode_eq, Nat.add_sub_cancel, encode, List.take_left]

theorem decode_take_body {values : Settings} {size : Nat} (envelope : 8 ≤ size)
    (inBody : size + 4 < (encode values).length) :
    decode ((encode values).take size) = .error .decode := by
  have length := length_encode_eq values
  rw [List.length_append, length_magic] at length
  have front : (encode values).take size =
      magic ++ (Codec.settings.encode values).take (size - 4) := by
    have inside : min size ((encode values).length - 4) = size := by omega
    rw [← inside, ← List.take_take, take_encode, List.take_append, length_magic, inside,
      List.take_of_length_le (by rw [length_magic]; omega)]
  have cut : Codec.settings.decode ((Codec.settings.encode values).take (size - 4)) = none :=
    Codec.settings_takesForms.decode_take_eq_none (Codec.settings_givesBack values) (by omega)
  rw [front, decode_magic_append (by rw [List.length_take]; omega), cut]

theorem decode_take_trailer {values : Settings} {size : Nat}
    (inTrailer : (encode values).length ≤ size + 4) (short : size < (encode values).length) :
    decode ((encode values).take size) = .error .trailingMagicMismatch := by
  have length := length_encode_eq values
  have front : (encode values).take size = magic ++ Codec.settings.encode values ++
      magic.take (size - (magic ++ Codec.settings.encode values).length) := by
    rw [encode, List.take_append, List.take_of_length_le (by omega)]
  have unclosed (count : Nat) (few : count < 4) : (magic.take count).take 4 ≠ magic := by
    intro same
    have length := congrArg List.length same
    rw [List.length_take, List.length_take, length_magic] at length
    omega
  rw [front, decode_of_form (Codec.settings_givesBack values)]
  exact if_neg (unclosed _ (by omega))

/-- An image that has been cut short is refused, wherever it has been cut. -/
theorem decode_take {values : Settings} {size : Nat} (short : size < (encode values).length) :
    decode ((encode values).take size) =
      .error (if size < 8 then .bufferTooSmall size
        else if size + 4 < (encode values).length then .decode else .trailingMagicMismatch) := by
  split
  · next tiny =>
    have length : ((encode values).take size).length = size := by
      rw [List.length_take, Nat.min_eq_left (Nat.le_of_lt short)]
    rw [decode_of_short (by omega), length]
  · next envelope =>
    split
    · next inBody => exact decode_take_body (by omega) inBody
    · next inTrailer => exact decode_take_trailer (by omega) short

theorem decode_changed_front {values : Settings} {front : Bytes} (size : front.length = 4)
    (changed : front ≠ magic) (rest : Bytes) :
    decode (front ++ (encode values).drop 4 ++ rest) = .error .leadingMagicMismatch := by
  have long := le_length_encode values
  apply decode_of_front
  · simp only [List.length_append, List.length_drop]
    omega
  · rw [List.append_assoc, List.take_left' size]
    exact changed

theorem decode_changed_back {values : Settings} {back : Bytes} (size : back.length = 4)
    (changed : back ≠ magic) (rest : Bytes) :
    decode ((encode values).take ((encode values).length - 4) ++ back ++ rest) =
      .error .trailingMagicMismatch := by
  rw [take_encode, List.append_assoc, decode_of_form (Codec.settings_givesBack values),
    List.take_left' size, if_neg changed]

theorem encode_inj {values others : Settings} :
    encode values = encode others ↔ values = others := by
  constructor
  · intro same
    have read := decode_encode_append values []
    rw [same, decode_encode_append] at read
    exact (Except.ok.inj read).symm
  · intro same
    rw [same]

def resave (buffer : Bytes) : Except ImageError Bytes :=
  match decode buffer with
  | .error error => .error error
  | .ok values =>
      match write values buffer with
      | (.error error, _) => .error error
      | (.ok _, after) => .ok after

theorem resave_of_fits {values : Settings} {buffer : Bytes} (accepted : decode buffer = .ok values)
    (fits : (encode values).length ≤ buffer.length) :
    resave buffer = .ok (encode values ++ buffer.drop (encode values).length) := by
  unfold resave
  rw [accepted]
  simp only [write_of_fits fits]

end Image

namespace PersistentState

open Image (magic encode write decode resave)

theorem restore_eq_ok_iff {buffer : Bytes} {state loaded : PersistentState} :
    state.restore buffer = (.ok (), loaded) ↔
      decode buffer = .ok loaded.settings ∧ loaded.modified = false := by
  obtain ⟨values, modified⟩ := loaded
  unfold restore
  split
  · next found accepted =>
    rw [accepted]
    simp [eq_comm]
  · next error refused =>
    rw [refused]
    simp

theorem restore_of_refused {buffer : Bytes} {error : ImageError}
    (refused : decode buffer = .error error) (state : PersistentState) :
    state.restore buffer = (.error error, state) := by
  unfold restore
  rw [refused]

/--
An image takes 15 to 35 bytes, which the settings alone decide. It is written
wherever it fits, nothing behind it is touched, and it is read back whatever
follows it; so different settings never share an image.
-/
theorem restore_written (state : PersistentState) :
    15 ≤ (encode state.settings).length ∧ (encode state.settings).length ≤ 35 ∧
      (∀ buffer : Bytes, (encode state.settings).length ≤ buffer.length →
        write state.settings buffer =
          (.ok (encode state.settings).length,
            encode state.settings ++ buffer.drop (encode state.settings).length)) ∧
      (∀ buffer : Bytes, buffer.length < 8 →
        write state.settings buffer = (.error (.bufferTooSmall buffer.length), buffer)) ∧
      (∀ buffer : Bytes, 8 ≤ buffer.length → buffer.length < (encode state.settings).length →
        (write state.settings buffer).1 = .error .encode) ∧
      (∀ (rest : Bytes) (other : PersistentState),
        other.restore (encode state.settings ++ rest) = (.ok (), state.markSaved)) ∧
      ∀ other : PersistentState,
        encode other.settings = encode state.settings ↔ other.settings = state.settings := by
  refine ⟨Image.le_length_encode _, Image.length_encode_le _, ?_, ?_, ?_, ?_, ?_⟩
  · intro buffer fits
    exact Image.write_of_fits fits
  · intro buffer short
    exact if_pos short
  · intro buffer envelope unfitted
    exact Image.write_of_unfitted envelope unfitted
  · intro rest other
    exact restore_eq_ok_iff.mpr ⟨Image.decode_encode_append _ _, rfl⟩
  · intro other
    exact Image.encode_inj

/-- The width of a weight changes between the two that are written here. -/
theorem restore_written_uneven :
    let settings : Settings := { Settings.initial with clockWeights := ⟨125, -126⟩ }
    (encode settings).length = 23 ∧
      write settings (Bytes.zeros 24) = (.ok 23, encode settings ++ [0]) ∧
      (write settings (Bytes.zeros 22)).1 = .error .encode ∧
      write settings (Bytes.zeros 7) = (.error (.bufferTooSmall 7), Bytes.zeros 7) := by
  intro settings
  have length : (encode settings).length = 23 := by rfl
  obtain ⟨-, -, written, short, unfitted, -, -⟩ := restore_written { settings, modified := true }
  refine ⟨length, ?_, ?_, ?_⟩
  · exact written (Bytes.zeros 24) (by decide)
  · exact unfitted (Bytes.zeros 22) (by decide) (by decide)
  · exact short (Bytes.zeros 7) (by decide)

/--
A damaged image is refused, with an error that tells where it is damaged; and
whatever is read, the state is replaced as a whole or stays as it was.
-/
theorem restore_damaged (state destination : PersistentState) :
    (∀ size < (encode state.settings).length,
      destination.restore ((encode state.settings).take size) =
        (.error (if size < 8 then .bufferTooSmall size
          else if size + 4 < (encode state.settings).length then .decode
          else .trailingMagicMismatch), destination)) ∧
      (∀ front rest : Bytes, front.length = 4 → front ≠ magic →
        destination.restore (front ++ (encode state.settings).drop 4 ++ rest) =
          (.error .leadingMagicMismatch, destination)) ∧
      (∀ back rest : Bytes, back.length = 4 → back ≠ magic →
        destination.restore
            ((encode state.settings).take ((encode state.settings).length - 4) ++ back ++ rest) =
          (.error .trailingMagicMismatch, destination)) ∧
      (∀ (buffer : Bytes) (error : ImageError), (destination.restore buffer).1 = .error error →
        (destination.restore buffer).2 = destination) ∧
      (∀ buffer : Bytes, (destination.restore buffer).1 = .ok () →
        (destination.restore buffer).2.modified = false ∧
          ∀ other : PersistentState, other.restore buffer = destination.restore buffer) ∧
      ∀ storage : MemoryStorage,
        MemoryStorage.unit.loadOrInitial storage =
          (match storage.read Image.regionSize with
            | .error _ => .initial
            | .ok buffer =>
                match decode buffer with
                | .error _ => .initial
                | .ok values => { settings := values, modified := false }, storage) := by
  refine ⟨?_, ?_, ?_, ?_, ?_, MemoryStorage.loadOrInitial_eq⟩
  · intro size short
    exact restore_of_refused (Image.decode_take short) destination
  · intro front rest size changed
    exact restore_of_refused (Image.decode_changed_front size changed rest) destination
  · intro back rest size changed
    exact restore_of_refused (Image.decode_changed_back size changed rest) destination
  · intro buffer error refused
    cases read : decode buffer with
    | error error => rw [restore_of_refused read]
    | ok values =>
        have accepted : destination.restore buffer = (.ok (), ⟨values, false⟩) :=
          restore_eq_ok_iff.mpr ⟨read, rfl⟩
        rw [accepted] at refused
        cases refused
  · intro buffer accepted
    have loaded : destination.restore buffer = (.ok (), (destination.restore buffer).2) :=
      Prod.ext accepted rfl
    obtain ⟨read, saved⟩ := restore_eq_ok_iff.mp loaded
    refine ⟨saved, fun other => ?_⟩
    rw [loaded]
    exact restore_eq_ok_iff.mpr ⟨read, saved⟩

theorem restore_damaged_initial :
    let image := encode Settings.initial
    let state : PersistentState := { settings := .initial, modified := true }
    state.restore (image.take 10) = (.error .decode, state) ∧
      state.restore ([0x00, 0x77, 0xAA, 0x55] ++ image.drop 4 ++ [0xFF]) =
        (.error .leadingMagicMismatch, state) ∧
      state.restore (image.take (image.length - 4) ++ [0xEE, 0x77, 0xAA, 0x54] ++ [0xFF]) =
        (.error .trailingMagicMismatch, state) ∧
      (state.restore []).2 = state ∧ (state.restore image).2.modified = false := by
  intro image state
  obtain ⟨cut, front, back, refused, accepted, -⟩ := restore_damaged state state
  refine ⟨?_, ?_, ?_, ?_, ?_⟩
  · exact cut 10 (by decide)
  · exact front [0x00, 0x77, 0xAA, 0x55] [0xFF] rfl (by decide)
  · exact back [0xEE, 0x77, 0xAA, 0x54] [0xFF] rfl (by decide)
  · exact refused [] (.bufferTooSmall 0) rfl
  · exact (accepted image (by rfl)).1

/--
An image that has been accepted, in whatever form, is written again in no more
space than it came from, and with the same settings; once it is written, saving
it again changes nothing.
-/
theorem resave_accepted {buffer : Bytes} {state loaded : PersistentState}
    (accepted : state.restore buffer = (.ok (), loaded)) :
    ∃ body rest, buffer = magic ++ body ++ magic ++ rest ∧
      Codec.settings.IsForm loaded.settings body ∧
      (encode loaded.settings).length ≤ (magic ++ body ++ magic).length ∧
      (∀ (tail : Bytes) (other : PersistentState),
        other.restore (encode loaded.settings ++ tail) = (.ok (), loaded)) ∧
      ∀ tail : Bytes,
        let image := magic ++ body ++ magic ++ tail
        let saved := encode loaded.settings ++ image.drop (encode loaded.settings).length
        resave image = .ok saved ∧ resave saved = .ok saved := by
  obtain ⟨read, clean⟩ := restore_eq_ok_iff.mp accepted
  obtain ⟨body, rest, same, isForm⟩ := Image.decode_eq_ok_iff.mp read
  have shortest := Image.length_body_le isForm
  refine ⟨body, rest, same, isForm, shortest, ?_, ?_⟩
  · intro tail other
    exact restore_eq_ok_iff.mpr ⟨Image.decode_encode_append _ _, clean⟩
  · intro tail image saved
    have fits : (encode loaded.settings).length ≤ image.length := by
      rw [List.length_append]
      exact Nat.le_add_right_of_le shortest
    constructor
    · exact Image.resave_of_fits (Image.decode_eq_ok_iff.mpr ⟨body, tail, rfl, isForm⟩) fits
    · have again := Image.resave_of_fits (Image.decode_encode_append loaded.settings
        (image.drop (encode loaded.settings).length)) (by simp)
      rw [List.drop_left] at again
      exact again

/-- An image in which the first weight, the length of the call sign and the record are overlong. -/
def overlong : Bytes :=
  magic ++ [251, 2, 0, 2, 0, 253, 3, 0, 0, 0, 0, 0, 0, 0, 83, 80, 57, 5, 252, 1, 0, 0, 0, 0] ++
    magic ++ [0xFF]

theorem resave_accepted_overlong :
    let settings : Settings :=
      { Settings.initial with callsign := ⟨"SP9", by decide⟩, sail := .opening }
    PersistentState.initial.restore overlong = (.ok (), { settings, modified := false }) ∧
      (encode settings).length = 18 ∧ overlong.length = 33 ∧
        ∃ saved, resave overlong = .ok saved ∧ resave saved = .ok saved := by
  intro settings
  have accepted :
      PersistentState.initial.restore overlong = (.ok (), { settings, modified := false }) := by
    rfl
  obtain ⟨body, rest, same, -, -, -, cycle⟩ := resave_accepted accepted
  refine ⟨accepted, by rfl, rfl, ?_⟩
  rw [same]
  exact ⟨_, cycle rest⟩

end PersistentState

end Cubesat
