import Cubesat.Proofs.Codec.RoundTrip
import Cubesat.Settings.Storage

/-!
The image of settings on a region of memory.

An image is short enough for the region that is set aside for it, and the
settings are read off it whatever bytes an older image has left behind it.
-/

namespace Cubesat

universe u

namespace Codec

theorem clockWeights_givesBack (weights : ClockWeights) : clockWeights.GivesBack weights :=
  GivesBack.refine ((int16_givesBack _).pair (int16_givesBack _)) rfl

theorem callsign_givesBack (sign : Callsign) : callsign.GivesBack sign := by
  have short := sign.fits
  apply GivesBack.refine (text_givesBack (by omega))
  simp [Callsign.ofString?, sign.fits]

theorem sailRecord_givesBack (record : SailRecord) : sailRecord.GivesBack record :=
  choice_givesBack (by cases record <;> decide) (by decide)

theorem settings_givesBack (values : Settings) : settings.GivesBack values :=
  GivesBack.refine
    ((clockWeights_givesBack _).pair
      ((flag_givesBack _).pair
        ((callsign_givesBack _).pair
          ((byte_givesBack _).pair ((sailRecord_givesBack _).pair (flag_givesBack _))))))
    rfl

theorem length_int16_le (number : Int16) : (int16.encode number).length ≤ 3 :=
  Varint.length_encode_le_three (UInt16.toNat_lt _)

theorem length_callsign (sign : Callsign) :
    (callsign.encode sign).length = sign.text.utf8ByteSize + 1 := by
  have short := sign.fits
  have size : (Varint.encode (textBytes sign.text).length).length = 1 :=
    Varint.length_encode_eq_one (by rw [length_textBytes]; omega)
  change (Varint.encode (textBytes sign.text).length ++ textBytes sign.text).length = _
  rw [List.length_append, size, length_textBytes, Nat.add_comm]

/-- Only the clock weights and the call sign vary in length. -/
theorem length_settings (values : Settings) :
    (settings.encode values).length =
      (int16.encode values.clockWeights.mcu).length +
        (int16.encode values.clockWeights.external).length +
          values.callsign.text.utf8ByteSize + 5 := by
  have record : (sailRecord.encode values.sail).length = 1 := by
    cases values.sail <;> rfl
  have antenna : (flag.encode values.antennaDisabled).length = 1 := rfl
  have limit : (byte.encode values.commLimit).length = 1 := rfl
  have detumbling : (flag.encode values.detumblingDisabled).length = 1 := rfl
  simp only [settings, clockWeights, encode_refine, encode_pair, List.length_append,
    length_callsign, antenna, limit, record, detumbling]
  omega

end Codec

namespace Image

theorem length_encode (values : Settings) :
    (encode values).length =
      (Codec.int16.encode values.clockWeights.mcu).length +
        (Codec.int16.encode values.clockWeights.external).length +
          values.callsign.text.utf8ByteSize + 13 := by
  simp only [encode, magic, List.length_append, List.length_cons, List.length_nil,
    Codec.length_settings]
  omega

theorem length_encode_le (values : Settings) : (encode values).length ≤ 35 := by
  have weightMcu := Codec.length_int16_le values.clockWeights.mcu
  have weightExternal := Codec.length_int16_le values.clockWeights.external
  have sign := values.callsign.fits
  rw [length_encode]
  omega

theorem length_encode_le_regionSize (values : Settings) :
    (encode values).length ≤ regionSize :=
  Nat.le_trans (length_encode_le values) (by decide)

theorem decode_encode_append (values : Settings) (rest : Bytes) :
    decode (encode values ++ rest) = .ok values := by
  have apart : encode values ++ rest =
      magic ++ (Codec.settings.encode values ++ (magic ++ rest)) := by
    simp [encode]
  have long : ¬ (encode values ++ rest).length < 2 * magic.length := by
    simp only [encode, magic, List.length_append, List.length_cons, List.length_nil]
    omega
  unfold decode
  rw [if_neg long, apart, List.take_left, List.drop_left,
    Codec.settings_givesBack values (magic ++ rest)]
  simp

theorem write_of_fits {values : Settings} {buffer : Bytes}
    (fits : (encode values).length ≤ buffer.length) :
    write values buffer =
      (.ok (encode values).length, encode values ++ buffer.drop (encode values).length) := by
  have envelope : 2 * magic.length ≤ (encode values).length := by
    rw [length_encode, magic]
    simp only [List.length_cons, List.length_nil]
    omega
  unfold write
  rw [if_neg (by omega), if_neg (by omega), Bytes.receive, List.take_of_length_le fits]

theorem write_zeros (values : Settings) :
    write values (Bytes.zeros regionSize) =
      (.ok (encode values).length,
        encode values ++ Bytes.zeros (regionSize - (encode values).length)) := by
  rw [write_of_fits (by simpa using length_encode_le_regionSize values), Bytes.zeros,
    List.drop_replicate]
  rfl

end Image

namespace StorageUnit

variable {Env : Type u}

theorem save_of_accepted {storage : StorageUnit Env} {values : Settings} {env later : Env}
    (written : storage.write (Image.encode values) env = (.ok (), later)) :
    storage.save values env = (.ok (Image.encode values).length, later) := by
  unfold save
  rw [Image.write_zeros]
  simp only [List.take_left, written]

theorem save_of_refused {storage : StorageUnit Env} {values : Settings} {env later : Env}
    {error : StorageError}
    (written : storage.write (Image.encode values) env = (.error error, later)) :
    storage.save values env = (.error (.storage error), later) := by
  unfold save
  rw [Image.write_zeros]
  simp only [List.take_left, written]

end StorageUnit

namespace MemoryStorage

theorem length_of_read {size : Nat} {storage : MemoryStorage} {bytes : Bytes}
    (read : storage.read size = .ok bytes) : bytes.length = size := by
  unfold MemoryStorage.read at read
  split at read
  · cases read
  · split at read
    · cases read
    · cases read
      rw [List.length_take]
      omega

/-- All of the settings are loaded, or none of them are. -/
theorem loadOrInitial_eq (storage : MemoryStorage) :
    unit.loadOrInitial storage =
      (match storage.read Image.regionSize with
        | .error _ => .initial
        | .ok buffer =>
            match Image.decode buffer with
            | .error _ => .initial
            | .ok settings => { settings, modified := false }, storage) := by
  unfold StorageUnit.loadOrInitial StorageUnit.load
  simp only [unit, Bytes.length_zeros]
  cases read : storage.read Image.regionSize with
  | error error => rfl
  | ok buffer =>
      have whole : Bytes.receive (Bytes.zeros Image.regionSize) buffer = buffer :=
        Bytes.receive_of_length_eq (by rw [length_of_read read, Bytes.length_zeros])
      simp only [whole, PersistentState.restore]
      cases Image.decode buffer <;> rfl

def recovered (region : Bytes) : PersistentState :=
  (unit.loadOrInitial { region, failing := false }).1

theorem recovered_eq {region : Bytes} (size : region.length = Image.regionSize) :
    recovered region =
      match Image.decode region with
      | .ok settings => { settings, modified := false }
      | .error _ => .initial := by
  have front : region.take Image.regionSize = region := List.take_of_length_le (by omega)
  have fetched : MemoryStorage.read Image.regionSize { region, failing := false } = .ok region := by
    simp [read, size, front]
  rw [recovered, loadOrInitial_eq, fetched]
  dsimp only
  cases Image.decode region <;> rfl

theorem modified_recovered {region : Bytes} (size : region.length = Image.regionSize) :
    (recovered region).modified = false := by
  rw [recovered_eq size]
  split <;> rfl

def overwritten (image region : Bytes) : Bytes :=
  image ++ region.drop image.length

theorem length_overwritten {image region : Bytes} (room : image.length ≤ region.length) :
    (overwritten image region).length = region.length := by
  simp only [overwritten, List.length_append, List.length_drop]
  omega

theorem recovered_overwritten {values : Settings} {region : Bytes}
    (size : region.length = Image.regionSize) :
    recovered (overwritten (Image.encode values) region) =
      { settings := values, modified := false } := by
  have room : (Image.encode values).length ≤ region.length := by
    rw [size]
    exact Image.length_encode_le_regionSize values
  rw [recovered_eq ((length_overwritten room).trans size), overwritten,
    Image.decode_encode_append]

end MemoryStorage

end Cubesat
