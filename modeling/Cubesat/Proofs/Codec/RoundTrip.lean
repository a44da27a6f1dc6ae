import Cubesat.Codec.Scalar

/-!
Reading back what a codec has written.

A codec gives back a value when its reader takes exactly the written form off
the front of any byte string. The property passes from parts to wholes, so a
codec that is put together from others has it for the values whose parts do.
-/

namespace Cubesat

universe u v

namespace Varint

theorem decode_encode {type : Varint} {number : Nat} (fits : number < type.bound) (rest : Bytes) :
    type.decode (encode number ++ rest) = some (number, rest) := by
  have marked {marker : UInt8} {width : Nat} (large : ¬ marker < 251)
      (admitted : type.markedWidth? marker = some width) (enough : number < 256 ^ width) :
      type.decode (marker :: Bytes.littleEndian width number ++ rest) = some (number, rest) := by
    have length := Bytes.length_littleEndian width number
    simp only [List.cons_append, decode, if_neg large, admitted, Option.bind_some,
      List.length_append, length, Nat.le_add_right, if_true, List.take_left' length,
      List.drop_left' length, Bytes.ofLittleEndian_littleEndian enough]
  unfold encode
  split
  · next small =>
    have value : (UInt8.ofNat number).toNat = number :=
      UInt8.toNat_ofNat_of_lt' (Nat.lt_trans small (by decide))
    have below : UInt8.ofNat number < 251 := by
      rw [UInt8.lt_iff_toNat_lt, value]
      exact small
    simp [decode, below, value]
  · split
    · next word => exact marked (by decide) (by cases type <;> rfl) (by omega)
    · next long =>
      split
      · next word =>
        cases type with
        | word16 => exact absurd fits long
        | word32 => exact marked (by decide) rfl (by omega)
        | word64 => exact marked (by decide) rfl (by omega)
      · next longer =>
        cases type with
        | word16 => exact absurd fits long
        | word32 => exact absurd fits longer
        | word64 => exact marked (by decide) rfl fits

theorem length_encode_le_three {number : Nat} (small : number < 65536) :
    (encode number).length ≤ 3 := by
  unfold encode
  rw [if_pos small]
  split <;> simp

theorem length_encode_eq_one {number : Nat} (small : number < 251) :
    (encode number).length = 1 := by
  simp [encode, small]

end Varint

namespace Codec

variable {First : Type u} {Second : Type v}

/-- The reader takes exactly these bytes off the front of any byte string, for the value. -/
def IsForm (codec : Codec First) (value : First) (form : Bytes) : Prop :=
  ∀ rest, codec.decode (form ++ rest) = some (value, rest)

theorem IsForm.pair {first : Codec First} {second : Codec Second} {value : First × Second}
    {early late : Bytes} (left : first.IsForm value.1 early) (right : second.IsForm value.2 late) :
    (first.pair second).IsForm value (early ++ late) := by
  intro rest
  rw [List.append_assoc, decode_pair_eq_some_iff]
  exact ⟨_, left _, right rest⟩

theorem IsForm.refine {codec : Codec First} {toWire : Second → First}
    {ofWire : First → Option Second} {wire : First} {value : Second} {form : Bytes}
    (read : codec.IsForm wire form) (accepted : ofWire wire = some value) :
    (codec.refine toWire ofWire).IsForm value form := by
  intro rest
  rw [decode_refine_eq_some_iff]
  exact ⟨_, read rest, accepted⟩

/-- The reader takes exactly the written form of the value off the front of any byte string. -/
def GivesBack (codec : Codec First) (value : First) : Prop :=
  codec.IsForm value (codec.encode value)

theorem GivesBack.pair {first : Codec First} {second : Codec Second} {value : First × Second}
    (left : first.GivesBack value.1) (right : second.GivesBack value.2) :
    (first.pair second).GivesBack value :=
  IsForm.pair left right

theorem GivesBack.refine {codec : Codec First} {toWire : Second → First}
    {ofWire : First → Option Second} {value : Second} (wire : codec.GivesBack (toWire value))
    (inverse : ofWire (toWire value) = some value) :
    (codec.refine toWire ofWire).GivesBack value :=
  IsForm.refine wire inverse

theorem byte_givesBack (value : UInt8) : byte.GivesBack value :=
  fun _ => rfl

theorem flag_givesBack (value : Bool) : flag.GivesBack value :=
  (byte_givesBack _).refine (by cases value <;> rfl)

theorem varint_givesBack {type : Varint} (number : Fin type.bound) :
    (varint type).GivesBack number := by
  intro rest
  simp [varint, Varint.decode_encode number.isLt]

theorem uint16_givesBack (number : UInt16) : uint16.GivesBack number :=
  (varint_givesBack _).refine (by simp)

theorem unzigzag_zigzag (number : Int16) : unzigzag (zigzag number) = number := by
  have lower := number.le_toInt
  have upper := number.toInt_lt
  unfold zigzag
  split
  · next positive =>
    have fits : 2 * number.toInt.toNat < 65536 := by omega
    have code : (UInt16.ofNat (2 * number.toInt.toNat)).toNat = 2 * number.toInt.toNat :=
      UInt16.toNat_ofNat_of_lt' fits
    have half : ((2 * number.toInt.toNat / 2 : Nat) : Int) = number.toInt := by omega
    rw [unzigzag, code, if_pos (by omega), half, Int16.ofInt_toInt]
  · next negative =>
    have fits : 2 * (-number.toInt).toNat - 1 < 65536 := by omega
    have code : (UInt16.ofNat (2 * (-number.toInt).toNat - 1)).toNat =
        2 * (-number.toInt).toNat - 1 := UInt16.toNat_ofNat_of_lt' fits
    have half : -(((2 * (-number.toInt).toNat - 1) / 2 : Nat) : Int) - 1 = number.toInt := by
      omega
    rw [unzigzag, code, if_neg (by omega), half, Int16.ofInt_toInt]

theorem int16_givesBack (number : Int16) : int16.GivesBack number :=
  (uint16_givesBack _).refine (by simp [unzigzag_zigzag])

theorem blob_givesBack {bytes : Bytes} (fits : bytes.length < 18446744073709551616) :
    blob.GivesBack bytes := by
  intro rest
  have size : Varint.word64.decode (Varint.encode bytes.length ++ (bytes ++ rest)) =
      some (bytes.length, bytes ++ rest) := Varint.decode_encode fits _
  simp [blob, size]

theorem textOfBytes?_textBytes (value : String) : textOfBytes? (textBytes value) = some value := by
  simp [textOfBytes?, textBytes, String.fromUTF8?, String.fromUTF8, value.isValidUTF8]

@[simp]
theorem length_textBytes (value : String) : (textBytes value).length = value.utf8ByteSize :=
  Array.length_toList

theorem text_givesBack {value : String} (fits : value.utf8ByteSize < 18446744073709551616) :
    text.GivesBack value :=
  (blob_givesBack (by simpa using fits)).refine (textOfBytes?_textBytes value)

theorem choice_givesBack {Value : Type u} [BEq Value] [LawfulBEq Value] {values : List Value}
    {value : Value} (listed : value ∈ values) (few : values.length < 4294967296) :
    (choice values).GivesBack value := by
  intro rest
  have place : values.idxOf value < values.length := List.idxOf_lt_length_of_mem listed
  have fits : values.idxOf value < Varint.word32.bound := Nat.lt_trans place few
  simp [choice, Varint.decode_encode fits, List.getElem?_eq_getElem place]

end Codec

end Cubesat
