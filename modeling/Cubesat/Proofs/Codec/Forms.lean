import Cubesat.Proofs.Codec.RoundTrip
import Mathlib.Algebra.Group.Nat.Defs
import Mathlib.Tactic.SplitIfs

/-!
The forms of a value that a codec's reader takes.

The reader may take more forms than the one that is written, as a number may
stand in more bytes than it needs. Which bytes it takes off the front of a byte
string is decided by these bytes alone, and no form is shorter than the written
one. Both facts pass from parts to wholes together.
-/

namespace Cubesat

universe u v

namespace Varint

theorem length_encode_mono {small large : Nat} (order : small ≤ large) :
    (encode small).length ≤ (encode large).length := by
  unfold encode
  split_ifs <;> simp <;> omega

theorem length_encode_le {type : Varint} {marker : UInt8} {width number : Nat}
    (admitted : type.markedWidth? marker = some width) (fits : number < 256 ^ width) :
    (encode number).length ≤ width + 1 := by
  have largest : (encode (256 ^ width - 1)).length = width + 1 := by
    unfold markedWidth? at admitted
    split at admitted <;> cases admitted <;> rfl
  rw [← largest]
  exact length_encode_mono (by omega)

theorem exists_form_of_decode {type : Varint} {bytes rest : Bytes} {number : Nat}
    (read : type.decode bytes = some (number, rest)) :
    ∃ form, bytes = form ++ rest ∧ (∀ tail, type.decode (form ++ tail) = some (number, tail)) ∧
      (encode number).length ≤ form.length := by
  cases bytes with
  | nil => cases read
  | cons first after =>
      simp only [decode] at read
      by_cases single : first < 251
      · rw [if_pos single] at read
        cases read
        refine ⟨[first], rfl, fun tail => if_pos single, ?_⟩
        rw [length_encode_eq_one (UInt8.lt_iff_toNat_lt.mp single)]
        exact Nat.le_refl 1
      · rw [if_neg single, Option.bind_eq_some_iff] at read
        obtain ⟨width, admitted, read⟩ := read
        by_cases enough : width ≤ after.length
        · rw [if_pos enough] at read
          cases read
          have size : (after.take width).length = width := by
            rw [List.length_take, Nat.min_eq_left enough]
          refine ⟨first :: after.take width, ?_, fun tail => ?_, ?_⟩
          · rw [List.cons_append, List.take_append_drop]
          · simp only [List.cons_append, decode, if_neg single, admitted, Option.bind_some,
              List.length_append, size, Nat.le_add_right, if_true, List.take_left' size,
              List.drop_left' size]
          · rw [List.length_cons, size]
            apply length_encode_le admitted
            have bound := Bytes.ofLittleEndian_lt (after.take width)
            rw [size] at bound
            exact bound
        · rw [if_neg enough] at read
          cases read

end Varint

namespace Codec

variable {First : Type u} {Second : Type v}

/--
What the reader takes off the front of a byte string is a form of the value
that it returns, and no shorter than the form that is written.
-/
def TakesForms (codec : Codec First) : Prop :=
  ∀ ⦃bytes value rest⦄, codec.decode bytes = some (value, rest) →
    ∃ form, bytes = form ++ rest ∧ codec.IsForm value form ∧
      (codec.encode value).length ≤ form.length

theorem TakesForms.pair {first : Codec First} {second : Codec Second} (left : first.TakesForms)
    (right : second.TakesForms) : (first.pair second).TakesForms := by
  intro bytes value rest read
  obtain ⟨middle, readFirst, readSecond⟩ := decode_pair_eq_some_iff.mp read
  obtain ⟨early, rfl, earlyForm, earlyShort⟩ := left readFirst
  obtain ⟨late, rfl, lateForm, lateShort⟩ := right readSecond
  refine ⟨early ++ late, (List.append_assoc _ _ _).symm, earlyForm.pair lateForm, ?_⟩
  rw [encode_pair, List.length_append, List.length_append]
  exact Nat.add_le_add earlyShort lateShort

theorem TakesForms.refine {codec : Codec First} {toWire : Second → First}
    {ofWire : First → Option Second} (takes : codec.TakesForms)
    (faithful : ∀ {wire value}, ofWire wire = some value → toWire value = wire) :
    (codec.refine toWire ofWire).TakesForms := by
  intro bytes value rest read
  obtain ⟨wire, readWire, accepted⟩ := decode_refine_eq_some_iff.mp read
  obtain ⟨form, same, isForm, short⟩ := takes readWire
  refine ⟨form, same, isForm.refine accepted, ?_⟩
  rw [encode_refine, faithful accepted]
  exact short

theorem TakesForms.length_encode_le {codec : Codec First} (takes : codec.TakesForms)
    {value : First} {form : Bytes} (isForm : codec.IsForm value form) :
    (codec.encode value).length ≤ form.length := by
  obtain ⟨taken, same, -, short⟩ := takes (isForm [])
  rw [List.append_cancel_right same]
  exact short

/-- What has been read is read in the same way when more bytes follow. -/
theorem TakesForms.decode_append {codec : Codec First} (takes : codec.TakesForms)
    {bytes rest : Bytes} {value : First} (read : codec.decode bytes = some (value, rest))
    (tail : Bytes) : codec.decode (bytes ++ tail) = some (value, rest ++ tail) := by
  obtain ⟨form, rfl, isForm, -⟩ := takes read
  rw [List.append_assoc]
  exact isForm _

theorem TakesForms.decode_take_eq_none {codec : Codec First} (takes : codec.TakesForms)
    {value : First} {form : Bytes} (isForm : codec.IsForm value form) {size : Nat}
    (short : size < form.length) : codec.decode (form.take size) = none := by
  cases read : codec.decode (form.take size) with
  | none => rfl
  | some found =>
      have longer := takes.decode_append read (form.drop size)
      have whole := isForm []
      rw [List.take_append_drop] at longer
      rw [List.append_nil, longer, Option.some.injEq, Prod.mk.injEq] at whole
      have empty := congrArg List.length whole.2
      simp only [List.length_append, List.length_drop, List.length_nil] at empty
      omega

theorem byte_takesForms : byte.TakesForms := by
  intro bytes value rest read
  cases bytes with
  | nil => cases read
  | cons first after =>
      cases read
      exact ⟨[_], rfl, fun _ => rfl, Nat.le_refl 1⟩

theorem flag_takesForms : flag.TakesForms := by
  refine byte_takesForms.refine fun {wire value} accepted => ?_
  split at accepted <;> cases accepted <;> rfl

theorem varint_takesForms (type : Varint) : (varint type).TakesForms := by
  intro bytes value rest read
  obtain ⟨⟨number, after⟩, readNumber, accepted⟩ := Option.bind_eq_some_iff.mp read
  dsimp only at accepted
  split at accepted
  · next fits =>
    cases accepted
    obtain ⟨form, same, isForm, short⟩ := Varint.exists_form_of_decode readNumber
    refine ⟨form, same, fun tail => ?_, short⟩
    simp [varint, isForm tail, fits]
  · cases accepted

theorem uint16_takesForms : uint16.TakesForms := by
  refine (varint_takesForms .word16).refine fun {wire value} accepted => ?_
  cases accepted
  exact Fin.ext (UInt16.toNat_ofNat_of_lt' wire.isLt)

theorem zigzag_unzigzag (code : UInt16) : zigzag (unzigzag code) = code := by
  have bound := code.toNat_lt
  unfold unzigzag
  split
  · next even =>
    have value : (Int16.ofInt ((code.toNat / 2 : Nat) : Int)).toInt = (code.toNat / 2 : Nat) :=
      Int16.toInt_ofInt_of_le (by omega) (by omega)
    have double : 2 * ((code.toNat / 2 : Nat) : Int).toNat = code.toNat := by omega
    rw [zigzag, value, if_pos (by omega), double, UInt16.ofNat_toNat]
  · next odd =>
    have value : (Int16.ofInt (-((code.toNat / 2 : Nat) : Int) - 1)).toInt =
        -((code.toNat / 2 : Nat) : Int) - 1 :=
      Int16.toInt_ofInt_of_le (by omega) (by omega)
    have double : 2 * (-(-((code.toNat / 2 : Nat) : Int) - 1)).toNat - 1 = code.toNat := by omega
    rw [zigzag, value, if_neg (by omega), double, UInt16.ofNat_toNat]

theorem int16_takesForms : int16.TakesForms := by
  refine uint16_takesForms.refine fun {wire value} accepted => ?_
  cases accepted
  exact zigzag_unzigzag wire

theorem blob_takesForms : blob.TakesForms := by
  intro bytes value rest read
  obtain ⟨⟨size, after⟩, readSize, accepted⟩ := Option.bind_eq_some_iff.mp read
  dsimp only at accepted
  split at accepted
  · next enough =>
    cases accepted
    obtain ⟨form, rfl, isForm, short⟩ := Varint.exists_form_of_decode readSize
    have length : (after.take size).length = size := by
      rw [List.length_take, Nat.min_eq_left enough]
    refine ⟨form ++ after.take size, ?_, fun tail => ?_, ?_⟩
    · rw [List.append_assoc, List.take_append_drop]
    · simp [blob, isForm, List.take_left' length, List.drop_left' length, enough]
    · change (Varint.encode (after.take size).length ++ after.take size).length ≤ _
      rw [List.length_append, List.length_append, length]
      exact Nat.add_le_add_right short _
  · cases accepted

theorem textBytes_of_textOfBytes? {bytes : Bytes} {value : String}
    (read : textOfBytes? bytes = some value) : textBytes value = bytes := by
  unfold textOfBytes? String.fromUTF8? at read
  split at read
  · cases read
    rfl
  · cases read

theorem text_takesForms : text.TakesForms :=
  blob_takesForms.refine textBytes_of_textOfBytes?

theorem choice_takesForms {Value : Type u} [BEq Value] [LawfulBEq Value] {values : List Value}
    (apart : values.Nodup) : (choice values).TakesForms := by
  intro bytes value rest read
  obtain ⟨⟨place, after⟩, readPlace, accepted⟩ := Option.bind_eq_some_iff.mp read
  obtain ⟨found, listed, same⟩ := Option.map_eq_some_iff.mp accepted
  cases same
  obtain ⟨form, split, isForm, short⟩ := Varint.exists_form_of_decode readPlace
  obtain ⟨inside, rfl⟩ := List.getElem?_eq_some_iff.mp listed
  refine ⟨form, split, fun tail => ?_, ?_⟩
  · simp [choice, isForm tail, inside]
  · change (Varint.encode (values.idxOf values[place])).length ≤ _
    rw [apart.idxOf_getElem place inside]
    exact short

end Codec

end Cubesat
