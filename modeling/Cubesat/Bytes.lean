/-!
Byte strings, numbers written in bytes, and reading into a buffer that is
already there.
-/

namespace Cubesat

/-- A string of bytes, first byte first. -/
abbrev Bytes := List UInt8

namespace Bytes

def zeros (size : Nat) : Bytes :=
  List.replicate size 0

@[simp]
theorem length_zeros (size : Nat) : (zeros size).length = size :=
  List.length_replicate

/--
A buffer after bytes have arrived in it: they take its first places, what does
not fit is lost, and places that no byte reached keep what they held.
-/
def receive (buffer arrived : Bytes) : Bytes :=
  arrived.take buffer.length ++ buffer.drop arrived.length

@[simp]
theorem length_receive (buffer arrived : Bytes) :
    (receive buffer arrived).length = buffer.length := by
  simp only [receive, List.length_append, List.length_take, List.length_drop]
  omega

theorem receive_of_length_eq {buffer arrived : Bytes} (same : arrived.length = buffer.length) :
    receive buffer arrived = arrived := by
  simp [receive, ← same]

@[simp]
theorem receive_nil (buffer : Bytes) : receive buffer [] = buffer := by
  simp [receive]

/-- The first bytes of a string, filled up with zeros where the string is shorter. -/
def fitted (size : Nat) (bytes : Bytes) : Bytes :=
  bytes.take size ++ zeros (size - bytes.length)

@[simp]
theorem length_fitted (size : Nat) (bytes : Bytes) : (fitted size bytes).length = size := by
  simp only [fitted, zeros, List.length_append, List.length_take, List.length_replicate]
  omega

theorem fitted_of_le {size : Nat} {bytes : Bytes} (enough : size ≤ bytes.length) :
    fitted size bytes = bytes.take size := by
  simp [fitted, zeros, Nat.sub_eq_zero_of_le enough]

/-- The lowest bytes of a number, least significant first. -/
def littleEndian : (width number : Nat) → Bytes
  | 0, _ => []
  | width + 1, number => UInt8.ofNat number :: littleEndian width (number / 256)

def ofLittleEndian : Bytes → Nat
  | [] => 0
  | byte :: rest => byte.toNat + 256 * ofLittleEndian rest

/-- The lowest bytes of a number, most significant first. -/
def bigEndian (width number : Nat) : Bytes :=
  (littleEndian width number).reverse

def ofBigEndian (bytes : Bytes) : Nat :=
  ofLittleEndian bytes.reverse

@[simp]
theorem length_littleEndian (width number : Nat) : (littleEndian width number).length = width := by
  induction width generalizing number with
  | zero => rfl
  | succ width ih => simp [littleEndian, ih]

theorem ofLittleEndian_lt (bytes : Bytes) : ofLittleEndian bytes < Nat.pow 256 bytes.length := by
  induction bytes with
  | nil => decide
  | cons byte rest ih =>
      have := byte.toNat_lt
      have larger : Nat.pow 256 (rest.length + 1) = Nat.pow 256 rest.length * 256 := rfl
      simp only [ofLittleEndian, List.length_cons, larger]
      omega

theorem ofLittleEndian_littleEndian {width number : Nat} (fits : number < Nat.pow 256 width) :
    ofLittleEndian (littleEndian width number) = number := by
  induction width generalizing number with
  | zero =>
      have : number < 1 := fits
      simp only [littleEndian, ofLittleEndian]
      omega
  | succ width ih =>
      have larger : Nat.pow 256 (width + 1) = Nat.pow 256 width * 256 := rfl
      have quotient : number / 256 < Nat.pow 256 width := by
        rw [Nat.div_lt_iff_lt_mul (by decide), ← larger]
        exact fits
      simp only [littleEndian, ofLittleEndian, ih quotient, UInt8.toNat_ofNat']
      omega

theorem littleEndian_ofLittleEndian (bytes : Bytes) :
    littleEndian bytes.length (ofLittleEndian bytes) = bytes := by
  induction bytes with
  | nil => rfl
  | cons byte rest ih =>
      have := byte.toNat_lt
      have low : UInt8.ofNat (byte.toNat + 256 * ofLittleEndian rest) = byte := by
        apply UInt8.toNat_inj.mp
        rw [UInt8.toNat_ofNat']
        omega
      have high : (byte.toNat + 256 * ofLittleEndian rest) / 256 = ofLittleEndian rest := by omega
      rw [List.length_cons, ofLittleEndian, littleEndian, low, high, ih]

theorem ofBigEndian_eq_iff {bytes : Bytes} {number : Nat}
    (fits : number < Nat.pow 256 bytes.length) :
    ofBigEndian bytes = number ↔ bytes = bigEndian bytes.length number := by
  unfold ofBigEndian bigEndian
  constructor
  · intro same
    have back := littleEndian_ofLittleEndian bytes.reverse
    rw [same, List.length_reverse] at back
    rw [back, List.reverse_reverse]
  · intro same
    rw [same, List.reverse_reverse]
    exact ofLittleEndian_littleEndian fits

end Bytes

def textBytes (text : String) : Bytes :=
  text.toUTF8.data.toList

def textOfBytes? (bytes : Bytes) : Option String :=
  String.fromUTF8? ⟨bytes.toArray⟩

end Cubesat
