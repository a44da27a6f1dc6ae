import Cubesat.Codec.Basic

/-!
Unsigned numbers of varying length.

A number below 251 is one byte. A larger one is a marker, 251, 252 or 253, and
two, four or eight bytes with the least significant first. The writer takes the
shortest form; the reader takes any form whose marker the number's type admits.
-/

namespace Cubesat

inductive Varint where
  | word16
  | word32
  | word64
  deriving DecidableEq

namespace Varint

/-- The first number that is too large for the type. -/
def bound : Varint → Nat
  | word16 => 65536
  | word32 => 4294967296
  | word64 => 18446744073709551616

/-- The bytes that follow a marker, if the type admits the marker. -/
def markedWidth? (type : Varint) (marker : UInt8) : Option Nat :=
  match type, marker with
  | _, 251 => some 2
  | word32, 252 => some 4
  | word64, 252 => some 4
  | word64, 253 => some 8
  | _, _ => none

def encode (number : Nat) : Bytes :=
  if number < 251 then
    [UInt8.ofNat number]
  else if number < 65536 then
    251 :: Bytes.littleEndian 2 number
  else if number < 4294967296 then
    252 :: Bytes.littleEndian 4 number
  else
    253 :: Bytes.littleEndian 8 number

/-- Reads a number of the type in any of its written forms. -/
def decode (type : Varint) : Bytes → Option (Nat × Bytes)
  | [] => none
  | first :: rest =>
      if first < 251 then
        some (first.toNat, rest)
      else
        (type.markedWidth? first).bind fun width =>
          if width ≤ rest.length then
            some (Bytes.ofLittleEndian (rest.take width), rest.drop width)
          else
            none

end Varint

namespace Codec

def varint (type : Varint) : Codec (Fin type.bound) where
  encode number := Varint.encode number.val
  decode bytes :=
    (type.decode bytes).bind fun (number, rest) =>
      if fits : number < type.bound then some (⟨number, fits⟩, rest) else none

def uint16 : Codec UInt16 :=
  (varint .word16).refine (fun n => ⟨n.toNat, n.toNat_lt⟩) fun n => some (UInt16.ofNat n.val)

def uint32 : Codec UInt32 :=
  (varint .word32).refine (fun n => ⟨n.toNat, n.toNat_lt⟩) fun n => some (UInt32.ofNat n.val)

def uint64 : Codec UInt64 :=
  (varint .word64).refine (fun n => ⟨n.toNat, n.toNat_lt⟩) fun n => some (UInt64.ofNat n.val)

/-- Even codes stand for the numbers from zero up and odd ones for those from -1 down. -/
def zigzag (n : Int16) : UInt16 :=
  if 0 ≤ n.toInt then UInt16.ofNat (2 * n.toInt.toNat) else UInt16.ofNat (2 * (-n.toInt).toNat - 1)

def unzigzag (code : UInt16) : Int16 :=
  if code.toNat % 2 = 0 then
    Int16.ofInt (code.toNat / 2 : Nat)
  else
    Int16.ofInt (-((code.toNat / 2 : Nat) : Int) - 1)

/-- Signed numbers of 16 bits, written through their zigzag code. -/
def int16 : Codec Int16 :=
  uint16.refine zigzag fun code => some (unzigzag code)

end Codec

end Cubesat
