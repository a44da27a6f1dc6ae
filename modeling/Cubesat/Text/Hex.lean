import Cubesat.Bytes

/-!
Hexadecimal digits, and byte strings written in them.
-/

namespace Cubesat.Hex

def digit (n : Nat) : Char :=
  if n < 10 then Char.ofNat ('0'.toNat + n) else Char.ofNat ('a'.toNat + (n - 10))

/-- The value of a digit of either case. -/
def value? (c : Char) : Option Nat :=
  if '0' ≤ c ∧ c ≤ '9' then some (c.toNat - '0'.toNat)
  else if 'a' ≤ c ∧ c ≤ 'f' then some (c.toNat - 'a'.toNat + 10)
  else if 'A' ≤ c ∧ c ≤ 'F' then some (c.toNat - 'A'.toNat + 10)
  else none

def encode (bytes : Bytes) : List Char :=
  bytes.flatMap fun byte => [digit (byte.toNat / 16), digit (byte.toNat % 16)]

def text (bytes : Bytes) : String :=
  String.ofList (encode bytes)

def decode? : List Char → Option Bytes
  | [] => some []
  | [_] => none
  | high :: low :: rest => do
      let high ← value? high
      let low ← value? low
      let others ← decode? rest
      return UInt8.ofNat (16 * high + low) :: others

theorem value?_digit {n : Nat} (small : n < 16) : value? (digit n) = some n := by
  have all : ∀ n : Fin 16, value? (digit n) = some n.val := by decide
  exact all ⟨n, small⟩

end Cubesat.Hex
