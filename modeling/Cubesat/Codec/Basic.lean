import Cubesat.Bytes

/-!
Codecs: a written form in bytes and a reader for it, and the ways in which
codecs of larger values are put together from codecs of smaller ones.

A reader returns the value together with the bytes that follow it, so that
codecs can be run one after another.
-/

namespace Cubesat

universe u v

/-- A written form of the values of a type, with its reader. -/
structure Codec (Value : Type u) where
  encode : Value → Bytes
  /-- Reads a value off the front of a byte string and returns the rest. -/
  decode : Bytes → Option (Value × Bytes)

namespace Codec

variable {First : Type u} {Second : Type v}

def pair (first : Codec First) (second : Codec Second) : Codec (First × Second) where
  encode value := first.encode value.1 ++ second.encode value.2
  decode bytes :=
    (first.decode bytes).bind fun (a, rest) =>
      (second.decode rest).map fun (b, rest) => ((a, b), rest)

/-- The same bytes read as another type, which may leave some of the values out. -/
def refine (codec : Codec First) (toWire : Second → First) (ofWire : First → Option Second) :
    Codec Second where
  encode value := codec.encode (toWire value)
  decode bytes :=
    (codec.decode bytes).bind fun (wire, rest) => (ofWire wire).map fun value => (value, rest)

@[simp]
theorem encode_pair (first : Codec First) (second : Codec Second) (value : First × Second) :
    (first.pair second).encode value = first.encode value.1 ++ second.encode value.2 := rfl

@[simp]
theorem encode_refine (codec : Codec First) (toWire : Second → First)
    (ofWire : First → Option Second) (value : Second) :
    (codec.refine toWire ofWire).encode value = codec.encode (toWire value) := rfl

theorem decode_pair_eq_some_iff {first : Codec First} {second : Codec Second} {bytes rest : Bytes}
    {value : First × Second} :
    (first.pair second).decode bytes = some (value, rest) ↔
      ∃ middle, first.decode bytes = some (value.1, middle) ∧
        second.decode middle = some (value.2, rest) := by
  obtain ⟨a, b⟩ := value
  simp only [pair, Option.bind_eq_some_iff, Option.map_eq_some_iff]
  constructor
  · rintro ⟨⟨x, middle⟩, readFirst, ⟨y, tail⟩, readSecond, same⟩
    cases same
    exact ⟨middle, readFirst, readSecond⟩
  · rintro ⟨middle, readFirst, readSecond⟩
    exact ⟨(a, middle), readFirst, (b, rest), readSecond, rfl⟩

theorem decode_refine_eq_some_iff {codec : Codec First} {toWire : Second → First}
    {ofWire : First → Option Second} {bytes rest : Bytes} {value : Second} :
    (codec.refine toWire ofWire).decode bytes = some (value, rest) ↔
      ∃ wire, codec.decode bytes = some (wire, rest) ∧ ofWire wire = some value := by
  simp only [refine, Option.bind_eq_some_iff, Option.map_eq_some_iff]
  constructor
  · rintro ⟨⟨wire, tail⟩, read, x, accepted, same⟩
    cases same
    exact ⟨wire, read, accepted⟩
  · rintro ⟨wire, read, accepted⟩
    exact ⟨(wire, rest), read, value, accepted, rfl⟩

end Codec

end Cubesat
