/-!
JSON values, as exact as their text: a number keeps its digits and a string
keeps surrogate escapes that stand alone.
-/

namespace Cubesat

universe u

inductive Json.TextUnit where
  | char (c : Char)
  /-- The escape of the surrogate code point 0xD800 + `offset`. -/
  | surrogate (offset : Fin 2048)
  deriving DecidableEq

abbrev Json.Text := List Json.TextUnit

/-- A JSON number as it is written. -/
structure Json.Number where
  negative : Bool
  whole : Nat
  /-- The digits after the decimal point; none if there is no point. -/
  fraction : List (Fin 10)
  exponent : Option Int
  deriving DecidableEq

inductive Json where
  | null
  | bool (value : Bool)
  | number (value : Json.Number)
  | text (value : Json.Text)
  | array (items : List Json)
  | object (members : List (Json.Text × Json))

namespace Json

namespace Text

def ofChars (chars : List Char) : Text :=
  chars.map TextUnit.char

def ofString (text : String) : Text :=
  ofChars text.toList

def pairedChar (high low : Fin 2048) : Char :=
  Char.ofNat (65536 + 1024 * high.val + (low.val - 1024))

/-- The characters of a string, unless a surrogate stands without its other half. -/
def chars? : Text → Option (List Char)
  | [] => some []
  | .char c :: rest => (chars? rest).map (c :: ·)
  | .surrogate high :: .surrogate low :: rest =>
      if high.val < 1024 ∧ 1024 ≤ low.val then
        (chars? rest).map (pairedChar high low :: ·)
      else
        none
  | .surrogate _ :: _ => none

def string? (text : Text) : Option String :=
  text.chars?.map String.ofList

@[simp]
theorem chars?_ofChars (chars : List Char) : chars? (ofChars chars) = some chars := by
  induction chars with
  | nil => rfl
  | cons c rest ih => simp_all [ofChars, chars?]

@[simp]
theorem string?_ofString (text : String) : string? (ofString text) = some text := by
  simp [string?, ofString]

end Text

namespace Number

def ofNat (number : Nat) : Number :=
  { negative := false, whole := number, fraction := [], exponent := none }

def ofInt (number : Int) : Number :=
  { negative := number < 0, whole := number.natAbs, fraction := [], exponent := none }

/-- The natural number that is written without sign, point or exponent. -/
def natural? (number : Number) : Option Nat :=
  if number.negative || !number.fraction.isEmpty || number.exponent.isSome then
    none
  else
    some number.whole

@[simp]
theorem natural?_ofNat (number : Nat) : (ofNat number).natural? = some number := rfl

theorem natural?_eq_some_iff {number : Number} {n : Nat} :
    number.natural? = some n ↔ number = .ofNat n := by
  constructor
  · intro read
    obtain ⟨negative, whole, fraction, exponent⟩ := number
    simp only [natural?, Option.ite_none_left_eq_some, Bool.or_eq_true, not_or, Bool.not_eq_true,
      Bool.not_eq_false', List.isEmpty_iff, Option.isSome_eq_false_iff, Option.isNone_iff_eq_none,
      Option.some.injEq] at read
    obtain ⟨⟨⟨rfl, rfl⟩, rfl⟩, rfl⟩ := read
    rfl
  · rintro rfl
    rfl

end Number

def ofNat (number : Nat) : Json := .number (.ofNat number)

theorem ofNat_injective {n m : Nat} (same : ofNat n = ofNat m) : n = m := by
  injection same with same
  injection same

def ofInt (number : Int) : Json := .number (.ofInt number)

def ofString (text : String) : Json := .text (.ofString text)

def ofFields (fields : List (String × Json)) : Json :=
  .object (fields.map fun field => (.ofString field.1, field.2))

def ofOption {α : Type u} (encode : α → Json) : Option α → Json
  | none => .null
  | some value => encode value

end Json

end Cubesat
