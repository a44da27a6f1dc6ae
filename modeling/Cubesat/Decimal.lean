/-!
Natural numbers written in decimal digits.
-/

namespace Cubesat.Decimal

def value (digits : List (Fin 10)) : Nat :=
  digits.foldl (fun number digit => 10 * number + digit.val) 0

/-- The last digits of a number, as many as `places` allows, without leading zeros. -/
def digitsWithin : (places number : Nat) → List (Fin 10)
  | 0, _ => []
  | places + 1, number =>
      if number < 10 then
        [Fin.ofNat 10 number]
      else
        digitsWithin places (number / 10) ++ [Fin.ofNat 10 number]

/-- The digits of a number, most significant first; zero is one digit. -/
def digits (number : Nat) : List (Fin 10) :=
  digitsWithin (number + 1) number

def charOfDigit (digit : Fin 10) : Char :=
  Char.ofNat ('0'.toNat + digit.val)

def digitOfChar? (c : Char) : Option (Fin 10) :=
  if inRange : '0'.toNat ≤ c.toNat ∧ c.toNat < '0'.toNat + 10 then
    some ⟨c.toNat - '0'.toNat, by omega⟩
  else
    none

def spanDigits : List Char → List (Fin 10) × List Char
  | [] => ([], [])
  | c :: rest =>
      match digitOfChar? c with
      | none => ([], c :: rest)
      | some digit => (digit :: (spanDigits rest).1, (spanDigits rest).2)

def render (number : Nat) : List Char :=
  (digits number).map charOfDigit

theorem value_concat (digits : List (Fin 10)) (digit : Fin 10) :
    value (digits ++ [digit]) = 10 * value digits + digit.val := by
  simp [value]

theorem value_digitsWithin {places number : Nat} (enough : number < places) :
    value (digitsWithin places number) = number := by
  induction places generalizing number with
  | zero => omega
  | succ places inductionHypothesis =>
      unfold digitsWithin
      split
      case isTrue small => simp [value, Nat.mod_eq_of_lt small]
      case isFalse large =>
        rw [value_concat, inductionHypothesis (by omega), Fin.val_ofNat]
        omega

theorem value_digits (number : Nat) : value (digits number) = number :=
  value_digitsWithin (Nat.lt_succ_self number)

/-- No zero leads the digits of a number that is not zero itself. -/
theorem exists_digitsWithin_eq_cons {places number : Nat} (positive : 0 < number)
    (enough : number < places) :
    ∃ first rest, digitsWithin places number = first :: rest ∧ first ≠ 0 := by
  induction places generalizing number with
  | zero => omega
  | succ places inductionHypothesis =>
      unfold digitsWithin
      split
      case isTrue small =>
        refine ⟨_, _, rfl, ?_⟩
        rw [ne_eq, Fin.ext_iff, Fin.val_ofNat, Nat.mod_eq_of_lt small]
        exact Nat.ne_of_gt positive
      case isFalse large =>
        obtain ⟨first, rest, front, leading⟩ :=
          @inductionHypothesis (number / 10) (by omega) (by omega)
        exact ⟨first, rest ++ _, by rw [front, List.cons_append], leading⟩

@[simp]
theorem digitOfChar?_charOfDigit (digit : Fin 10) :
    digitOfChar? (charOfDigit digit) = some digit := by
  revert digit
  decide

theorem spanDigits_map (digits : List (Fin 10)) {rest : List Char}
    (ended : (spanDigits rest).1 = []) :
    spanDigits (digits.map charOfDigit ++ rest) = (digits, rest) := by
  induction digits with
  | nil =>
      cases rest with
      | nil => rfl
      | cons c rest =>
          unfold spanDigits at ended ⊢
          simp only [List.map_nil, List.nil_append]
          split at ended <;> simp_all
  | cons digit digits ih => simp [spanDigits, ih]

end Cubesat.Decimal
