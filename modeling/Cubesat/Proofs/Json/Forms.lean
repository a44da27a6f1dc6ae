import Cubesat.Json.Token
import Mathlib.Data.List.Basic
import Mathlib.Data.List.Chain

/-!
The written forms of the tokens of JSON, and texts that are spelled in them.

A token may be written in more ways than it is printed: with escapes of several
kinds in a string, with either mark and any sign in an exponent. Blanks may
stand around every token. The scanner gives back the tokens of every such text
in which no number stands right after another one.
-/

namespace Cubesat.Json

def letterEscapes : List (Char × Char) :=
  [('"', '"'), ('\\', '\\'), ('/', '/'), ('b', '\x08'), ('f', '\x0c'), ('n', '\n'), ('r', '\r'),
    ('t', '\t')]

/-- The ways to write a unit of a string. -/
inductive TextUnit.Form : TextUnit → List Char → Prop
  | plain {c : Char} (printable : 32 ≤ c.toNat) (noQuote : c ≠ '"') (noBackslash : c ≠ '\\') :
      Form (.char c) [c]
  | letter {letter c : Char} (listed : (letter, c) ∈ letterEscapes) :
      Form (.char c) ['\\', letter]
  | code {a b c d : Char} {w x y z : Nat} (first : Hex.value? a = some w)
      (second : Hex.value? b = some x) (third : Hex.value? c = some y)
      (fourth : Hex.value? d = some z) :
      Form (.ofCode (((w * 16 + x) * 16 + y) * 16 + z)) ['\\', 'u', a, b, c, d]

inductive Text.Form : Text → List Char → Prop
  | closed : Form [] ['"']
  | unit {unit : TextUnit} {text : Text} {chars later : List Char} (form : unit.Form chars)
      (others : Form text later) : Form (unit :: text) (chars ++ later)

def fractionForm : List (Fin 10) → List Char
  | [] => []
  | first :: rest => '.' :: (first :: rest).map Decimal.charOfDigit

inductive ExponentForm : Option Int → List Char → Prop
  | absent : ExponentForm none []
  | present {mark : Char} {sign : List Char} {negative : Bool} {digits : List (Fin 10)}
      (marked : mark ∈ ['e', 'E'])
      (signed : (sign, negative) ∈ [([], false), (['+'], false), (['-'], true)])
      (written : digits ≠ []) :
      ExponentForm (some (if negative then -(Decimal.value digits : Int) else Decimal.value digits))
        (mark :: (sign ++ digits.map Decimal.charOfDigit))

def Plain (digits : List (Fin 10)) : Prop :=
  ∃ first rest, digits = first :: rest ∧ (first.val = 0 → rest = [])

inductive UnsignedForm (negative : Bool) : Number → List Char → Prop
  | intro {whole : List (Fin 10)} (fraction : List (Fin 10)) {exponent : Option Int}
      {power : List Char} (plain : Plain whole) (form : ExponentForm exponent power) :
      UnsignedForm negative { negative, whole := Decimal.value whole, fraction, exponent }
        (whole.map Decimal.charOfDigit ++ (fractionForm fraction ++ power))

inductive Token.Form : Token → List Char → Prop
  | openArray : Form .openArray ['[']
  | closeArray : Form .closeArray [']']
  | openObject : Form .openObject ['{']
  | closeObject : Form .closeObject ['}']
  | comma : Form .comma [',']
  | colon : Form .colon [':']
  | null : Form .null ['n', 'u', 'l', 'l']
  | true : Form (.bool true) ['t', 'r', 'u', 'e']
  | false : Form (.bool false) ['f', 'a', 'l', 's', 'e']
  | natural {value : Number} {chars : List Char} (form : UnsignedForm Bool.false value chars) :
      Form (.number value) chars
  | negative {value : Number} {chars : List Char} (form : UnsignedForm Bool.true value chars) :
      Form (.number value) ('-' :: chars)
  | text {value : Text} {chars : List Char} (form : value.Form chars) :
      Form (.text value) ('"' :: chars)

/-- Tokens one after the other, with blanks around any of them. -/
inductive Spelled : List Token → List Char → Prop
  | done : Spelled [] []
  | blank {c : Char} {tokens : List Token} {chars : List Char} (blank : isBlank c = true)
      (spelled : Spelled tokens chars) : Spelled tokens (c :: chars)
  | token {token : Token} {tokens : List Token} {chars later : List Char}
      (form : token.Form chars) (spelled : Spelled tokens later) :
      Spelled (token :: tokens) (chars ++ later)

theorem scanText_unit {unit : TextUnit} {chars : List Char} (form : unit.Form chars)
    (rest : List Char) :
    scanText (chars ++ rest) =
      (scanText rest).bind fun read => some (unit :: read.1, read.2) := by
  cases form with
  | @plain c printable noQuote noBackslash =>
      have allowed : ¬ (c.toNat < 32 ∨ c = '\\') := by
        rintro (control | backslash)
        · exact Nat.not_lt.mpr printable control
        · exact noBackslash backslash
      rw [List.singleton_append, scanText.eq_def (c :: rest)]
      split
      case h_5 same =>
        obtain ⟨rfl, rfl⟩ := List.cons.inj same
        exact if_neg allowed
      all_goals simp_all
  | letter listed =>
      simp only [letterEscapes, List.mem_cons, Prod.mk.injEq, List.not_mem_nil, or_false] at listed
      rcases listed with ⟨rfl, rfl⟩ | ⟨rfl, rfl⟩ | ⟨rfl, rfl⟩ | ⟨rfl, rfl⟩ | ⟨rfl, rfl⟩ |
        ⟨rfl, rfl⟩ | ⟨rfl, rfl⟩ | ⟨rfl, rfl⟩ <;>
      simp [scanText]
  | code first second third fourth =>
      simp [scanText, TextUnit.ofHex?, first, second, third, fourth]

theorem scanText_form {text : Text} {chars : List Char} (form : text.Form chars)
    (rest : List Char) : scanText (chars ++ rest) = some (text, rest) := by
  induction form with
  | closed => simp [scanText]
  | unit form _ inductionHypothesis =>
      rw [List.append_assoc, scanText_unit form, inductionHypothesis]
      rfl

theorem charOfDigit_not_mem (digit : Fin 10) :
    Decimal.charOfDigit digit ∉
      ['-', '+', '.', 'e', 'E', '[', ']', '{', '}', ',', ':', '"', 'n', 't', 'f'] := by
  revert digit
  decide

theorem isBlank_charOfDigit (digit : Fin 10) : isBlank (Decimal.charOfDigit digit) = false := by
  revert digit
  decide

theorem charOfDigit_ne_zero :
    ∀ {digit : Fin 10}, digit.val ≠ 0 → Decimal.charOfDigit digit ≠ '0' := by
  decide

def NoDigit (chars : List Char) : Prop :=
  ∀ c ∈ chars.head?, Decimal.digitOfChar? c = none

theorem noDigit_cons {c : Char} (noDigit : Decimal.digitOfChar? c = none) (rest : List Char) :
    NoDigit (c :: rest) := by
  rintro _ ⟨⟩
  exact noDigit

/-- Nothing comes next that a number would go on with. -/
def Delimited (chars : List Char) : Prop :=
  NoDigit chars ∧ ∀ c ∈ chars.head?, c ∉ ['.', 'e', 'E']

theorem NoDigit.span {rest : List Char} (noDigit : NoDigit rest) (digits : List (Fin 10)) :
    Decimal.spanDigits (digits.map Decimal.charOfDigit ++ rest) = (digits, rest) := by
  apply Decimal.spanDigits_map
  cases rest with
  | nil => rfl
  | cons c later =>
      unfold Decimal.spanDigits
      rw [noDigit c rfl]

theorem scanExponentDigits_form {sign : List Char} {negative : Bool} {digits : List (Fin 10)}
    (signed : (sign, negative) ∈ [([], false), (['+'], false), (['-'], true)])
    (written : digits ≠ []) {rest : List Char} (noDigit : NoDigit rest) :
    scanExponentDigits (sign ++ (digits.map Decimal.charOfDigit ++ rest)) =
      some (if negative then -(Decimal.value digits : Int) else Decimal.value digits, rest) := by
  obtain ⟨first, others, rfl⟩ := List.exists_cons_of_ne_nil written
  have span := noDigit.span (first :: others)
  have noSign := charOfDigit_not_mem first
  simp only [List.mem_cons, Prod.mk.injEq, List.not_mem_nil, or_false] at signed noSign
  rw [List.map_cons, List.cons_append] at span ⊢
  rcases signed with ⟨rfl, rfl⟩ | ⟨rfl, rfl⟩ | ⟨rfl, rfl⟩
  · rw [List.nil_append]
    unfold scanExponentDigits
    split
    simp_all
  · simp [scanExponentDigits, span]
  · simp [scanExponentDigits, span]

theorem scanWhole_form {whole : List (Fin 10)} (plain : Plain whole) {rest : List Char}
    (noDigit : NoDigit rest) :
    scanWhole (whole.map Decimal.charOfDigit ++ rest) = some (Decimal.value whole, rest) := by
  obtain ⟨first, others, rfl, alone⟩ := plain
  by_cases leading : first.val = 0
  · obtain rfl := alone leading
    obtain rfl : first = 0 := Fin.ext leading
    rfl
  · have span := noDigit.span (first :: others)
    have noZero := charOfDigit_ne_zero leading
    rw [List.map_cons, List.cons_append] at span ⊢
    unfold scanWhole
    split <;> simp_all

section Numbers

variable {rest : List Char} (delimited : Delimited rest)

include delimited

theorem scanExponent_form {exponent : Option Int} {power : List Char}
    (form : ExponentForm exponent power) :
    scanExponent (power ++ rest) = some (exponent, rest) := by
  cases form with
  | absent =>
      cases rest with
      | nil => rfl
      | cons c later =>
          have noMark := delimited.2 c rfl
          rw [List.nil_append]
          unfold scanExponent
          split <;> simp_all
  | present marked signed written =>
      have read := scanExponentDigits_form signed written delimited.1
      simp only [List.mem_cons, List.not_mem_nil, or_false] at marked
      rcases marked with rfl | rfl <;> simp [scanExponent, read]

theorem head?_power {exponent : Option Int} {power : List Char}
    (form : ExponentForm exponent power) :
    NoDigit (power ++ rest) ∧ ∀ c ∈ (power ++ rest).head?, c ≠ '.' := by
  cases form with
  | absent => exact ⟨delimited.1, fun c next point => delimited.2 c next (by simp [point])⟩
  | present marked signed written =>
      simp only [List.mem_cons, List.not_mem_nil, or_false] at marked
      rcases marked with rfl | rfl
      · exact ⟨noDigit_cons rfl _, by rintro _ ⟨⟩; decide⟩
      · exact ⟨noDigit_cons rfl _, by rintro _ ⟨⟩; decide⟩

theorem scanFraction_form {exponent : Option Int} {power : List Char}
    (form : ExponentForm exponent power) (fraction : List (Fin 10)) :
    scanFraction (fractionForm fraction ++ (power ++ rest)) = some (fraction, power ++ rest) := by
  obtain ⟨noDigit, noPoint⟩ := head?_power delimited form
  cases fraction with
  | nil =>
      rw [fractionForm, List.nil_append]
      unfold scanFraction
      split <;> simp_all
  | cons first others =>
      have span := noDigit.span (first :: others)
      rw [List.map_cons, List.cons_append] at span
      simp [fractionForm, scanFraction, span]

theorem noDigit_fraction {exponent : Option Int} {power : List Char}
    (form : ExponentForm exponent power) (fraction : List (Fin 10)) :
    NoDigit (fractionForm fraction ++ (power ++ rest)) := by
  cases fraction with
  | nil => exact (head?_power delimited form).1
  | cons first others => exact noDigit_cons rfl _

theorem scanUnsigned_form {negative : Bool} {value : Number} {chars : List Char}
    (form : UnsignedForm negative value chars) :
    scanUnsigned negative (chars ++ rest) = some (value, rest) := by
  cases form with
  | intro fraction plain form =>
      have whole := scanWhole_form plain (noDigit_fraction delimited form fraction)
      have fraction := scanFraction_form delimited form fraction
      have power := scanExponent_form delimited form
      simp [scanUnsigned, List.append_assoc, whole, fraction, power]

end Numbers

theorem scanToken_digit (digit : Fin 10) (rest : List Char) :
    scanToken (Decimal.charOfDigit digit) rest =
      (scanUnsigned false (Decimal.charOfDigit digit :: rest)).map fun read =>
        (.number read.1, read.2) := by
  have start := charOfDigit_not_mem digit
  simp only [List.mem_cons, List.not_mem_nil, or_false] at start
  unfold scanToken
  split <;> simp_all

def Token.isNumber : Token → Bool
  | .number _ => true
  | _ => false

theorem UnsignedForm.exists_digit {negative : Bool} {value : Number} {chars : List Char}
    (form : UnsignedForm negative value chars) :
    ∃ digit later, chars = Decimal.charOfDigit digit :: later := by
  cases form with
  | intro fraction plain _ =>
      obtain ⟨first, others, rfl, -⟩ := plain
      exact ⟨first, _, rfl⟩

theorem scanToken_form {token : Token} {chars rest : List Char} (form : token.Form chars)
    (delimited : token.isNumber = true → Delimited rest) :
    ∃ first later, chars = first :: later ∧ isBlank first = false ∧
      scanToken first (later ++ rest) = some (token, rest) := by
  cases form with
  | openArray => exact ⟨_, _, rfl, rfl, rfl⟩
  | closeArray => exact ⟨_, _, rfl, rfl, rfl⟩
  | openObject => exact ⟨_, _, rfl, rfl, rfl⟩
  | closeObject => exact ⟨_, _, rfl, rfl, rfl⟩
  | comma => exact ⟨_, _, rfl, rfl, rfl⟩
  | colon => exact ⟨_, _, rfl, rfl, rfl⟩
  | null => exact ⟨_, _, rfl, rfl, rfl⟩
  | true => exact ⟨_, _, rfl, rfl, rfl⟩
  | false => exact ⟨_, _, rfl, rfl, rfl⟩
  | natural form =>
      have read := scanUnsigned_form (delimited rfl) form
      obtain ⟨digit, later, rfl⟩ := form.exists_digit
      refine ⟨_, _, rfl, isBlank_charOfDigit digit, ?_⟩
      rw [scanToken_digit, ← List.cons_append, read]
      rfl
  | negative form =>
      refine ⟨'-', _, rfl, rfl, ?_⟩
      have read := scanUnsigned_form (delimited rfl) form
      simp only [scanToken, read, Option.map_some]
  | text form =>
      refine ⟨'"', _, rfl, rfl, ?_⟩
      simp only [scanToken, scanText_form form, Option.map_some]

theorem delimited_cons {c : Char} (noDigit : Decimal.digitOfChar? c = none)
    (noMark : c ∉ ['.', 'e', 'E']) (rest : List Char) : Delimited (c :: rest) := by
  refine ⟨noDigit_cons noDigit rest, ?_⟩
  rintro _ ⟨⟩
  exact noMark

/-- Neither a blank nor a token other than a number is taken for more of a number. -/
theorem Spelled.delimited {tokens : List Token} {chars : List Char} (spelled : Spelled tokens chars)
    (apart : ∀ token ∈ tokens.head?, token.isNumber = false) : Delimited chars := by
  cases spelled with
  | done => exact ⟨by rintro _ ⟨⟩, by rintro _ ⟨⟩⟩
  | @blank c tokens chars blank spelled =>
      simp only [isBlank, Bool.or_eq_true, beq_iff_eq] at blank
      rcases blank with ((rfl | rfl) | rfl) | rfl <;> exact delimited_cons rfl (by decide) chars
  | @token token tokens chars later form spelled =>
      have other := apart token rfl
      cases form with
      | natural _ => cases other
      | negative _ => cases other
      | _ => exact delimited_cons rfl (by decide) _

def Apart : List Token → Prop :=
  List.IsChain fun token next => token.isNumber = true → next.isNumber = false

theorem scanWithin_spelled {tokens : List Token} {chars : List Char}
    (spelled : Spelled tokens chars) (apart : Apart tokens) {steps : Nat}
    (enough : chars.length ≤ steps) : scanWithin steps chars = some tokens := by
  induction spelled generalizing steps with
  | done =>
      unfold scanWithin
      rfl
  | blank blank _ inductionHypothesis =>
      obtain ⟨steps, rfl⟩ := Nat.exists_eq_add_of_le' (Nat.le_trans (Nat.le_add_left 1 _) enough)
      rw [scanWithin, if_pos blank]
      exact inductionHypothesis apart (Nat.le_of_succ_le_succ enough)
  | @token token tokens chars later form spelled inductionHypothesis =>
      obtain ⟨next, others⟩ := List.isChain_cons.mp apart
      have delimited (number : token.isNumber = true) : Delimited later :=
        spelled.delimited fun other membership => next other membership number
      obtain ⟨first, rest, rfl, noBlank, scanned⟩ := scanToken_form form delimited
      rw [List.cons_append, List.length_cons, List.length_append] at enough
      obtain ⟨steps, rfl⟩ := Nat.exists_eq_add_of_le' (Nat.le_trans (Nat.le_add_left 1 _) enough)
      have remaining : scanWithin steps later = some tokens :=
        inductionHypothesis others (by omega)
      rw [List.cons_append, scanWithin, noBlank, scanned]
      simp [remaining]

theorem scan_spelled {tokens : List Token} {chars : List Char} (spelled : Spelled tokens chars)
    (apart : Apart tokens) : scan chars = some tokens :=
  scanWithin_spelled spelled apart (Nat.le_refl _)

end Cubesat.Json
