import Cubesat.Json.Printer
import Cubesat.Json.Reader
import Cubesat.Proofs.Json.Forms

/-!
The texts of a JSON value.

A text of a value spells its tokens in their order. The reader takes every such
text for the value, and the compact text is one of them.
-/

namespace Cubesat.Json

def IsWritten (value : Json) (text : String) : Prop :=
  Spelled value.tokens text.toList

theorem exists_tokens_eq_cons (value : Json) :
    ∃ first rest, value.tokens = first :: rest ∧ first ≠ .closeArray := by
  cases value <;> exact ⟨_, _, rfl, nofun⟩

theorem foldlM_cons_of_step {reading next : Reading} {token : Token}
    (step : reading.step? token = some next) (rest : List Token) :
    (token :: rest).foldlM Reading.step? reading = rest.foldlM Reading.step? next := by
  rw [List.foldlM_cons, step]
  rfl

theorem exists_itemTokens_eq_cons (item : Json) (items : List Json) :
    ∃ first rest, itemTokens (item :: items) = first :: rest ∧ first ≠ .closeArray := by
  obtain ⟨first, rest, tokens, opens⟩ := exists_tokens_eq_cons item
  cases items with
  | nil => exact ⟨first, rest, tokens, opens⟩
  | cons next others =>
      refine ⟨first, rest ++ .comma :: itemTokens (next :: others), ?_, opens⟩
      rw [itemTokens, tokens, List.cons_append]

theorem foldlM_firstItem (item : Json) (items : List Json) (holes : List Hole)
    (rest : List Token) :
    (itemTokens (item :: items) ++ rest).foldlM Reading.step? (.firstItem holes) =
      (itemTokens (item :: items) ++ rest).foldlM Reading.step? (.value (.item [] :: holes)) := by
  obtain ⟨first, others, tokens, opens⟩ := exists_itemTokens_eq_cons item items
  have step : Reading.step? (.firstItem holes) first =
      Reading.step? (.value (.item [] :: holes)) first := by
    cases first with
    | closeArray => exact absurd rfl opens
    | _ => rfl
  rw [tokens, List.cons_append, List.foldlM_cons, List.foldlM_cons, step]

theorem foldlM_firstKey (member : Text × Json) (members : List (Text × Json)) (holes : List Hole)
    (rest : List Token) :
    (memberTokens (member :: members) ++ rest).foldlM Reading.step? (.firstKey holes) =
      (memberTokens (member :: members) ++ rest).foldlM Reading.step? (.nextKey [] holes) := by
  cases members with
  | nil => rfl
  | cons next others => rfl

mutual

/-- The tokens of a value fill the innermost container that is open. -/
theorem foldlM_tokens (value : Json) (holes : List Hole) (rest : List Token) :
    (value.tokens ++ rest).foldlM Reading.step? (.value holes) =
      rest.foldlM Reading.step? (.fill value holes) := by
  match value with
  | .null => rfl
  | .bool _ => rfl
  | .number _ => rfl
  | .text _ => rfl
  | .array [] => rfl
  | .array (item :: items) =>
      rw [tokens, List.cons_append, List.append_assoc, foldlM_cons_of_step rfl, foldlM_firstItem]
      exact foldlM_itemTokens (item :: items) (List.cons_ne_nil item items) [] holes rest
  | .object [] => rfl
  | .object (member :: members) =>
      rw [tokens, List.cons_append, List.append_assoc, foldlM_cons_of_step rfl, foldlM_firstKey]
      exact foldlM_memberTokens (member :: members) (List.cons_ne_nil member members) [] holes rest

theorem foldlM_itemTokens (items : List Json) (occupied : items ≠ []) (before : List Json)
    (holes : List Hole) (rest : List Token) :
    (itemTokens items ++ .closeArray :: rest).foldlM Reading.step?
        (.value (.item before :: holes)) =
      rest.foldlM Reading.step? (.fill (.array (before.reverse ++ items)) holes) := by
  match items with
  | [] => exact absurd rfl occupied
  | [item] =>
      rw [itemTokens, foldlM_tokens item, Reading.fill, foldlM_cons_of_step rfl, List.reverse_cons]
  | item :: next :: others =>
      have later := foldlM_itemTokens (next :: others) (List.cons_ne_nil next others)
        (item :: before) holes rest
      rw [List.reverse_cons, List.append_assoc, List.singleton_append] at later
      rw [itemTokens, List.append_assoc, foldlM_tokens item, Reading.fill, List.cons_append,
        foldlM_cons_of_step rfl, later]

theorem foldlM_memberTokens (members : List (Text × Json)) (occupied : members ≠ [])
    (before : List (Text × Json)) (holes : List Hole) (rest : List Token) :
    (memberTokens members ++ .closeObject :: rest).foldlM Reading.step?
        (.nextKey before holes) =
      rest.foldlM Reading.step? (.fill (.object (before.reverse ++ members)) holes) := by
  match members with
  | [] => exact absurd rfl occupied
  | [(key, value)] =>
      rw [memberTokens, List.cons_append, foldlM_cons_of_step rfl, List.cons_append,
        foldlM_cons_of_step rfl, foldlM_tokens value, Reading.fill, foldlM_cons_of_step rfl,
        List.reverse_cons]
  | (key, value) :: next :: others =>
      have later := foldlM_memberTokens (next :: others) (List.cons_ne_nil next others)
        ((key, value) :: before) holes rest
      rw [List.reverse_cons, List.append_assoc, List.singleton_append] at later
      rw [memberTokens, List.cons_append, foldlM_cons_of_step rfl, List.cons_append,
        foldlM_cons_of_step rfl, List.append_assoc, foldlM_tokens value, Reading.fill,
        List.cons_append, foldlM_cons_of_step rfl, later]

end

theorem ofTokens?_tokens (value : Json) : ofTokens? value.tokens = some value := by
  have read := foldlM_tokens value [] []
  rw [List.append_nil] at read
  rw [ofTokens?, read]
  rfl

theorem apart_cons {token : Token} {tokens : List Token} (other : token.isNumber = false)
    (apart : Apart tokens) : Apart (token :: tokens) := by
  refine List.isChain_cons.mpr ⟨?_, apart⟩
  intro next _ number
  rw [other] at number
  cases number

mutual

theorem apart_tokens (value : Json) {rest : List Token} (apart : Apart rest)
    (other : ∀ token ∈ rest.head?, token.isNumber = false) : Apart (value.tokens ++ rest) := by
  match value with
  | .null => exact apart_cons rfl apart
  | .bool _ => exact apart_cons rfl apart
  | .number _ => exact List.isChain_cons.mpr ⟨fun next membership _ => other next membership, apart⟩
  | .text _ => exact apart_cons rfl apart
  | .array items =>
      rw [tokens, List.cons_append, List.append_assoc]
      exact apart_cons rfl (apart_itemTokens items (apart_cons rfl apart) (by rintro _ ⟨⟩; rfl))
  | .object members =>
      rw [tokens, List.cons_append, List.append_assoc]
      exact apart_cons rfl (apart_memberTokens members (apart_cons rfl apart) (by rintro _ ⟨⟩; rfl))

theorem apart_itemTokens (items : List Json) {rest : List Token} (apart : Apart rest)
    (other : ∀ token ∈ rest.head?, token.isNumber = false) :
    Apart (itemTokens items ++ rest) := by
  match items with
  | [] => exact apart
  | [item] => exact apart_tokens item apart other
  | item :: next :: others =>
      have later := apart_itemTokens (next :: others) apart other
      rw [itemTokens, List.append_assoc]
      exact apart_tokens item (apart_cons rfl later) (by rintro _ ⟨⟩; rfl)

theorem apart_memberTokens (members : List (Text × Json)) {rest : List Token}
    (apart : Apart rest) (other : ∀ token ∈ rest.head?, token.isNumber = false) :
    Apart (memberTokens members ++ rest) := by
  match members with
  | [] => exact apart
  | [(key, value)] => exact apart_cons rfl (apart_cons rfl (apart_tokens value apart other))
  | (key, value) :: next :: others =>
      have later := apart_memberTokens (next :: others) apart other
      have comma : Apart (.comma :: (memberTokens (next :: others) ++ rest)) := apart_cons rfl later
      have separated := apart_tokens value comma (by rintro _ ⟨⟩; rfl)
      rw [memberTokens, List.cons_append, List.cons_append, List.append_assoc]
      exact apart_cons rfl (apart_cons rfl separated)

end

theorem parse?_of_isWritten {value : Json} {text : String} (written : value.IsWritten text) :
    parse? text = some value := by
  have apart : Apart (value.tokens ++ []) := apart_tokens value .nil (by rintro _ ⟨⟩)
  rw [List.append_nil] at apart
  rw [parse?, scan_spelled written apart]
  exact ofTokens?_tokens value

theorem form_escapedCode {code : Nat} (small : code < 65536) :
    (TextUnit.ofCode code).Form (escapedCode code) := by
  have form := TextUnit.Form.code (Hex.value?_digit (Nat.mod_lt (code / 4096) (by decide)))
    (Hex.value?_digit (Nat.mod_lt (code / 256) (by decide)))
    (Hex.value?_digit (Nat.mod_lt (code / 16) (by decide)))
    (Hex.value?_digit (Nat.mod_lt code (by decide)))
  have whole : ((code / 4096 % 16 * 16 + code / 256 % 16) * 16 + code / 16 % 16) * 16 +
      code % 16 = code := by omega
  rw [whole] at form
  exact form

theorem form_render_unit (unit : TextUnit) : unit.Form unit.render := by
  unfold TextUnit.render
  split
  case h_8 c quote backslash _ _ _ _ _ =>
    split
    case isTrue control =>
      have form := @form_escapedCode c.toNat (by omega)
      rw [TextUnit.ofCode, dif_neg (by omega), Char.ofNat_toNat] at form
      exact form
    case isFalse printable =>
      exact .plain (Nat.not_lt.mp printable) quote backslash
  case h_9 offset =>
    have form := @form_escapedCode (55296 + offset.val) (by omega)
    rw [TextUnit.ofCode, dif_pos (by omega)] at form
    simpa using form
  all_goals exact .letter (by simp [letterEscapes])

theorem form_render_text (text : Text) :
    Text.Form text (text.flatMap TextUnit.render ++ ['"']) := by
  induction text with
  | nil => exact .closed
  | cons unit rest inductionHypothesis =>
      rw [List.flatMap_cons, List.append_assoc]
      exact .unit (form_render_unit unit) inductionHypothesis

theorem plain_digits (number : Nat) : Plain (Decimal.digits number) := by
  rcases Nat.eq_zero_or_pos number with rfl | positive
  · exact ⟨0, [], rfl, fun _ => rfl⟩
  · obtain ⟨first, rest, digits, nonzero⟩ :=
      Decimal.exists_digitsWithin_eq_cons positive (Nat.lt_succ_self number)
    exact ⟨first, rest, digits, fun leading => absurd (Fin.ext leading) nonzero⟩

theorem Plain.ne_nil {digits : List (Fin 10)} (plain : Plain digits) : digits ≠ [] := by
  obtain ⟨first, rest, rfl, -⟩ := plain
  exact List.cons_ne_nil first rest

theorem form_render_exponent (exponent : Option Int) :
    ExponentForm exponent (renderExponent exponent) := by
  cases exponent with
  | none => exact .absent
  | some exponent =>
      have signed : (if exponent < 0 then ['-'] else [], decide (exponent < 0)) ∈
          [([], false), (['+'], false), (['-'], true)] := by
        split <;> simp_all
      have form := ExponentForm.present (List.mem_cons_self : 'e' ∈ ['e', 'E']) signed
        (plain_digits exponent.natAbs).ne_nil
      have size : (if decide (exponent < 0) then -(exponent.natAbs : Int) else exponent.natAbs) =
          exponent := by
        split
        case isTrue below =>
          rw [decide_eq_true_eq] at below
          omega
        case isFalse above =>
          rw [decide_eq_true_eq] at above
          omega
      rw [Decimal.value_digits, size] at form
      exact form

theorem form_render_number (number : Number) : (Token.number number).Form number.render := by
  obtain ⟨negative, whole, fraction, exponent⟩ := number
  have point : (if fraction.isEmpty then [] else '.' :: fraction.map Decimal.charOfDigit) =
      fractionForm fraction := by
    cases fraction <;> rfl
  have form : UnsignedForm negative _ _ := .intro fraction (plain_digits whole)
    (form_render_exponent exponent)
  rw [Decimal.value_digits] at form
  unfold Number.render
  dsimp only
  rw [point, List.append_assoc, List.append_assoc]
  cases negative with
  | false => exact .natural form
  | true => exact .negative form

theorem form_render (token : Token) : token.Form token.render := by
  cases token with
  | openArray => exact .openArray
  | closeArray => exact .closeArray
  | openObject => exact .openObject
  | closeObject => exact .closeObject
  | comma => exact .comma
  | colon => exact .colon
  | null => exact .null
  | bool value => cases value with
    | false => exact .false
    | true => exact .true
  | number value => exact form_render_number value
  | text value => exact .text (form_render_text value)

theorem spelled_render (tokens : List Token) : Spelled tokens (tokens.flatMap Token.render) := by
  induction tokens with
  | nil => exact .done
  | cons token rest inductionHypothesis =>
      rw [List.flatMap_cons]
      exact .token (form_render token) inductionHypothesis

theorem isWritten_render (value : Json) : value.IsWritten value.render := by
  unfold IsWritten render
  rw [String.toList_ofList]
  exact spelled_render value.tokens

end Cubesat.Json
