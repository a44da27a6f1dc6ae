import Cubesat.Decimal
import Cubesat.Json.Value
import Cubesat.Text.Hex

/-!
The tokens of JSON text, their written form, and the scanner that takes a text
apart into tokens.
-/

namespace Cubesat.Json

inductive Token where
  | openArray
  | closeArray
  | openObject
  | closeObject
  | comma
  | colon
  | null
  | bool (value : Bool)
  | number (value : Number)
  | text (value : Text)
  deriving DecidableEq

def escapedCode (code : Nat) : List Char :=
  ['\\', 'u', Hex.digit (code / 4096 % 16), Hex.digit (code / 256 % 16),
    Hex.digit (code / 16 % 16), Hex.digit (code % 16)]

def TextUnit.ofCode (code : Nat) : TextUnit :=
  if surrogate : 55296 ≤ code ∧ code < 57344 then
    .surrogate ⟨code - 55296, by omega⟩
  else
    .char (Char.ofNat code)

def TextUnit.ofHex? (a b c d : Char) : Option TextUnit := do
  let a ← Hex.value? a
  let b ← Hex.value? b
  let c ← Hex.value? c
  let d ← Hex.value? d
  return TextUnit.ofCode (((a * 16 + b) * 16 + c) * 16 + d)

/--
The written form of a unit within quotes. Quote, backslash and control
characters are escaped, by a letter where there is one.
-/
def TextUnit.render : TextUnit → List Char
  | .char '"' => ['\\', '"']
  | .char '\\' => ['\\', '\\']
  | .char '\x08' => ['\\', 'b']
  | .char '\t' => ['\\', 't']
  | .char '\n' => ['\\', 'n']
  | .char '\x0c' => ['\\', 'f']
  | .char '\r' => ['\\', 'r']
  | .char c => if c.toNat < 32 then escapedCode c.toNat else [c]
  | .surrogate offset => escapedCode (55296 + offset.val)

def Text.render (text : Text) : List Char :=
  '"' :: (text.flatMap TextUnit.render ++ ['"'])

def renderExponent : Option Int → List Char
  | none => []
  | some exponent =>
      'e' :: ((if exponent < 0 then ['-'] else []) ++ Decimal.render exponent.natAbs)

def Number.render (number : Number) : List Char :=
  (if number.negative then ['-'] else []) ++ Decimal.render number.whole ++
    (if number.fraction.isEmpty then [] else '.' :: number.fraction.map Decimal.charOfDigit) ++
    renderExponent number.exponent

def Token.render : Token → List Char
  | .openArray => ['[']
  | .closeArray => [']']
  | .openObject => ['{']
  | .closeObject => ['}']
  | .comma => [',']
  | .colon => [':']
  | .null => ['n', 'u', 'l', 'l']
  | .bool true => ['t', 'r', 'u', 'e']
  | .bool false => ['f', 'a', 'l', 's', 'e']
  | .number value => value.render
  | .text value => value.render

/-- Reads a string up to its closing quote; the opening one has been read. -/
def scanText : List Char → Option (Text × List Char)
  | [] => none
  | '"' :: rest => some ([], rest)
  | '\\' :: 'u' :: a :: b :: c :: d :: rest => do
      let first ← TextUnit.ofHex? a b c d
      let (units, rest) ← scanText rest
      return (first :: units, rest)
  | '\\' :: letter :: rest => do
      let c ← match letter with
        | '"' => some '"'
        | '\\' => some '\\'
        | '/' => some '/'
        | 'b' => some '\x08'
        | 'f' => some '\x0c'
        | 'n' => some '\n'
        | 'r' => some '\r'
        | 't' => some '\t'
        | _ => none
      let (units, rest) ← scanText rest
      return (.char c :: units, rest)
  | c :: rest =>
      if c.toNat < 32 ∨ c = '\\' then
        none
      else do
        let (units, rest) ← scanText rest
        return (.char c :: units, rest)

/-- Reads the digits before the decimal point: one zero, or digits that begin with another one. -/
def scanWhole : List Char → Option (Nat × List Char)
  | '0' :: rest => some (0, rest)
  | chars =>
      match Decimal.spanDigits chars with
      | ([], _) => none
      | (digits, rest) => some (Decimal.value digits, rest)

def scanFraction : List Char → Option (List (Fin 10) × List Char)
  | '.' :: rest =>
      match Decimal.spanDigits rest with
      | ([], _) => none
      | (digits, rest) => some (digits, rest)
  | chars => some ([], chars)

def scanExponentDigits (chars : List Char) : Option (Int × List Char) :=
  let (negative, chars) :=
    match chars with
    | '-' :: rest => (true, rest)
    | '+' :: rest => (false, rest)
    | _ => (false, chars)
  match Decimal.spanDigits chars with
  | ([], _) => none
  | (digits, rest) =>
      let size : Int := (Decimal.value digits : Nat)
      some (if negative then -size else size, rest)

def scanExponent (chars : List Char) : Option (Option Int × List Char) :=
  match chars with
  | 'e' :: rest => (scanExponentDigits rest).map fun (exponent, rest) => (some exponent, rest)
  | 'E' :: rest => (scanExponentDigits rest).map fun (exponent, rest) => (some exponent, rest)
  | _ => some (none, chars)

def scanUnsigned (negative : Bool) (chars : List Char) : Option (Number × List Char) := do
  let (whole, chars) ← scanWhole chars
  let (fraction, chars) ← scanFraction chars
  let (exponent, chars) ← scanExponent chars
  return ({ negative, whole, fraction, exponent }, chars)

def scanToken (first : Char) (rest : List Char) : Option (Token × List Char) :=
  match first, rest with
  | '[', _ => some (.openArray, rest)
  | ']', _ => some (.closeArray, rest)
  | '{', _ => some (.openObject, rest)
  | '}', _ => some (.closeObject, rest)
  | ',', _ => some (.comma, rest)
  | ':', _ => some (.colon, rest)
  | 'n', 'u' :: 'l' :: 'l' :: rest => some (.null, rest)
  | 't', 'r' :: 'u' :: 'e' :: rest => some (.bool true, rest)
  | 'f', 'a' :: 'l' :: 's' :: 'e' :: rest => some (.bool false, rest)
  | '"', _ => (scanText rest).map fun (units, rest) => (.text units, rest)
  | '-', _ => (scanUnsigned true rest).map fun (value, rest) => (.number value, rest)
  | _, _ => (scanUnsigned false (first :: rest)).map fun (value, rest) => (.number value, rest)

def isBlank (c : Char) : Bool :=
  c == ' ' || c == '\t' || c == '\n' || c == '\r'

/-- The tokens of a text, of which at most `steps` characters and tokens are read. -/
def scanWithin : (steps : Nat) → List Char → Option (List Token)
  | _, [] => some []
  | 0, _ :: _ => none
  | steps + 1, c :: rest =>
      if isBlank c then
        scanWithin steps rest
      else
        (scanToken c rest).bind fun (token, rest) => (scanWithin steps rest).map (token :: ·)

/-- The tokens of a text; every token takes at least one character. -/
def scan (chars : List Char) : Option (List Token) :=
  scanWithin chars.length chars

end Cubesat.Json
