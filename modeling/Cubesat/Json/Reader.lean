import Cubesat.Json.Token

/-!
Reading JSON text.

The reader walks over the tokens with a stack of the containers that are still
open, so that no nesting is too deep for it.
-/

namespace Cubesat.Json

/-- A container that waits for the value now being read; what came before is in reverse. -/
inductive Hole where
  | item (before : List Json)
  | field (before : List (Text × Json)) (key : Text)

/-- What the reader expects next; the open containers are listed innermost first. -/
inductive Reading where
  | value (holes : List Hole)
  | firstItem (holes : List Hole)
  | firstKey (holes : List Hole)
  | nextKey (before : List (Text × Json)) (holes : List Hole)
  | colon (before : List (Text × Json)) (key : Text) (holes : List Hole)
  | afterItem (items : List Json) (holes : List Hole)
  | afterField (members : List (Text × Json)) (holes : List Hole)
  | finished (value : Json)

namespace Reading

/-- The innermost open container takes a value that has been read. -/
def fill (read : Json) : List Hole → Reading
  | [] => .finished read
  | .item before :: holes => .afterItem (read :: before) holes
  | .field before key :: holes => .afterField ((key, read) :: before) holes

def begin? (holes : List Hole) : Token → Option Reading
  | .openArray => some (.firstItem holes)
  | .openObject => some (.firstKey holes)
  | .null => some (fill .null holes)
  | .bool b => some (fill (.bool b) holes)
  | .number n => some (fill (.number n) holes)
  | .text units => some (fill (.text units) holes)
  | _ => none

def step? : Reading → Token → Option Reading
  | .value holes, token => begin? holes token
  | .firstItem holes, .closeArray => some (fill (.array []) holes)
  | .firstItem holes, token => begin? (.item [] :: holes) token
  | .firstKey holes, .closeObject => some (fill (.object []) holes)
  | .firstKey holes, .text key => some (.colon [] key holes)
  | .nextKey before holes, .text key => some (.colon before key holes)
  | .colon before key holes, .colon => some (.value (.field before key :: holes))
  | .afterItem items holes, .comma => some (.value (.item items :: holes))
  | .afterItem items holes, .closeArray => some (fill (.array items.reverse) holes)
  | .afterField members holes, .comma => some (.nextKey members holes)
  | .afterField members holes, .closeObject => some (fill (.object members.reverse) holes)
  | _, _ => none

end Reading

def ofTokens? (tokens : List Token) : Option Json :=
  (tokens.foldlM Reading.step? (.value [])).bind fun
    | .finished value => some value
    | _ => none

def parse? (text : String) : Option Json :=
  (scan text.toList).bind ofTokens?

end Cubesat.Json
