import Cubesat.Json.Token

/-!
The compact text of JSON values: members and items in order, nothing between
the tokens.
-/

namespace Cubesat.Json

mutual

def tokens : Json → List Token
  | .null => [.null]
  | .bool value => [.bool value]
  | .number value => [.number value]
  | .text value => [.text value]
  | .array items => .openArray :: (itemTokens items ++ [.closeArray])
  | .object members => .openObject :: (memberTokens members ++ [.closeObject])

def itemTokens : List Json → List Token
  | [] => []
  | [item] => item.tokens
  | item :: next :: rest => item.tokens ++ .comma :: itemTokens (next :: rest)

def memberTokens : List (Text × Json) → List Token
  | [] => []
  | [(key, value)] => .text key :: .colon :: value.tokens
  | (key, value) :: next :: rest =>
      .text key :: .colon :: (value.tokens ++ .comma :: memberTokens (next :: rest))

end

def render (value : Json) : String :=
  String.ofList (value.tokens.flatMap Token.render)

end Cubesat.Json
