import SchedProbe.Json.Token

/-! JSON values and their written form. An object keeps its members as written: in order, repeated keys
included. -/

set_option autoImplicit false

namespace SchedProbe.Json

inductive Value where
  | null
  | bool (value : Bool)
  | number (value : Number)
  | literal (value : Literal)
  | array (items : List Value)
  | object (members : List (Literal × Value))

namespace Value

mutual

def tokens : Value → List Token
  | null => [.null]
  | bool value => [.bool value]
  | number value => [.number value]
  | literal value => [.literal value]
  | array [] => [.openArray, .closeArray]
  | array (item :: items) => .openArray :: (item.tokens ++ itemTokens items)
  | object [] => [.openObject, .closeObject]
  | object ((key, value) :: members) =>
    .openObject :: .literal key :: .colon :: (value.tokens ++ memberTokens members)

/-- The tokens of the items that follow another one, and of the end of their array. -/
def itemTokens : List Value → List Token
  | [] => [.closeArray]
  | item :: items => .comma :: (item.tokens ++ itemTokens items)

def memberTokens : List (Literal × Value) → List Token
  | [] => [.closeObject]
  | (key, value) :: members =>
    .comma :: .literal key :: .colon :: (value.tokens ++ memberTokens members)

end

def text (value : Value) : String :=
  String.ofList (value.tokens.flatMap Token.chars)

def ofInt (n : Int) : Value :=
  .number (.integer n)

def ofText (s : String) : Value :=
  .literal (.ofText s)

def ofMembers (members : List (String × Value)) : Value :=
  .object (members.map fun member => (.ofText member.1, member.2))

end Value

end SchedProbe.Json
