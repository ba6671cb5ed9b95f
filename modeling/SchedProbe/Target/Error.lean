import SchedProbe.IntKind
import SchedProbe.Text.Numeral

/-! Why a read of the target gave no usable value. -/

set_option autoImplicit false

namespace SchedProbe

abbrev Symbol := String

inductive AccessError where
  | unknownSymbol (symbol : Symbol)
  | notAnArray (symbol : Symbol)
  | indexOutOfRange (symbol : Symbol) (index length : Nat)
  | missingField (symbol : Symbol) (index : Nat) (field : String)
  | badWidth (field : String) (width : Nat)
  | valueOutOfRange (what : String) (value : Int64) (kind : IntKind)
  | countExceedsArray (count : Symbol) (value : Nat) (array : Symbol) (length : Nat)
  | unavailable (reason : String)
  deriving DecidableEq, Repr

def elementName (symbol : Symbol) (index : Nat) : String :=
  symbol ++ "[" ++ Text.decimal index ++ "]"

def AccessError.message : AccessError → String
  | unknownSymbol symbol => "unknown symbol '" ++ symbol ++ "'"
  | notAnArray symbol => "'" ++ symbol ++ "' is not an array"
  | indexOutOfRange symbol index length =>
    "index out of range: " ++ elementName symbol index ++ " (length " ++ Text.decimal length ++ ")"
  | missingField symbol index field =>
    "field '" ++ field ++ "' missing from " ++ elementName symbol index
  | badWidth field width =>
    "field '" ++ field ++ "' has unsupported width " ++ Text.decimal width ++ " bytes"
  | valueOutOfRange what value kind =>
    "value " ++ Text.signedDecimal value.toInt ++ " of '" ++ what ++ "' does not fit in " ++ kind.name
  | countExceedsArray count value array length =>
    "'" ++ count ++ "' claims " ++ Text.decimal value ++ " entries but '" ++ array ++ "' holds " ++
      Text.decimal length
  | unavailable reason => "target unavailable: " ++ reason

end SchedProbe
