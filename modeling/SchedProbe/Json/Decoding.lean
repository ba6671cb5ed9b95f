import Std.Data.ExtTreeMap
import SchedProbe.IntKind
import SchedProbe.Json.Reader

/-! What typed data may be read from a JSON value: numbers and flags, names of alternatives, maps, and
records whose fields have defaults. A reader named for a type answers `none` on any value that is not of
this type. -/

set_option autoImplicit false

namespace SchedProbe.Json

/-- How many arrays and objects may stand around a value. -/
def maxDepth : Nat := 127

namespace Value

variable {α : Type}

mutual

/-- Whether a value is free of numbers that overflow, of halves of surrogate pairs, and of nesting
deeper than `levels`. -/
def plain (levels : Nat) : Value → Bool
  | null | bool _ => true
  | number n => n.finite
  | literal s => s.text?.isSome
  | array items => 0 < levels && plainItems (levels - 1) items
  | object members => 0 < levels && plainMembers (levels - 1) members

def plainItems (levels : Nat) : List Value → Bool
  | [] => true
  | item :: items => item.plain levels && plainItems levels items

def plainMembers (levels : Nat) : List (Literal × Value) → Bool
  | [] => true
  | (key, value) :: members =>
    key.text?.isSome && value.plain levels && plainMembers levels members

end

def intWithin? (least greatest : Int) : Value → Option Int
  | number (.integer n) => if least ≤ n ∧ n ≤ greatest then some n else none
  | _ => none

def int64? (value : Value) : Option Int64 :=
  (value.intWithin? IntKind.i64.least IntKind.i64.greatest).map Int64.ofInt

def byte? (value : Value) : Option UInt8 :=
  (value.intWithin? 0 255).map fun n => UInt8.ofNat n.toNat

def bool? : Value → Option Bool
  | bool b => some b
  | _ => none

def text? : Value → Option String
  | literal s => s.text?
  | _ => none

/-- The name of an alternative: as a text, or as the only key of an object that maps it to null. -/
def alternative? : Value → Option String
  | literal s => s.text?
  | object [(key, null)] => key.text?
  | _ => none

def list? (read : Value → Option α) : Value → Option (List α)
  | array items => items.mapM read
  | _ => none

/-- A map from texts; of members with one key the last counts, but all must be readable. -/
def textMap? (read : Value → Option α) : Value → Option (Std.ExtTreeMap String α)
  | object members =>
    members.foldlM (fun entries member => do
      let key ← member.1.text?
      let value ← read member.2
      return entries.insert key value) ∅
  | _ => none

/-- A 16-bit id written as a key: the plain decimal numeral, without escapes. -/
def idKey? (key : Literal) : Option UInt16 :=
  match Number.ofChars? key.written with
  | some (.integer n) => if IntKind.u16.Holds n then some (UInt16.ofNat n.toNat) else none
  | _ => none

def idMap? (read : Value → Option α) : Value → Option (Std.ExtTreeMap UInt16 α)
  | object members =>
    members.foldlM (fun entries member => do
      let key ← idKey? member.1
      let value ← read member.2
      return entries.insert key value) ∅
  | _ => none

/-- The members of an object by the texts of their keys; none if a key in `once` is repeated. -/
def members? (once : List String) : Value → Option (List (String × Value))
  | object members => do
    let named ← members.mapM fun member => member.1.text?.map (·, member.2)
    if once.all fun key => named.countP (·.1 == key) ≤ 1 then some named else none
  | _ => none

/-- The fields of a record with the given keys: an object that may hold other members too, or an array
of the fields in the order of the keys, of which the last ones may be missing. -/
def record? (keys : List String) : Value → Option (List (String × Value))
  | array items => if items.length ≤ keys.length then some (keys.zip items) else none
  | value => value.members? keys

end Value

def fieldOr {α : Type} (fields : List (String × Value)) (key : String) (default : α)
    (read : Value → Option α) : Option α :=
  match fields.lookup key with
  | some value => read value
  | none => some default

end SchedProbe.Json
