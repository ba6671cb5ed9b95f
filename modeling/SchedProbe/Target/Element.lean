import Std.Data.ExtTreeMap
import SchedProbe.Target.Field

/-! One element of a captured array: named fields, and the typed ways to read them. -/

set_option autoImplicit false

namespace SchedProbe

abbrev Fields := Std.ExtTreeMap String Field

/-- Fields that hold plain numbers; of two with one name the later counts. -/
def Fields.ofNumbers (numbers : List (String × Int64)) : Fields :=
  numbers.foldl (fun fields entry => fields.insert entry.1 (.int entry.2)) ∅

structure Element where
  symbol : Symbol
  index : Nat
  fields : Fields

namespace Element

def get (element : Element) (name : String) : Except AccessError Int64 :=
  match element.fields[name]? with
  | some field => field.decode name
  | none => .error (.missingField element.symbol element.index name)

def getAs (element : Element) (kind : IntKind) (name : String) : Except AccessError Int := do
  narrow kind (elementName element.symbol element.index ++ "." ++ name) (← element.get name)

def getId (element : Element) (name : String) : Except AccessError UInt16 :=
  (element.getAs .u16 name).map fun n => UInt16.ofNat n.toNat

def getTicks (element : Element) (name : String) : Except AccessError UInt32 :=
  (element.getAs .u32 name).map fun n => UInt32.ofNat n.toNat

/-- A field as a flag: any number but zero is true. -/
def getFlag (element : Element) (name : String) : Except AccessError Bool :=
  (element.get name).map (· ≠ 0)

end Element

end SchedProbe
