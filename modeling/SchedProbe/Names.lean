import Std.Data.ExtTreeMap
import SchedProbe.Text.Numeral

/-! Display names of tasks and timers. -/

set_option autoImplicit false

namespace SchedProbe

structure Names where
  labels : Std.ExtTreeMap UInt16 String
  deriving DecidableEq

namespace Names

def empty : Names := ⟨∅⟩

instance : Inhabited Names := ⟨empty⟩

def insert (names : Names) (id : UInt16) (label : String) : Names :=
  ⟨names.labels.insert id label⟩

/-- Label ids from a list, the last label of an id counting. -/
def ofList (entries : List (UInt16 × String)) : Names :=
  entries.foldl (fun names entry => names.insert entry.1 entry.2) empty

def isEmpty (names : Names) : Bool :=
  names.labels.isEmpty

/-- The display name of an id: its label and its number, or `t` and its number. -/
def resolve (names : Names) (id : UInt16) : String :=
  match names.labels[id]? with
  | some label => label ++ "/" ++ Text.decimal id.toNat
  | none => "t" ++ Text.decimal id.toNat

theorem labels_insert (names : Names) (id other : UInt16) (label : String) :
    (names.insert id label).labels[other]? =
      if id = other then some label else names.labels[other]? := by
  simp [insert, Std.ExtTreeMap.getElem?_insert]

end Names

end SchedProbe
