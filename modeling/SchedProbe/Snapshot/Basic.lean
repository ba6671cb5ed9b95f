import SchedProbe.Target.Probe

/-! Snapshots: a capture of the target's memory, with scalars and arrays under their symbols. -/

set_option autoImplicit false

namespace SchedProbe

/-- A captured memory. A symbol may name a scalar, an array, or both. -/
structure Snapshot where
  scalars : Std.ExtTreeMap Symbol Int64
  arrays : Std.ExtTreeMap Symbol (Array Fields)
  deriving DecidableEq

namespace Snapshot

def empty : Snapshot := ⟨∅, ∅⟩

instance : Inhabited Snapshot := ⟨empty⟩

def withScalar (snapshot : Snapshot) (symbol : Symbol) (value : Int64) : Snapshot :=
  { snapshot with scalars := snapshot.scalars.insert symbol value }

def withArray (snapshot : Snapshot) (symbol : Symbol) (elements : Array Fields) : Snapshot :=
  { snapshot with arrays := snapshot.arrays.insert symbol elements }

/-- Set an array of plain numbers, each in the field `value` of its element. -/
def withValues (snapshot : Snapshot) (symbol : Symbol) (values : List Int64) : Snapshot :=
  snapshot.withArray symbol (values.map fun value => Fields.ofNumbers [("value", value)]).toArray

def setField? (snapshot : Snapshot) (symbol : Symbol) (index : Nat) (name : String) (value : Int64) :
    Option Snapshot := do
  let elements ← snapshot.arrays[symbol]?
  let fields ← elements[index]?
  return snapshot.withArray symbol (elements.setIfInBounds index (fields.insert name (.int value)))

def array (snapshot : Snapshot) (symbol : Symbol) : Except AccessError (Array Fields) :=
  match snapshot.arrays[symbol]? with
  | some elements => .ok elements
  | none =>
    if symbol ∈ snapshot.scalars then .error (.notAnArray symbol) else .error (.unknownSymbol symbol)

def scalar (snapshot : Snapshot) (symbol : Symbol) : Except AccessError Int64 :=
  match snapshot.scalars[symbol]? with
  | some value => .ok value
  | none => .error (.unknownSymbol symbol)

def length (snapshot : Snapshot) (symbol : Symbol) : Except AccessError Nat :=
  (snapshot.array symbol).map (·.size)

def element (snapshot : Snapshot) (symbol : Symbol) (index : Nat) : Except AccessError Element := do
  let elements ← snapshot.array symbol
  match elements[index]? with
  | some fields => return ⟨symbol, index, fields⟩
  | none => throw (.indexOutOfRange symbol index elements.size)

def scalarAs (snapshot : Snapshot) (kind : IntKind) (symbol : Symbol) : Except AccessError Int := do
  narrow kind symbol (← snapshot.scalar symbol)

def reply (snapshot : Snapshot) : (query : Query) → query.Reply
  | .scalar symbol => snapshot.scalar symbol
  | .element symbol index => snapshot.element symbol index
  | .length symbol => snapshot.length symbol

def target : Target Snapshot :=
  fun query snapshot => (snapshot.reply query, snapshot)

end Snapshot

end SchedProbe
