import SchedProbe.Failure
import SchedProbe.Json.Decoding
import SchedProbe.Snapshot.Basic

/-! Snapshots as JSON text.

For each part `ofValue?` reads it off a JSON value and `toValue` writes it as one. A reader that is told
what stands `around` a value counts the arrays and objects there, because nesting is limited from the top
of the text on. -/

set_option autoImplicit false

namespace SchedProbe

open Json (Value)

def ByteOrder.name : ByteOrder → String
  | little => "little"
  | big => "big"

def ByteOrder.ofName? (name : String) : Option ByteOrder :=
  if name = "little" then some little else if name = "big" then some big else none

def ByteOrder.ofValue? (value : Value) : Option ByteOrder :=
  value.alternative?.bind ofName?

namespace Field

def rawOfMembers? (members : List (String × Value)) : Option Field := do
  let bytes ← (← members.lookup "bytes").list? Value.byte?
  let signed ← Json.fieldOr members "signed" false Value.bool?
  let order ← Json.fieldOr members "endian" .little ByteOrder.ofValue?
  return .raw bytes signed order

/-- Read a field that stands inside `around` arrays and objects. All of the value is examined, also
what is not used. -/
def ofValue? (around : Nat) (value : Value) : Option Field :=
  if value.plain (Json.maxDepth - around) then
    match value with
    | .number _ => value.int64?.map int
    | .bool b => some (bool b)
    | .object _ => (value.members? ["bytes", "signed", "endian"]).bind rawOfMembers?
    | _ => none
  else none

def toValue : Field → Value
  | int value => .ofInt value.toInt
  | bool value => .bool value
  | raw bytes signed order =>
    .ofMembers [("bytes", .array (bytes.map fun b => .ofInt b.toNat)), ("signed", .bool signed),
      ("endian", .ofText order.name)]

def ofText? (s : String) : Option Field :=
  (Value.ofText? s).bind (ofValue? 0)

end Field

namespace Fields

def ofValue? (around : Nat) (value : Value) : Option Fields :=
  value.textMap? (Field.ofValue? (around + 1))

def toValue (fields : Fields) : Value :=
  .ofMembers (fields.toList.map fun entry => (entry.1, entry.2.toValue))

def ofText? (s : String) : Option Fields :=
  (Value.ofText? s).bind (ofValue? 0)

def arrayOfValue? (around : Nat) (value : Value) : Option (Array Fields) :=
  (value.list? (ofValue? (around + 1))).map List.toArray

def arrayOfText? (s : String) : Option (Array Fields) :=
  (Value.ofText? s).bind (arrayOfValue? 0)

end Fields

namespace Snapshot

def ofValue? (value : Value) : Option Snapshot := do
  let fields ← value.record? ["scalars", "arrays"]
  let scalars ← Json.fieldOr fields "scalars" ∅ (Value.textMap? Value.int64?)
  -- The elements of an array stand inside the snapshot and its table of arrays.
  let arrays ← Json.fieldOr fields "arrays" ∅ (Value.textMap? (Fields.arrayOfValue? 2))
  return ⟨scalars, arrays⟩

def toValue (snapshot : Snapshot) : Value :=
  .ofMembers [
    ("scalars", .ofMembers (snapshot.scalars.toList.map fun entry =>
      (entry.1, .ofInt entry.2.toInt))),
    ("arrays", .ofMembers (snapshot.arrays.toList.map fun entry =>
      (entry.1, .array (entry.2.toList.map Fields.toValue))))]

/-- Read a snapshot; `complaint` is what the reader says of a text that holds none. -/
def ofText (complaint : String → String) (s : String) : Except InputError Snapshot :=
  match (Value.ofText? s).bind ofValue? with
  | some snapshot => .ok snapshot
  | none => .error (.malformed (complaint s))

def toText (snapshot : Snapshot) : String :=
  snapshot.toValue.text

end Snapshot

end SchedProbe
