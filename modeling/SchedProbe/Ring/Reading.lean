import SchedProbe.Ring.Cursor
import SchedProbe.Target.Inspection

/-! Reading a ring of trace records off the target, oldest first. -/

set_option autoImplicit false

namespace SchedProbe

structure TraceRecord where
  id : UInt16
  tag : Int64
  value : UInt32
  deriving DecidableEq, Repr

def TraceRecord.ofElement (element : Element) : Except AccessError TraceRecord := do
  return { id := ← element.getId "num", tag := ← element.get "ttype", value := ← element.getTicks "val" }

namespace Ring

/-- Render the records in the given slots, handing a state from each to the next. The first record that
cannot be read ends the listing, which keeps the lines before it. -/
def renderSlots {σ : Type} (array : Symbol) (command : String) (total : Nat)
    (render : σ → Nat → TraceRecord → String × σ) :
    List UInt64 → σ → Array String → Inspection (List String)
  | [], _, lines => pure lines.toList
  | slot :: rest, state, lines => do
    match ← Inspection.element? array slot.toNat TraceRecord.ofElement with
    | .ok record =>
      let rendered := render state slot.toNat record
      renderSlots array command total render rest rendered.2 (lines.push rendered.1)
    | .error source => throw (.incomplete command lines.toList total source)

def renderRing {σ : Type} (next array : Symbol) (command : String)
    (render : σ → Nat → TraceRecord → String × σ) (start : σ) : Inspection (List String) := do
  -- Both are read once. An index that moves while the slots are read does not change their order.
  let length ← Inspection.length array
  let raw ← Inspection.scalar next
  let capacity := UInt64.ofNat length
  let cursor := Cursor.ofRaw capacity raw
  if Cursor.Misplaced capacity raw then
    Inspection.log .warn ("next-write index " ++ Text.signedDecimal raw.toInt ++
      " out of range for capacity " ++ Text.decimal length ++ ", starting at 0")
  Inspection.log .debug (command ++ ": " ++ Text.decimal length ++ " slots, next write " ++
    Text.decimal cursor.nextWrite.toNat ++ " (raw " ++ Text.signedDecimal raw.toInt ++ ")")
  renderSlots array command length render cursor.slots.toList start #[]

end Ring

end SchedProbe
