import SchedProbe.Names
import SchedProbe.TaskTrace.Event

/-! The line that shows an event of the scheduler. -/

set_option autoImplicit false

namespace SchedProbe.TaskTrace

def slotColumn (slot : Nat) : String :=
  Text.alignRight ' ' 3 (Text.decimal slot)

def timeColumn (time : Ticks) : String :=
  Text.alignRight '0' 8 (Text.hex time.toNat)

/-- A run time three times over: hexadecimal, decimal, and in seconds. -/
def durationText (duration : Int) : String :=
  Text.signedHex duration ++ " (" ++ Text.signedDecimal duration ++ ", " ++
    Text.alignRight ' ' 5 (secondsText 3 duration) ++ ")"

def leadColumns (event : Event) : String :=
  slotColumn event.slot ++ "   " ++ timeColumn event.record.value ++ "  " ++
    Text.alignLeft 5 event.tag.label ++ "  "

/-- The line of an event. Posts are indented to a column of their own. -/
def Event.line (names : Names) (event : Event) : String :=
  let name := names.resolve event.record.id
  match event.tag with
  | .post =>
    slotColumn event.slot ++ Text.spaces 40 ++ timeColumn event.record.value ++ " " ++
      Text.alignLeft 5 event.tag.label ++ " " ++ name
  | .run => leadColumns event ++ name
  | .finish =>
    leadColumns event ++ Text.alignLeft 18 name ++ "  " ++ durationText (event.duration.getD 0)
  | .unknown _ => leadColumns event ++ name ++ " oops"

end SchedProbe.TaskTrace
