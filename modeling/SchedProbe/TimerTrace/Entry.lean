import SchedProbe.Names
import SchedProbe.Ring.Reading
import SchedProbe.Ticks

/-! Entries of the virtual timer trace and the lines that show them. -/

set_option autoImplicit false

namespace SchedProbe.TimerTrace

/-- What happened to a timer; a tag word that is none of the six kinds is kept. -/
inductive Tag where
  | startTicks
  | startMicros
  | stopped
  | fired
  | finish
  | delta
  | unknown (word : Int64)
  deriving DecidableEq, Repr

structure TagSet where
  startTicks : Int64
  startMicros : Int64
  stopped : Int64
  fired : Int64
  finish : Int64
  delta : Int64
  deriving DecidableEq, Repr

/-- The kind of a tag word. Of kinds that share a word the first in the order of `TagSet` counts. -/
def TagSet.classify (tags : TagSet) (word : Int64) : Tag :=
  if word = tags.startTicks then .startTicks
  else if word = tags.startMicros then .startMicros
  else if word = tags.stopped then .stopped
  else if word = tags.fired then .fired
  else if word = tags.finish then .finish
  else if word = tags.delta then .delta
  else .unknown word

/-- The line of an entry. What starts or stops a timer has its value in the left column, what a running
timer does has it in the right one. -/
def TagSet.line (tags : TagSet) (names : Names) (record : TraceRecord) : String :=
  let id := Text.alignRight ' ' 4 (Text.decimal record.id.toNat)
  let value := Text.alignRight ' ' 8 (Text.hex record.value.toNat)
  let name := names.resolve record.id
  match tags.classify record.tag with
  | .startTicks => id ++ "  start " ++ value ++ Text.spaces 23 ++ name
  | .startMicros => id ++ "  ustart" ++ value ++ Text.spaces 23 ++ name
  | .stopped => id ++ "  stop  " ++ value ++ Text.spaces 23 ++ name
  | .fired => id ++ Text.spaces 20 ++ "fired    " ++ value ++ "  " ++ name
  | .finish => id ++ Text.spaces 20 ++ "end      " ++ value ++ "  " ++ name
  | .delta => id ++ Text.spaces 20 ++ "delta    " ++ value ++ "  " ++ name
  | .unknown word =>
    id ++ "  oops  " ++ value ++ "  tag " ++ Text.signedDecimal word.toInt ++ "  " ++ name

end SchedProbe.TimerTrace
