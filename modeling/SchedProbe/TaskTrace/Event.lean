import SchedProbe.Ring.Reading
import SchedProbe.TaskTrace.Clock

/-! Events of the scheduler: a task posted, run or ended. -/

set_option autoImplicit false

namespace SchedProbe.TaskTrace

/-- The kind of an event; a tag word that is none of the three kinds is kept. -/
inductive Tag where
  | post
  | run
  | finish
  | unknown (word : Int64)
  deriving DecidableEq, Repr

def Tag.label : Tag → String
  | post => "POST"
  | run => "RUN"
  | finish => "END"
  | unknown word => Text.signedDecimal word.toInt

structure TagSet where
  post : Int64
  run : Int64
  finish : Int64
  deriving DecidableEq, Repr

/-- The kind of a tag word. Of kinds that share a word the first in the order of `TagSet` counts. -/
def TagSet.classify (tags : TagSet) (word : Int64) : Tag :=
  if word = tags.post then .post
  else if word = tags.run then .run
  else if word = tags.finish then .finish
  else .unknown word

structure Event where
  slot : Nat
  record : TraceRecord
  tag : Tag
  duration : Option Int
  deriving DecidableEq, Repr

/-- The event of a record, and the clock after it. -/
def TagSet.step (tags : TagSet) (clock : RunClock) (slot : Nat) (record : TraceRecord) :
    Event × RunClock :=
  let tag := tags.classify record.tag
  match tag with
  | .run => (⟨slot, record, tag, none⟩, clock.started record.id record.value)
  | .finish =>
    (⟨slot, record, tag, some (clock.duration record.id record.value)⟩, clock.clear record.id)
  | .post | .unknown _ => (⟨slot, record, tag, none⟩, clock)

def TagSet.eventsFrom (tags : TagSet) : RunClock → List (Nat × TraceRecord) → List Event
  | _, [] => []
  | clock, (slot, record) :: rest =>
    let stepped := tags.step clock slot record
    stepped.1 :: tags.eventsFrom stepped.2 rest

def TagSet.events (tags : TagSet) (timing : RunTiming) (records : List (Nat × TraceRecord)) :
    List Event :=
  tags.eventsFrom (.fresh timing) records

end SchedProbe.TaskTrace
