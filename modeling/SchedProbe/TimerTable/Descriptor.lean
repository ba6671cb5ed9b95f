import SchedProbe.Names
import SchedProbe.Target.Element
import SchedProbe.Text.Column
import SchedProbe.Ticks

/-! The table of virtual timers. -/

set_option autoImplicit false

namespace SchedProbe.TimerTable

/-- The state of one timer: when it was started, its period, the longest its handler took in
microseconds, and its flags. -/
structure Descriptor where
  t0 : Ticks
  dt : Ticks
  firedMax : UInt32
  oneshot : Bool
  running : Bool
  deriving DecidableEq, Repr

def Descriptor.ofElement (element : Element) : Except AccessError Descriptor := do
  return {
    t0 := ← element.getTicks "t0"
    dt := ← element.getTicks "dt"
    firedMax := ← element.getTicks "fired_max_us"
    oneshot := ← element.getFlag "isoneshot"
    running := ← element.getFlag "isrunning" }

def maxTimers : Nat := UInt16.size

def heading : String :=
  "   t  state       t0        dt       max"

def wordColumn (word : UInt32) : String :=
  Text.alignRight ' ' 8 (Text.hex word.toNat)

/-- The row of one timer; its flags are in upper case when set. -/
def row (names : Names) (id : UInt16) (timer : Descriptor) : String :=
  "  " ++ Text.alignRight ' ' 2 (Text.decimal id.toNat) ++ "    " ++
    (if timer.oneshot then "O" else "o") ++ (if timer.running then "R" else "r") ++
    "  " ++ wordColumn timer.t0 ++ "  " ++ wordColumn timer.dt ++ "  " ++ wordColumn timer.firedMax ++
    "  " ++ names.resolve id

/-- The table: its heading, and a row for every timer that has an id. -/
def lines (names : Names) (timers : List Descriptor) : List String :=
  heading :: (timers.take maxTimers).zipIdx.map fun entry =>
    row names (UInt16.ofNat entry.2) entry.1

end SchedProbe.TimerTable
