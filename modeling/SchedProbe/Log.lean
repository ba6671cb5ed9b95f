import SchedProbe.Text.Control

/-! Log entries and their levels. -/

set_option autoImplicit false

namespace SchedProbe

inductive Level where
  | error | warn | info | debug | trace
  deriving DecidableEq, Repr

/-- Greater ranks are less urgent. -/
def Level.rank : Level → Nat
  | error => 0 | warn => 1 | info => 2 | debug => 3 | trace => 4

structure Note where
  level : Level
  text : String
  deriving DecidableEq, Repr

def Note.shown (note : Note) : Note :=
  { note with text := Text.disarm note.text }

end SchedProbe
