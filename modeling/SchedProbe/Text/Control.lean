import SchedProbe.Text.Column
import SchedProbe.Text.Numeral

/-! Control characters that act on a terminal, and their escapes. A log shows the escapes, so that a name
read off a target or a file cannot steer the terminal that shows the log. -/

set_option autoImplicit false

namespace SchedProbe.Text

/-- The single controls that act on a terminal: bell, backspace, form feed, escape, delete. -/
def terminalControls : List Nat := [0x07, 0x08, 0x0c, 0x1b, 0x7f]

/-- The way a character is shown: a control that acts on a terminal as an escape, any other as itself. The
controls from 0x80 on all count. -/
def disarmChar (c : Char) : String :=
  if c.toNat ∈ terminalControls then "\\x" ++ alignRight '0' 2 (hex c.toNat)
  else if 0x80 ≤ c.toNat ∧ c.toNat < 0xa0 then "\\u\x7b" ++ hex c.toNat ++ "\x7d"
  else c.toString

def disarm (s : String) : String :=
  String.join (s.toList.map disarmChar)

end SchedProbe.Text
