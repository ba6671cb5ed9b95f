import SchedProbe.Decimal

/-! Time stamps of the target and their length in seconds. -/

set_option autoImplicit false

namespace SchedProbe

/-- A time stamp of the target: binary milliseconds in a 32-bit word. -/
abbrev Ticks := UInt32

def ticksPerSecond : Nat := 1024

/-- A span of ticks in seconds, with `places` decimals. The span is first rounded to 53 significant
binary digits, the precision in which seconds are computed; the division by a power of two is exact. -/
def secondsText (places : Nat) (span : Int) : String :=
  Text.signed (fun n => Decimal.fixed places (Decimal.significant 53 n) ticksPerSecond) span

end SchedProbe
