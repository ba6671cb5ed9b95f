import SchedProbe.Decimal
import SchedProbe.Text.Cut

/-! Numbers of a JSON text. An integer literal denotes an integer; every other literal a decimal number. -/

set_option autoImplicit false

namespace SchedProbe.Json

/-- A number: an integer, or `mantissa · 10 ^ exponent` if it is written with a fraction or an exponent,
or as minus zero. -/
inductive Number where
  | integer (value : Int)
  | real (mantissa exponent : Int)
  deriving DecidableEq, Repr

namespace Number

/-- The digits before the point: no zero in front of another digit. -/
def whole? (ds : List Char) : Option Nat :=
  if ds.head? = some '0' ∧ ds ≠ ['0'] then none else Text.natural? ds

def splitSign : List Char → Bool × List Char
  | '-' :: rest => (true, rest)
  | cs => (false, cs)

def withSign (negative : Bool) (n : Nat) : Int :=
  if negative then -n else n

/-- The digits after the point, as how many there are and what they denote. -/
def fraction? : Option (List Char) → Option (Nat × Nat)
  | none => some (0, 0)
  | some ds => (Text.natural? ds).map fun n => (ds.length, n)

def exponent? : Option (List Char) → Option Int
  | none => some 0
  | some ('+' :: ds) => (Text.natural? ds).map Int.ofNat
  | some cs =>
    let (negative, ds) := splitSign cs
    (Text.natural? ds).map (withSign negative)

def ofChars? (cs : List Char) : Option Number := do
  let (negative, body) := splitSign cs
  let (mantissa, exponent) := Text.cutAt (fun c => c == 'e' || c == 'E') body
  let (before, after) := Text.cutAt (· == '.') mantissa
  let whole ← whole? before
  let (places, part) ← fraction? after
  let power ← exponent? exponent
  if after.isNone && exponent.isNone && !(negative && whole == 0) then
    some (integer (withSign negative whole))
  else
    some (real (withSign negative (whole * Nat.pow 10 places + part)) (power - places))

def text : Number → String
  | integer value => Text.signedDecimal value
  | real mantissa exponent => Text.signedDecimal mantissa ++ "e" ++ Text.signedDecimal exponent

/-- The least magnitude that rounds to no finite double, one of 53 binary digits and exponent below 1024. -/
def overflow : Nat := Nat.pow 2 1024 - Nat.pow 2 970

def maxPower : Nat := 308

/-- A magnitude cut down to its leading digits that fit a 64-bit word. Each digit dropped from its end
raises the power of ten by one. -/
def leadingWord (magnitude : Nat) (power : Int) : Nat × Int :=
  if magnitude < UInt64.size then (magnitude, power) else leadingWord (magnitude / 10) (power + 1)
termination_by magnitude
decreasing_by
  rw [UInt64.size] at *
  omega

/-- Whether a magnitude times a power of ten is within the range of doubles when it is computed in doubles:
its leading word and the power are each rounded before they are multiplied. -/
def inRange (magnitude : Nat) (power : Int) : Bool :=
  let (word, power) := leadingWord magnitude power
  -- A product with a negative power is a quotient, and a word is far from the limit.
  word = 0 || power < 0 ||
    power ≤ maxPower &&
      Decimal.significant 53 word * Decimal.significant 53 (Nat.pow 10 power.toNat) < overflow

def finite : Number → Bool
  | integer value => inRange value.natAbs 0
  | real mantissa exponent => inRange mantissa.natAbs exponent

end Number

end SchedProbe.Json
