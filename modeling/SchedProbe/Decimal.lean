import SchedProbe.Text.Numeral
import SchedProbe.Text.Column

/-! Rounding of exact quotients, and their text with a fixed number of decimal places. Every tie goes to
the even neighbour. -/

set_option autoImplicit false

namespace SchedProbe.Decimal

/-- The integer nearest to `num / den`; of two equally near ones the even one. -/
def roundDiv (num den : Nat) : Nat :=
  let down := num / den
  let rest := num % den
  if 2 * rest < den then down
  else if den < 2 * rest then down + 1
  else down + down % 2

/-- The number nearest to `n` that has at most `bits` significant binary digits. -/
def significant (bits n : Nat) : Nat :=
  if n < Nat.pow 2 bits then n
  else
    let unit := Nat.pow 2 (n.log2 + 1 - bits)
    roundDiv n unit * unit

def fixed (places num den : Nat) : String :=
  let scaled := roundDiv (num * Nat.pow 10 places) den
  Text.decimal (scaled / Nat.pow 10 places) ++ "." ++
    Text.alignRight '0' places (Text.decimal (scaled % Nat.pow 10 places))

theorem significant_of_lt {bits n : Nat} (h : n < Nat.pow 2 bits) :
    significant bits n = n :=
  if_pos h

theorem roundDiv_mul_le (num den : Nat) : roundDiv num den * den ≤ 2 * num := by
  have split : den * (num / den) + num % den = num := Nat.div_add_mod num den
  have up : (num / den + 1) * den = den * (num / den) + den := by
    rw [Nat.add_mul, Nat.one_mul, Nat.mul_comm]
  have down : num / den * den = den * (num / den) := Nat.mul_comm _ _
  unfold roundDiv
  dsimp only
  split
  · omega
  · split
    · omega
    · have parity : num / den % 2 ≤ 1 := by omega
      have rounded : (num / den + num / den % 2) * den ≤ (num / den + 1) * den :=
        Nat.mul_le_mul_right den (by omega)
      omega

theorem significant_le (bits n : Nat) : significant bits n ≤ 2 * n := by
  unfold significant
  split
  · omega
  · exact roundDiv_mul_le n _

end SchedProbe.Decimal
