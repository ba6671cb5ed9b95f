/-! Numerals: decimal and hexadecimal digits, the signed forms built on them,
and the reading of decimal digits. -/

set_option autoImplicit false

namespace SchedProbe.Text

def decimal (n : Nat) : String :=
  String.ofList (Nat.toDigits 10 n)

def hex (n : Nat) : String :=
  String.ofList (Nat.toDigits 16 n)

def signed (magnitude : Nat → String) (z : Int) : String :=
  if z < 0 then "-" ++ magnitude z.natAbs else magnitude z.natAbs

def signedDecimal (z : Int) : String :=
  signed decimal z

/-- The hexadecimal numeral of an integer: sign, `0x`, digits of the magnitude. -/
def signedHex (z : Int) : String :=
  signed (fun n => "0x" ++ hex n) z

/-- The number that decimal digits denote, leading zeros allowed; none if a character is no digit or
there is no character. -/
def natural? (cs : List Char) : Option Nat :=
  if cs ≠ [] ∧ cs.all Char.isDigit then some (Nat.ofDigitChars 10 cs 0) else none

theorem natural?_toDigits (n : Nat) : natural? (Nat.toDigits 10 n) = some n := by
  have digits : (Nat.toDigits 10 n).all Char.isDigit = true :=
    List.all_eq_true.2 fun _ h => Nat.isDigit_of_mem_toDigits (by decide) (by decide) h
  rw [natural?, if_pos ⟨Nat.toDigits_ne_nil, digits⟩,
    Nat.ofDigitChars_toDigits (by decide) (by decide)]

theorem decimal_inj {m n : Nat} (h : decimal m = decimal n) : m = n := by
  have same : Nat.toDigits 10 m = Nat.toDigits 10 n := String.ofList_injective h
  have read := natural?_toDigits m
  rw [same, natural?_toDigits] at read
  exact (Option.some.inj read).symm

end SchedProbe.Text
