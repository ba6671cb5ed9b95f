import Mathlib.Algebra.Group.Nat.Defs
import SchedProbe.Proofs.Text.Columns

/-! Numerals read back. A reader accepts nothing but the form in which a number is shown: sign, mark of the base and
digits, or sign, digits, point and as many digits as there are decimal places. -/

set_option autoImplicit false

namespace SchedProbe.Text

/-- The number that digits of a base denote, leading zeros allowed; none if a character is no digit of the base
or there is no character. -/
def numeral? (base : Nat) (cs : List Char) : Option Nat :=
  if cs ≠ [] ∧ cs.all ((List.range base).map Nat.digitChar).contains then some (numeralValue base cs) else none

structure Denotes (digits : List Char) (n : Nat) : Prop where
  nonempty : digits ≠ []
  decimal : ∀ c ∈ digits, c.isDigit = true
  value : numeralValue 10 digits = n

theorem ofDigitChars_eq_foldl {digits : List Char} (decimal : ∀ c ∈ digits, c.isDigit = true) (n : Nat) :
    Nat.ofDigitChars 10 digits n = digits.foldl (fun n c => 10 * n + digitValue c) n := by
  induction digits generalizing n with
  | nil => rfl
  | cons c rest ih =>
    rw [Nat.ofDigitChars_cons, ih fun d member => decimal d (List.mem_cons_of_mem c member), List.foldl_cons,
      digitValue, if_pos (decimal c List.mem_cons_self)]

theorem natural?_eq_some_iff {cs : List Char} {n : Nat} : natural? cs = some n ↔ Denotes cs n := by
  unfold natural?
  split
  next numeral =>
    have decimal := List.all_eq_true.1 numeral.2
    rw [ofDigitChars_eq_foldl decimal, Option.some.injEq]
    exact ⟨fun value => ⟨numeral.1, decimal, value⟩, Denotes.value⟩
  next other =>
    refine iff_of_false (Option.some_ne_none n).symm fun denotes => other ⟨denotes.nonempty, ?_⟩
    exact List.all_eq_true.2 denotes.decimal

def hexadecimal? (cs : List Char) : Option Int :=
  match Json.Number.splitSign cs with
  | (negative, '0' :: 'x' :: digits) => (numeral? 16 digits).map (Json.Number.withSign negative)
  | _ => none

/-- The number that a text with exactly `places` decimal places denotes, in units of the last one. The text may
stand behind spaces. -/
def fixed? (places : Nat) (cs : List Char) : Option Int :=
  let (negative, body) := Json.Number.splitSign (cs.dropWhile (· == ' '))
  match cutAt (· == '.') body with
  | (whole, some part) =>
    if part.length = places then do
      let whole ← Json.Number.whole? whole
      let part ← numeral? 10 part
      return Json.Number.withSign negative (whole * 10 ^ places + part)
    else none
  | (_, none) => none

theorem fixed?_space (places : Nat) (cs : List Char) : fixed? places (' ' :: cs) = fixed? places cs :=
  rfl

theorem numeral?_column {base : Nat} (low : 1 < base) (high : base ≤ 16) (width n : Nat) :
    numeral? base (alignRight '0' width (String.ofList (Nat.toDigits base n))).toList = some n := by
  have digits : (alignRight '0' width (String.ofList (Nat.toDigits base n))).toList.all
      ((List.range base).map Nat.digitChar).contains := by
    refine List.all_eq_true.2 fun c member => List.contains_iff_mem.2 (List.mem_map.2 ?_)
    rw [toList_alignRight, String.toList_ofList] at member
    obtain zero | digit := List.mem_append.1 member
    · exact ⟨0, List.mem_range.2 (by omega), (List.eq_of_mem_replicate zero).symm⟩
    · obtain ⟨d, small, same⟩ := digit_of_mem_toDigits low digit
      exact ⟨d, List.mem_range.2 small, same.symm⟩
  rw [numeral?, if_pos ⟨(word_column low high width n).nonempty, digits⟩, numeralValue_column low high]

theorem numeral?_toDigits {base : Nat} (low : 1 < base) (high : base ≤ 16) (n : Nat) :
    numeral? base (Nat.toDigits base n) = some n := by
  have column := numeral?_column low high 0 n
  rwa [toList_alignRight, Nat.zero_sub, String.toList_ofList] at column

theorem not_mem_marked {c : Char} (mark : c ∉ "0x".toList) (other : ∀ d < 16, c ≠ Nat.digitChar d) (n : Nat) :
    c ∉ ("0x" ++ hex n).toList := by
  rw [String.toList_append, toList_hex]
  exact fun member => (List.mem_append.1 member).elim mark (not_mem_toDigits (by decide) (by decide) other n)

theorem hexadecimal?_signedHex (z : Int) : hexadecimal? (signedHex z).toList = some z := by
  have marked : ("0x" ++ hex z.natAbs).toList = '0' :: 'x' :: Nat.toDigits 16 z.natAbs := by
    rw [String.toList_append, toList_hex]
    rfl
  have read : numeral? 16 (Nat.toDigits 16 z.natAbs) = some z.natAbs := numeral?_toDigits (by decide) (by decide) _
  rw [hexadecimal?, signedHex, splitSign_signed (not_mem_marked (by decide) (by decide)), marked]
  change (numeral? 16 (Nat.toDigits 16 z.natAbs)).map (Json.Number.withSign (decide (z < 0))) = some z
  rw [read, Option.map_some, Json.Number.withSign_natAbs]

theorem space_not_mem_signedHex (z : Int) : ' ' ∉ (signedHex z).toList :=
  not_mem_signed (by decide) (not_mem_marked (by decide) (by decide) _)

/-! ## Decimal places -/

theorem toList_fixed (places num den : Nat) :
    (Decimal.fixed places num den).toList =
      Nat.toDigits 10 (Decimal.roundDiv (num * 10 ^ places) den / 10 ^ places) ++
        '.' :: (alignRight '0' places (decimal (Decimal.roundDiv (num * 10 ^ places) den % 10 ^ places))).toList := by
  have point : ".".toList = ['.'] := rfl
  simp only [Decimal.fixed, String.toList_append, toList_decimal, point, List.append_assoc, List.singleton_append]
  rfl

theorem not_mem_fixed {c : Char} (point : c ≠ '.') (other : c.isDigit = false) (places num den : Nat) :
    c ∉ (Decimal.fixed places num den).toList := by
  have zero : c ≠ '0' := by
    rintro rfl
    exact Bool.noConfusion other
  rw [toList_fixed, ← toList_decimal, List.mem_append, List.mem_cons, not_or, not_or]
  exact ⟨not_mem_decimal other _, point, not_mem_alignRight zero (not_mem_decimal other _) places⟩

theorem length_part {places n : Nat} (positive : 0 < places) :
    (alignRight '0' places (decimal (n % 10 ^ places))).toList.length = places := by
  have short : (Nat.toDigits 10 (n % 10 ^ places)).length ≤ places :=
    (Nat.length_toDigits_le_iff (by decide) positive).2 (Nat.mod_lt n (Nat.pow_pos (by decide)))
  rw [String.length_toList, length_alignRight, ← String.length_toList, toList_decimal, Nat.max_eq_left short]

/-- A signed quotient in its column is read as the rounded one. -/
theorem fixed?_signed {places : Nat} (positive : 0 < places) (num : Nat → Nat) (den width : Nat) (z : Int) :
    fixed? places (alignRight ' ' width (signed (fun n => Decimal.fixed places (num n) den) z)).toList =
      some (Json.Number.withSign (decide (z < 0)) (Decimal.roundDiv (num z.natAbs * 10 ^ places) den)) := by
  have unsigned : ∀ n, '-' ∉ (Decimal.fixed places (num n) den).toList :=
    fun n => not_mem_fixed (by decide) rfl places (num n) den
  have front : (signed (fun n => Decimal.fixed places (num n) den) z).toList.head? ≠ some ' ' := by
    have solid : ' ' ∉ (signed (fun n => Decimal.fixed places (num n) den) z).toList :=
      not_mem_signed (by decide) (not_mem_fixed (by decide) rfl places (num z.natAbs) den)
    exact fun space => solid (List.mem_of_mem_head? space)
  have whole : ∀ n, ∀ c ∈ Nat.toDigits 10 n, (c == '.') = false :=
    fun _ _ member => Json.Number.not_point (isDigit_of_mem_decimal member)
  have part : ∀ n, numeral? 10 (alignRight '0' places (decimal n)).toList = some n :=
    numeral?_column (by decide) (by decide) places
  rw [fixed?, toList_alignRight, dropWhile_spaces _ front, splitSign_signed unsigned]
  dsimp only
  rw [toList_fixed, cutAt_append _ (whole _) rfl]
  dsimp only
  rw [if_pos (length_part positive), Json.Number.whole?_toDigits, part]
  change some (Json.Number.withSign _ (_ / 10 ^ places * 10 ^ places + _ % 10 ^ places)) = _
  rw [Nat.div_add_mod']

end SchedProbe.Text
