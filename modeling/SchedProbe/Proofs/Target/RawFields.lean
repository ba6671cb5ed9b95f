import Mathlib.Data.List.Induction
import Mathlib.Data.Nat.Digits.Defs
import SchedProbe.Target.Field

/-! Fields captured as bytes. Reading copies the bytes into a word and, if they are signed, extends them by shifting
the word up and down again. The bytes are the digits of a number in base 256, and the field denotes that number, or,
if it is signed, the number of which they are the two's complement. Main statement: reading says this for bytes of
any width, and undoes writing. -/

set_option autoImplicit false

namespace SchedProbe

/-! ## Bytes as digits -/

/-- Bytes of memory by weight, the least first. -/
def ByteOrder.leastFirst : ByteOrder → List UInt8 → List UInt8
  | little, bytes => bytes
  | big, bytes => bytes.reverse

/-- The digits of a number in base 256 by weight, the least first; those that find no place are dropped. -/
def bytesOf : Nat → Nat → List UInt8
  | 0, _ => []
  | width + 1, n => UInt8.ofNat n :: bytesOf width (n / 256)

/-- The bytes that a number fills in memory, a negative one as its two's complement. -/
def ByteOrder.write (order : ByteOrder) (width : Nat) (value : Int) : List UInt8 :=
  order.leastFirst (bytesOf width (value % (2 ^ (8 * width) : Nat)).toNat)

def ByteOrder.digits (order : ByteOrder) (bytes : List UInt8) : Nat :=
  Nat.ofDigits 256 ((order.leastFirst bytes).map UInt8.toNat)

theorem digit_lt {bytes : List UInt8} {n : Nat} (member : n ∈ bytes.map UInt8.toNat) : n < 256 := by
  obtain ⟨byte, -, rfl⟩ := List.mem_map.1 member
  exact byte.toNat_lt

namespace ByteOrder

variable (order : ByteOrder)

theorem length_leastFirst (bytes : List UInt8) : (order.leastFirst bytes).length = bytes.length := by
  cases order with
  | little => rfl
  | big => exact List.length_reverse

theorem leastFirst_leastFirst (bytes : List UInt8) : order.leastFirst (order.leastFirst bytes) = bytes := by
  cases order with
  | little => rfl
  | big => exact List.reverse_reverse bytes

theorem digits_lt (bytes : List UInt8) : order.digits bytes < 2 ^ (8 * bytes.length) := by
  have bound := Nat.ofDigits_lt_base_pow_length (by decide)
    fun n (member : n ∈ (order.leastFirst bytes).map UInt8.toNat) => digit_lt member
  rwa [List.length_map, length_leastFirst, show 256 = 2 ^ 8 from rfl, ← Nat.pow_mul] at bound

theorem digits_injective {bytes others : List UInt8} (length : bytes.length = others.length)
    (same : order.digits bytes = order.digits others) : bytes = others := by
  have digits := Nat.ofDigits_inj_of_len_eq (by decide)
    (by rw [List.length_map, List.length_map, length_leastFirst, length_leastFirst, length])
    (fun _ => digit_lt) (fun _ => digit_lt) same
  rw [List.map_inj_right fun _ _ => UInt8.toNat_inj.1] at digits
  rw [← order.leastFirst_leastFirst bytes, digits, leastFirst_leastFirst]

end ByteOrder

theorem length_bytesOf (width n : Nat) : (bytesOf width n).length = width := by
  induction width generalizing n with
  | zero => rfl
  | succ width ih => rw [bytesOf, List.length_cons, ih]

theorem ofDigits_bytesOf (width n : Nat) :
    Nat.ofDigits 256 ((bytesOf width n).map UInt8.toNat) = n % 256 ^ width := by
  induction width generalizing n with
  | zero => rw [Nat.pow_zero, Nat.mod_one]; rfl
  | succ width ih =>
    rw [bytesOf, List.map_cons, Nat.ofDigits_cons, ih, UInt8.toNat_ofNat']
    change n % 256 + 256 * (n / 256 % 256 ^ width) = n % 256 ^ (width + 1)
    rw [Nat.pow_succ', Nat.mod_mul]

theorem ByteOrder.length_write (order : ByteOrder) (width : Nat) (value : Int) :
    (order.write width value).length = width := by
  rw [write, length_leastFirst, length_bytesOf]

theorem ByteOrder.digits_write (order : ByteOrder) (width : Nat) (value : Int) :
    order.digits (order.write width value) = (value % (2 ^ (8 * width) : Nat)).toNat := by
  rw [digits, write, leastFirst_leastFirst, ofDigits_bytesOf, show 256 = 2 ^ 8 from rfl, ← Nat.pow_mul]
  refine Nat.mod_eq_of_lt ?_
  have small := Int.emod_lt_of_pos value (Int.natCast_pos.2 (Nat.two_pow_pos (8 * width)))
  omega

/-! ## Widening -/

theorem toNat_shiftIn {word : UInt64} (room : word.toNat < 2 ^ 56) (byte : UInt8) :
    (word <<< 8 ||| byte.toUInt64).toNat = byte.toNat + 256 * word.toNat := by
  have shifted : word.toNat <<< 8 % 2 ^ 64 = word.toNat <<< 8 := by
    rw [Nat.shiftLeft_eq]
    exact Nat.mod_eq_of_lt (by omega)
  rw [UInt64.toNat_or, UInt64.toNat_shiftLeft, UInt8.toNat_toUInt64]
  change word.toNat <<< 8 % 2 ^ 64 ||| byte.toNat = _
  rw [shifted, ← Nat.shiftLeft_add_eq_or_of_lt byte.toNat_lt, Nat.shiftLeft_eq]
  omega

-- From the last byte on, which is the lowest digit; the word of those before it has room for one more.
theorem toNat_wordOfBytes {bytes : List UInt8} (short : bytes.length ≤ 8) :
    (wordOfBytes bytes).toNat = ByteOrder.big.digits bytes := by
  induction bytes using List.reverseRecOn with
  | nil => rfl
  | append_singleton bytes byte ih =>
    rw [List.length_append, List.length_singleton] at short
    have before := ih (by omega)
    have bound : 2 ^ (8 * bytes.length) ≤ 2 ^ 56 := Nat.pow_le_pow_right (by decide) (by omega)
    have room : (wordOfBytes bytes).toNat < 2 ^ 56 := before ▸ (ByteOrder.big.digits_lt bytes).trans_le bound
    rw [wordOfBytes, List.foldl_append, List.foldl_cons, List.foldl_nil]
    change (wordOfBytes bytes <<< 8 ||| byte.toUInt64).toNat = _
    rw [toNat_shiftIn room, before, ByteOrder.digits, ByteOrder.digits, ByteOrder.leastFirst, ByteOrder.leastFirst,
      List.reverse_append, List.reverse_singleton, List.singleton_append, List.map_cons, Nat.ofDigits_cons]

/-- What the loop over little-endian bytes has filled stands behind the zeros it has yet to reach. -/
theorem foldl_set_zipIdx {bytes filled : List UInt8} {i : Nat} (place : i = filled.length)
    (short : i + bytes.length ≤ 8) :
    (bytes.zipIdx i).foldl (fun word entry => word.set (7 - entry.2) entry.1)
        (List.replicate (8 - i) 0 ++ filled) =
      List.replicate (8 - (i + bytes.length)) 0 ++ (bytes.reverse ++ filled) := by
  induction bytes generalizing i filled with
  | nil => rfl
  | cons byte rest ih =>
    rw [List.length_cons] at short
    have last : List.replicate (8 - i) (0 : UInt8) = List.replicate (7 - i) 0 ++ [0] := by
      rw [← List.replicate_succ']
      exact congrArg (List.replicate · 0) (by omega)
    have step : (List.replicate (8 - i) 0 ++ filled).set (7 - i) byte =
        List.replicate (8 - (i + 1)) 0 ++ byte :: filled := by
      rw [last, List.append_assoc, List.set_append_right _ _ (by rw [List.length_replicate]),
        List.length_replicate, Nat.sub_self, Nat.sub_add_eq, Nat.sub_right_comm]
      rfl
    rw [List.zipIdx_cons, List.foldl_cons, step, ih (by rw [place, List.length_cons]) (by omega),
      List.reverse_cons, List.append_assoc, List.length_cons, Nat.add_right_comm, Nat.add_assoc]
    rfl

namespace ByteOrder

variable (order : ByteOrder)

theorem widen_eq {bytes : List UInt8} (short : bytes.length ≤ 8) :
    order.widen bytes = List.replicate (8 - bytes.length) 0 ++ (order.leastFirst bytes).reverse := by
  cases order with
  | little =>
    have filled := @foldl_set_zipIdx bytes [] 0 rfl (by omega)
    rwa [List.append_nil, List.append_nil, Nat.zero_add] at filled
  | big => rw [widen, leastFirst, List.reverse_reverse, List.take_replicate, Nat.min_eq_left (Nat.sub_le ..)]

theorem toNat_wordOfBytes_widen {bytes : List UInt8} (short : bytes.length ≤ 8) :
    (wordOfBytes (order.widen bytes)).toNat = order.digits bytes := by
  have length : (order.widen bytes).length ≤ 8 := by
    rw [order.widen_eq short, List.length_append, List.length_replicate, List.length_reverse, length_leastFirst]
    omega
  rw [toNat_wordOfBytes length, order.widen_eq short, digits, leastFirst, List.reverse_append,
    List.reverse_reverse, List.reverse_replicate, List.map_append, List.map_replicate]
  exact Nat.ofDigits_append_replicate_zero _

end ByteOrder

/-! ## Two's complement -/

def twosComplement (width n : Nat) : Int :=
  if n < 2 ^ (8 * width - 1) then n else n - (2 ^ (8 * width) : Nat)

def FitsWidth : Bool → Nat → Int → Prop
  | true, width, value => -(2 ^ (8 * width - 1) : Nat) ≤ value ∧ value < (2 ^ (8 * width - 1) : Nat)
  | false, width, value => 0 ≤ value ∧ value < (2 ^ (8 * width) : Nat)

theorem two_pow_width {width : Nat} (positive : 0 < width) :
    2 ^ (8 * width) = 2 * 2 ^ (8 * width - 1) := by
  rw [← Nat.pow_succ']
  exact congrArg (2 ^ ·) (by omega)

theorem twosComplement_injective {width n m : Nat} (positive : 0 < width) (small : n < 2 ^ (8 * width))
    (small' : m < 2 ^ (8 * width)) (same : twosComplement width n = twosComplement width m) : n = m := by
  rw [two_pow_width positive] at small small'
  rw [twosComplement, twosComplement, two_pow_width positive] at same
  split at same <;> split at same <;> omega

theorem twosComplement_emod {width : Nat} {value : Int} (positive : 0 < width)
    (fits : FitsWidth true width value) :
    twosComplement width (value % (2 ^ (8 * width) : Nat)).toNat = value := by
  rw [FitsWidth] at fits
  rw [twosComplement, two_pow_width positive]
  generalize 2 ^ (8 * width - 1) = half at fits ⊢
  by_cases negative : value < 0
  · have wrapped : value % (2 * half : Nat) = value + (2 * half : Nat) := by
      rw [← Int.add_emod_right]
      exact Int.emod_eq_of_lt (by omega) (by omega)
    rw [wrapped, if_neg (by omega)]
    omega
  · have same : value % (2 * half : Nat) = value := Int.emod_eq_of_lt (by omega) (by omega)
    rw [same, if_pos (by omega)]
    omega

/-! ## Sign extension -/

theorem toNat_shiftLeft_ofNat {word : UInt64} {shift : Nat} (amount : shift < 64)
    (fits : word.toNat * 2 ^ shift < 2 ^ 64) : (word <<< UInt64.ofNat shift).toNat = word.toNat * 2 ^ shift := by
  rw [UInt64.toNat_shiftLeft, UInt64.toNat_ofNat_of_lt' (amount.trans (by decide)), Nat.mod_eq_of_lt amount,
    Nat.shiftLeft_eq, Nat.mod_eq_of_lt fits]

theorem toInt_shiftRight_ofNat {shift : Nat} (amount : shift < 64) (value : Int64) :
    (value >>> Int64.ofNat shift).toInt = value.toInt / (2 ^ shift : Nat) := by
  have reduced : ∀ shift < 64, ((Int64.ofNat shift).toBitVec.smod 64).toNat = shift := by decide +kernel
  rw [← Int64.toInt_toBitVec, Int64.toBitVec_shiftRight, BitVec.sshiftRight_eq', reduced shift amount,
    BitVec.toInt_sshiftRight, Int.shiftRight_eq_div_pow, Int64.toInt_toBitVec]

theorem toInt_toInt64 (word : UInt64) :
    word.toInt64.toInt = if word.toNat < 2 ^ 63 then (word.toNat : Int) else word.toNat - (2 ^ 64 : Nat) := by
  rw [← Int64.toInt_toBitVec, UInt64.toBitVec_toInt64, BitVec.toInt_eq_toNat_cond, UInt64.toNat_toBitVec]
  split <;> split <;> omega

theorem le_maxValue_iff {word : UInt64} : word ≤ Int64.maxValue.toUInt64 ↔ word.toNat < 2 ^ 63 :=
  UInt64.le_iff_toNat_le.trans Nat.lt_succ_iff.symm

/-- Shifted to the top of its word and back, a number of fewer bytes brings its top bit along as the sign. -/
theorem toInt_shift_back {width : Nat} (positive : 0 < width) (most : width ≤ 8) {word : UInt64}
    (small : word.toNat < 2 ^ (8 * width)) :
    ((word <<< UInt64.ofNat (64 - 8 * width)).toInt64 >>> Int64.ofNat (64 - 8 * width)).toInt =
      twosComplement width word.toNat := by
  have amount : 64 - 8 * width < 64 := by omega
  have whole : 2 ^ 64 = 2 ^ (8 * width) * 2 ^ (64 - 8 * width) := by
    rw [← Nat.pow_add]
    exact congrArg (2 ^ ·) (by omega)
  have positiveScale : 0 < 2 ^ (64 - 8 * width) := Nat.two_pow_pos _
  rw [toInt_shiftRight_ofNat amount, toInt_toInt64,
    toNat_shiftLeft_ofNat amount (whole ▸ Nat.mul_lt_mul_of_pos_right small positiveScale), twosComplement]
  rw [two_pow_width positive] at whole ⊢
  generalize 2 ^ (64 - 8 * width) = scale at *
  generalize 2 ^ (8 * width - 1) = half at *
  rw [Nat.mul_assoc] at whole
  have top : word.toNat * scale < 2 ^ 63 ↔ word.toNat < half := by
    rw [show 2 ^ 63 = half * scale by omega]
    exact Nat.mul_lt_mul_right positiveScale
  have nonzero : (scale : Int) ≠ 0 := Int.natCast_ne_zero.2 positiveScale.ne'
  by_cases low : word.toNat < half
  · rw [if_pos (top.2 low), if_pos low, Int.natCast_mul]
    exact Int.mul_ediv_cancel _ nonzero
  · rw [if_neg (top.not.2 low), if_neg low, whole, ← Nat.mul_assoc, Int.natCast_mul, Int.natCast_mul _ scale,
      ← Int.sub_mul]
    exact Int.mul_ediv_cancel _ nonzero

/-! ## Reading -/

theorem width_bounds {width : Nat} (supported : width ∈ [1, 2, 4, 8]) : 0 < width ∧ width ≤ 8 := by
  revert width
  decide

/-- What reading says of bytes, as an integer. -/
theorem map_toInt_decode (name : String) (bytes : List UInt8) (signed : Bool) (order : ByteOrder) :
    ((Field.raw bytes signed order).decode name).map Int64.toInt =
      if bytes.length ∉ [1, 2, 4, 8] then .error (.badWidth name bytes.length)
      else if signed = true then .ok (twosComplement bytes.length (order.digits bytes))
      else if order.digits bytes < 2 ^ 63 then .ok (order.digits bytes)
      else .error (.valueOutOfRange name (Int64.ofNat (order.digits bytes)) .i64) := by
  simp only [Field.decode, decodeRaw, supportedWidths]
  by_cases supported : bytes.length ∈ [1, 2, 4, 8]
  · rw [if_neg (not_not_intro supported), if_neg (not_not_intro supported)]
    obtain ⟨positive, most⟩ := width_bounds supported
    have small := order.digits_lt bytes
    rw [← order.toNat_wordOfBytes_widen most] at small ⊢
    generalize wordOfBytes (order.widen bytes) = word at small ⊢
    cases signed with
    | true => exact congrArg Except.ok (toInt_shift_back positive most small)
    | false =>
      rw [if_neg Bool.false_ne_true, if_neg Bool.false_ne_true]
      have readShort (short : word.toNat < 2 ^ 63) : word.toInt64.toInt = word.toNat := by
        rw [toInt_toInt64, if_pos short]
      by_cases full : bytes.length = 8
      · rw [if_pos full]
        by_cases short : word.toNat < 2 ^ 63
        · rw [if_pos (le_maxValue_iff.2 short), if_pos short]
          exact congrArg Except.ok (readShort short)
        · rw [if_neg (le_maxValue_iff.not.2 short), if_neg short]
          have shown : word.toInt64 = Int64.ofNat word.toNat := congrArg UInt64.toInt64 word.ofNat_toNat.symm
          rw [shown]
          rfl
      · have bound : 2 ^ (8 * bytes.length) ≤ 2 ^ 63 := Nat.pow_le_pow_right (by decide) (by omega)
        have short := small.trans_le bound
        rw [if_neg full, if_pos short]
        exact congrArg Except.ok (readShort short)
  · rw [if_pos supported, if_pos supported]
    rfl

theorem decode_write {signed : Bool} {width : Nat} {value : Int64} (supported : width ∈ [1, 2, 4, 8])
    (fits : FitsWidth signed width value.toInt) (name : String) (order : ByteOrder) :
    (Field.raw (order.write width value.toInt) signed order).decode name = .ok value := by
  have read := map_toInt_decode name (order.write width value.toInt) signed order
  rw [order.length_write, if_neg (not_not_intro supported), order.digits_write] at read
  have positive := (width_bounds supported).1
  have same : ((Field.raw (order.write width value.toInt) signed order).decode name).map Int64.toInt =
      .ok value.toInt := by
    cases signed with
    | true => rw [read, if_pos rfl, twosComplement_emod positive fits]
    | false =>
      simp only [Bool.false_eq_true, if_false] at read
      have whole : value.toInt % (2 ^ (8 * width) : Nat) = value.toInt := Int.emod_eq_of_lt fits.1 fits.2
      have short := value.toInt_lt
      have natural : (value.toInt.toNat : Int) = value.toInt := Int.toNat_of_nonneg fits.1
      rw [read, whole, if_pos (by omega), natural]
  cases result : (Field.raw (order.write width value.toInt) signed order).decode name with
  | error source => rw [result] at same; cases same
  | ok decoded =>
    rw [result] at same
    exact congrArg Except.ok (Int64.toInt_inj.1 (Except.ok.inj same))

theorem decode_reverse (name : String) (bytes : List UInt8) (signed : Bool) :
    (Field.raw bytes signed .little).decode name = (Field.raw bytes.reverse signed .big).decode name := by
  simp only [Field.decode, decodeRaw, List.length_reverse]
  by_cases supported : bytes.length ∈ supportedWidths
  · have short := (width_bounds supported).2
    have same : ByteOrder.little.widen bytes = ByteOrder.big.widen bytes.reverse := by
      rw [ByteOrder.widen_eq _ short, ByteOrder.widen_eq _ (by rwa [List.length_reverse]), ByteOrder.leastFirst,
        ByteOrder.leastFirst, List.reverse_reverse, List.length_reverse]
    rw [same]
  · rw [if_pos supported, if_pos supported]

theorem ofNat_word_injective {n m : Nat} (small : n < 2 ^ 64) (small' : m < 2 ^ 64)
    (same : Int64.ofNat n = Int64.ofNat m) : n = m := by
  have words := congrArg (fun word : Int64 => word.toBitVec.toNat) same
  change n % 2 ^ 64 = m % 2 ^ 64 at words
  rwa [Nat.mod_eq_of_lt small, Nat.mod_eq_of_lt small'] at words

-- A number out of range counts as well: the error shows the word that it fills.
theorem decode_injective {name : String} {bytes others : List UInt8} {signed : Bool} {order : ByteOrder}
    (supported : bytes.length ∈ [1, 2, 4, 8]) (length : others.length = bytes.length)
    (same : (Field.raw others signed order).decode name = (Field.raw bytes signed order).decode name) :
    others = bytes := by
  refine order.digits_injective length ?_
  have small := order.digits_lt bytes
  have small' := order.digits_lt others
  have read := congrArg (Except.map Int64.toInt) same
  rw [map_toInt_decode, map_toInt_decode, length, if_neg (not_not_intro supported),
    if_neg (not_not_intro supported)] at read
  rw [length] at small'
  obtain ⟨positive, most⟩ := width_bounds supported
  cases signed with
  | true => exact twosComplement_injective positive small' small (Except.ok.inj read)
  | false =>
    simp only [Bool.false_eq_true, if_false] at read
    split at read <;> split at read
    · exact Int.ofNat_inj.1 (Except.ok.inj read)
    · cases read
    · cases read
    · have word : 2 ^ (8 * bytes.length) ≤ 2 ^ 64 := Nat.pow_le_pow_right (by decide) (by omega)
      exact ofNat_word_injective (by omega) (by omega) (AccessError.valueOutOfRange.inj (Except.error.inj read)).2.1

/-- Bytes of any but the supported widths are refused with their width. Others denote the number of which they
are the digits in base 256 in the order of their field, signed ones as two's complement; only an unsigned
number that fits no signed word is out of range. So reading undoes writing, little-endian bytes read as the
reversed bytes do in the other order, and no two fields of one width, order and sign read the same. -/
theorem decode_raw (name : String) (bytes : List UInt8) (signed : Bool) (order : ByteOrder) :
    let width := bytes.length
    let n : Nat := Nat.ofDigits 256 ((order.leastFirst bytes).map UInt8.toNat)
    let result := (Field.raw bytes signed order).decode name
    (result = .error (.badWidth name width) ↔ width ∉ [1, 2, 4, 8]) ∧
      (width ∈ [1, 2, 4, 8] → result.map Int64.toInt =
        if signed = true then .ok (if n < 2 ^ (8 * width - 1) then n else n - (2 ^ (8 * width) : Nat))
        else if n < 2 ^ 63 then .ok n
        else .error (.valueOutOfRange name (Int64.ofNat n) .i64)) ∧
      (∀ width ∈ [1, 2, 4, 8], ∀ value : Int64, FitsWidth signed width value.toInt →
        (Field.raw (order.write width value.toInt) signed order).decode name = .ok value) ∧
      (Field.raw bytes signed .little).decode name = (Field.raw bytes.reverse signed .big).decode name ∧
      (width ∈ [1, 2, 4, 8] → ∀ others : List UInt8, others.length = width →
        (Field.raw others signed order).decode name = result → others = bytes) := by
  intro width n result
  have read := map_toInt_decode name bytes signed order
  refine ⟨⟨fun refused supported => ?_, fun unsupported => if_pos unsupported⟩, fun supported => ?_,
    fun width supported value fits => decode_write supported fits name order, decode_reverse name bytes signed,
    fun supported others length same => decode_injective supported length same⟩
  · rw [if_neg (not_not_intro supported), show (Field.raw bytes signed order).decode name = _ from refused] at read
    split at read
    · cases read
    · split at read <;> cases read
  · rw [read, if_neg (not_not_intro supported)]
    rfl

-- The least signed number of four bytes, the least unsigned number of eight that fits no signed word, and the
-- one behind it.
theorem decode_raw_limits :
    let least := Field.raw [0x80, 0, 0, 0] true .big
    let long := Field.raw [0, 0, 0, 0, 0, 0, 0, 0x80] false .little
    let longer := Field.raw [1, 0, 0, 0, 0, 0, 0, 0x80] false .little
    (least.decode "val").map Int64.toInt = .ok (-2147483648) ∧
      (long.decode "val").map Int64.toInt = .error (.valueOutOfRange "val" (-9223372036854775808) .i64) ∧
      longer.decode "val" ≠ long.decode "val" ∧
      ByteOrder.little.write 2 (-2) = [0xfe, 0xff] ∧
      (Field.raw (ByteOrder.little.write 2 (-2)) true .little).decode "val" = .ok (-2) ∧
      (Field.raw [1, 2, 3] true .big).decode "val" = .error (.badWidth "val" 3) := by
  intro least long longer
  obtain ⟨-, readLeast, -, -, -⟩ := decode_raw "val" [0x80, 0, 0, 0] true .big
  obtain ⟨-, readLong, -, -, apart⟩ := decode_raw "val" [0, 0, 0, 0, 0, 0, 0, 0x80] false .little
  obtain ⟨refused, -, -, -, -⟩ := decode_raw "val" [1, 2, 3] true .big
  obtain ⟨-, -, written, -, -⟩ := decode_raw "val" [] true .little
  refine ⟨(readLeast (by decide)).trans (by decide +kernel), (readLong (by decide)).trans (by decide +kernel),
    fun same => ?_, by decide +kernel, ?_, refused.2 (by decide)⟩
  · exact absurd (apart (by decide) [1, 0, 0, 0, 0, 0, 0, 0x80] rfl same) (by decide)
  · exact written 2 (by decide) (-2) ⟨by decide, by decide⟩

end SchedProbe
