import SchedProbe.Json.RoundTrip
import SchedProbe.Text.Column

/-! Columns found again in a line. A text is cut in one way only at its first or last mark, so a word is found
behind the spaces that fill its column, and a numeral denotes its number, behind zeros as well. -/

set_option autoImplicit false

namespace SchedProbe.Text

/-! ## Cuts -/

section Cuts

variable {mark : Char → Bool} {before before' after after' : List Char} {c c' : Char}

theorem firstCut_unique (clean : ∀ d ∈ before, mark d = false) (clean' : ∀ d ∈ before', mark d = false)
    (marked : mark c = true) (marked' : mark c' = true)
    (same : before ++ c :: after = before' ++ c' :: after') :
    before = before' ∧ c :: after = c' :: after' := by
  have cut := cutAt_append after clean marked
  rw [same, cutAt_append after' clean' marked'] at cut
  obtain rfl : before' = before := congrArg Prod.fst cut
  exact ⟨rfl, List.append_cancel_left same⟩

def cutLast? (mark : Char → Bool) (cs : List Char) : Option (List Char × List Char) :=
  match cutAt mark cs.reverse with
  | (after, some before) => some (before.reverse, after.reverse)
  | (_, none) => none

theorem cutLast?_append (before : List Char) (clean : ∀ d ∈ after, mark d = false) (marked : mark c = true) :
    cutLast? mark (before ++ c :: after) = some (before, after) := by
  have cut := cutAt_append before.reverse (fun d member => clean d (List.mem_reverse.1 member)) marked
  rw [cutLast?, List.reverse_append, List.reverse_cons, List.append_assoc, List.singleton_append, cut]
  dsimp only
  rw [List.reverse_reverse, List.reverse_reverse]

theorem lastCut_unique (clean : ∀ d ∈ after, mark d = false) (clean' : ∀ d ∈ after', mark d = false)
    (marked : mark c = true) (marked' : mark c' = true)
    (same : before ++ c :: after = before' ++ c' :: after') : before = before' ∧ after = after' := by
  have cut := cutLast?_append before clean marked
  rw [same, cutLast?_append before' clean' marked'] at cut
  cases cut
  exact ⟨rfl, rfl⟩

theorem unmarked {cs : List Char} (absent : c ∉ cs) : ∀ d ∈ cs, (d == c) = false :=
  fun _ member => beq_eq_false_iff_ne.2 fun same => absent (same ▸ member)

/-- The first cut at a character: in front of it the character does not occur. -/
theorem cutAt_eq_some_iff {cs : List Char} :
    cutAt (· == c) cs = (before, some after) ↔ cs = before ++ c :: after ∧ c ∉ before := by
  constructor
  · intro cut
    obtain ⟨front, behind⟩ := Prod.mk.inj cut
    have whole : before ++ cs.dropWhile (fun d => !(d == c)) = cs := by
      rw [← front, List.takeWhile_append_dropWhile]
    refine ⟨?_, fun member => ?_⟩
    · have mark := List.head?_dropWhile_not (fun d => !(d == c)) cs
      cases found : cs.dropWhile (fun d => !(d == c)) with
      | nil =>
        rw [found] at behind
        cases behind
      | cons d rest =>
        rw [found] at behind mark whole
        obtain rfl : rest = after := Option.some.inj behind
        obtain rfl : d = c := eq_of_beq (Bool.not_eq_eq_eq_not.1 mark)
        exact whole.symm
    · rw [← front] at member
      have other : (!(c == c)) = true := List.all_eq_true.1 List.all_takeWhile c member
      rw [beq_self_eq_true] at other
      cases other
  · rintro ⟨rfl, absent⟩
    exact cutAt_append after (unmarked absent) (beq_self_eq_true c)

theorem cutLast?_of_not_mem (before : List Char) (absent : c ∉ after) :
    cutLast? (· == c) (before ++ c :: after) = some (before, after) :=
  cutLast?_append before (unmarked absent) (beq_self_eq_true c)

end Cuts

/-! ## Words -/

structure Word (cs : List Char) : Prop where
  nonempty : cs ≠ []
  solid : ' ' ∉ cs

/-- A word is found behind any number of spaces, whatever follows it. -/
theorem behindSpaces_unique {k k' : Nat} {word word' rest rest' : List Char} (isWord : Word word)
    (isWord' : Word word')
    (same : List.replicate k ' ' ++ (word ++ rest) = List.replicate k' ' ' ++ (word' ++ rest')) :
    k = k' ∧ word ++ rest = word' ++ rest' := by
  have spaces : ∀ k, ∀ d ∈ List.replicate k ' ', (d != ' ') = false := by
    intro k d member
    rw [List.eq_of_mem_replicate member]
    rfl
  have letter : ∀ {word : List Char}, Word word → ∀ d ∈ word, (d != ' ') = true := by
    intro word isWord d member
    exact bne_iff_ne.2 fun space => isWord.solid (space ▸ member)
  obtain ⟨c, cs, rfl⟩ := List.exists_cons_of_ne_nil isWord.nonempty
  obtain ⟨c', cs', rfl⟩ := List.exists_cons_of_ne_nil isWord'.nonempty
  obtain ⟨pads, rests⟩ := firstCut_unique (spaces k) (spaces k') (letter isWord c List.mem_cons_self)
    (letter isWord' c' List.mem_cons_self) same
  have width := congrArg List.length pads
  rw [List.length_replicate, List.length_replicate] at width
  exact ⟨width, rests⟩

/-- The spaces in front of a text that does not begin with one. -/
theorem dropWhile_spaces {cs : List Char} (k : Nat) (front : cs.head? ≠ some ' ') :
    (List.replicate k ' ' ++ cs).dropWhile (· == ' ') = cs := by
  have spaces : ∀ d ∈ List.replicate k ' ', (d == ' ') = true := by
    intro d member
    rw [List.eq_of_mem_replicate member]
    rfl
  rw [List.dropWhile_append_of_pos spaces]
  cases cs with
  | nil => rfl
  | cons c cs => exact List.dropWhile_cons_of_neg fun space => front (by rw [List.head?_cons, eq_of_beq space])

/-- A word that a space ends is found at the front of a text. -/
theorem firstWord_unique {word word' rest rest' : List Char} (isWord : Word word) (isWord' : Word word')
    (same : word ++ ' ' :: rest = word' ++ ' ' :: rest') : word = word' ∧ rest = rest' := by
  obtain ⟨words, rests⟩ := firstCut_unique (unmarked isWord.solid) (unmarked isWord'.solid) rfl rfl same
  exact ⟨words, (List.cons.inj rests).2⟩

/-- A word that a space ends is found behind any number of spaces. -/
theorem word_unique {k k' : Nat} {word word' rest rest' : List Char} (isWord : Word word) (isWord' : Word word')
    (same : List.replicate k ' ' ++ (word ++ ' ' :: rest) =
      List.replicate k' ' ' ++ (word' ++ ' ' :: rest')) : k = k' ∧ word = word' ∧ rest = rest' := by
  obtain ⟨width, words⟩ := behindSpaces_unique isWord isWord' same
  exact ⟨width, firstWord_unique isWord isWord' words⟩

/-- Words in a row, each behind a number of spaces and before one more, and the rest of the line. -/
def spaced (words : List (Nat × List Char)) (rest : List Char) : List Char :=
  words.foldr (fun word rest => List.replicate word.1 ' ' ++ (word.2 ++ ' ' :: rest)) rest

/-- The words of a line are found one after the other. -/
theorem spaced_unique {words words' : List (Nat × List Char)} {rest rest' : List Char}
    (solid : ∀ word ∈ words, Word word.2) (solid' : ∀ word ∈ words', Word word.2)
    (length : words.length = words'.length) (same : spaced words rest = spaced words' rest') :
    words = words' ∧ rest = rest' := by
  induction words generalizing words' with
  | nil =>
    obtain rfl := List.length_eq_zero_iff.1 length.symm
    exact ⟨rfl, same⟩
  | cons word words ih =>
    obtain ⟨word', words', rfl⟩ := List.exists_cons_of_length_pos (by rw [← length]; exact Nat.succ_pos _)
    obtain ⟨gap, first, behind⟩ :=
      word_unique (solid word List.mem_cons_self) (solid' word' List.mem_cons_self) same
    obtain ⟨rfl, rests⟩ := ih (fun word member => solid word (List.mem_cons_of_mem _ member))
      (fun word member => solid' word (List.mem_cons_of_mem _ member)) (Nat.succ.inj length) behind
    exact ⟨congrArg (· :: words) (Prod.ext gap first), rests⟩

theorem toList_alignRight (fill : Char) (width : Nat) (s : String) :
    (alignRight fill width s).toList = List.replicate (width - s.length) fill ++ s.toList := by
  rw [alignRight, filler, String.toList_append, String.toList_ofList]

theorem not_mem_alignRight {fill c : Char} {s : String} (other : c ≠ fill) (absent : c ∉ s.toList) (width : Nat) :
    c ∉ (alignRight fill width s).toList := by
  intro member
  rw [toList_alignRight] at member
  obtain filled | member := List.mem_append.1 member
  · exact other (List.eq_of_mem_replicate filled)
  · exact absent member

theorem toList_spaces (n : Nat) : (spaces n).toList = List.replicate n ' ' := by
  rw [spaces, filler, String.toList_ofList]

theorem toList_alignLeft (width : Nat) (s : String) :
    (alignLeft width s).toList = s.toList ++ List.replicate (width - s.length) ' ' := by
  rw [alignLeft, String.toList_append, toList_spaces]

/-! ## Numerals -/

def digitValue (c : Char) : Nat :=
  if c.isDigit then c.toNat - '0'.toNat else c.toNat - 'a'.toNat + 10

def numeralValue (base : Nat) (cs : List Char) : Nat :=
  cs.foldl (fun n c => base * n + digitValue c) 0

section Numerals

variable {base : Nat} (low : 1 < base)

include low

theorem numeralValue_toDigits (high : base ≤ 16) (n : Nat) : numeralValue base (Nat.toDigits base n) = n := by
  have digit : ∀ d < 16, digitValue (Nat.digitChar d) = d := by decide
  induction n using Nat.strongRecOn with
  | ind n ih =>
    rw [Nat.toDigits_eq_if low]
    split
    next small =>
      change base * 0 + digitValue (Nat.digitChar n) = n
      rw [digit n (Nat.lt_of_lt_of_le small high), Nat.mul_zero, Nat.zero_add]
    next large =>
      have shorter : n / base < n := Nat.div_lt_self (by omega) low
      have last : n % base < 16 := Nat.lt_of_lt_of_le (Nat.mod_lt n (by omega)) high
      rw [numeralValue, List.foldl_append, List.foldl_cons, List.foldl_nil, digit _ last]
      change base * numeralValue base (Nat.toDigits base (n / base)) + n % base = n
      rw [ih _ shorter, Nat.div_add_mod]

theorem digit_of_mem_toDigits {n : Nat} {c : Char} (member : c ∈ Nat.toDigits base n) :
    ∃ d < base, c = Nat.digitChar d := by
  induction n using Nat.strongRecOn with
  | ind n ih =>
    rw [Nat.toDigits_eq_if low] at member
    split at member
    next small => exact ⟨n, small, List.mem_singleton.1 member⟩
    next large =>
      obtain member | member := List.mem_append.1 member
      · exact ih _ (Nat.div_lt_self (by omega) low) member
      · exact ⟨n % base, Nat.mod_lt n (by omega), List.mem_singleton.1 member⟩

theorem not_mem_toDigits (high : base ≤ 16) {c : Char} (other : ∀ d < 16, c ≠ Nat.digitChar d) (n : Nat) :
    c ∉ Nat.toDigits base n := by
  intro member
  obtain ⟨d, digit, same⟩ := digit_of_mem_toDigits low member
  exact other d (Nat.lt_of_lt_of_le digit high) same

theorem word_toDigits (high : base ≤ 16) (n : Nat) : Word (Nat.toDigits base n) :=
  ⟨Nat.toDigits_ne_nil, not_mem_toDigits low high (by decide) n⟩

end Numerals

theorem numeralValue_zeros (base k : Nat) (cs : List Char) :
    numeralValue base (List.replicate k '0' ++ cs) = numeralValue base cs := by
  induction k with
  | zero => rfl
  | succ k ih =>
    rw [List.replicate_succ, List.cons_append, numeralValue, List.foldl_cons]
    exact ih

theorem isDigit_of_mem_decimal {n : Nat} {c : Char} (member : c ∈ Nat.toDigits 10 n) : c.isDigit = true :=
  Nat.isDigit_of_mem_toDigits (by decide) (by decide) member

theorem toList_decimal (n : Nat) : (decimal n).toList = Nat.toDigits 10 n :=
  String.toList_ofList

theorem toList_hex (n : Nat) : (hex n).toList = Nat.toDigits 16 n :=
  String.toList_ofList

/-- A numeral filled up with zeros, or not, denotes its number. -/
theorem numeralValue_column {base : Nat} (low : 1 < base) (high : base ≤ 16) (width n : Nat) :
    numeralValue base (alignRight '0' width (String.ofList (Nat.toDigits base n))).toList = n := by
  rw [toList_alignRight, String.toList_ofList, numeralValue_zeros, numeralValue_toDigits low high]

theorem column_injective {base : Nat} (low : 1 < base) (high : base ≤ 16) {width n n' : Nat}
    (same : (alignRight '0' width (String.ofList (Nat.toDigits base n))).toList =
      (alignRight '0' width (String.ofList (Nat.toDigits base n'))).toList) : n = n' := by
  have denoted := congrArg (numeralValue base) same
  rwa [numeralValue_column low high, numeralValue_column low high] at denoted

theorem word_column {base : Nat} (low : 1 < base) (high : base ≤ 16) (width n : Nat) :
    Word (alignRight '0' width (String.ofList (Nat.toDigits base n))).toList where
  nonempty := by
    rw [toList_alignRight, String.toList_ofList]
    exact List.append_ne_nil_of_right_ne_nil _ Nat.toDigits_ne_nil
  solid := by
    refine not_mem_alignRight (by decide) ?_ width
    rw [String.toList_ofList]
    exact (word_toDigits low high n).solid

theorem numeralValue_hexColumn (width n : Nat) : numeralValue 16 (alignRight '0' width (hex n)).toList = n :=
  numeralValue_column (by decide) (by decide) width n

theorem word_hexColumn (width n : Nat) : Word (alignRight '0' width (hex n)).toList :=
  word_column (by decide) (by decide) width n

theorem signedDecimal_injective {z z' : Int} (same : signedDecimal z = signedDecimal z') : z = z' := by
  have read := Json.Number.exponent?_signedDecimal z
  rw [same, Json.Number.exponent?_signedDecimal] at read
  exact (Option.some.inj read).symm

/-! ## Signs -/

section Signs

variable {magnitude : Nat → String}

theorem mem_signed {z : Int} {c : Char} (member : c ∈ (signed magnitude z).toList) :
    c = '-' ∨ c ∈ (magnitude z.natAbs).toList := by
  unfold signed at member
  split at member
  · rw [String.toList_append] at member
    exact (List.mem_append.1 member).imp_left List.mem_singleton.1
  · exact .inr member

theorem not_mem_signed {z : Int} {c : Char} (sign : c ≠ '-') (absent : c ∉ (magnitude z.natAbs).toList) :
    c ∉ (signed magnitude z).toList :=
  fun member => (mem_signed member).elim sign absent

variable (unsigned : ∀ n, '-' ∉ (magnitude n).toList)

include unsigned

theorem minus_mem_signed (z : Int) : '-' ∈ (signed magnitude z).toList ↔ z < 0 := by
  unfold signed
  split
  next negative =>
    rw [String.toList_append]
    exact ⟨fun _ => negative, fun _ => List.mem_append_left _ (List.mem_singleton.2 rfl)⟩
  next natural => exact ⟨fun sign => absurd sign (unsigned _), fun negative => absurd negative natural⟩

theorem splitSign_signed (z : Int) :
    Json.Number.splitSign (signed magnitude z).toList = (decide (z < 0), (magnitude z.natAbs).toList) := by
  have head : (magnitude z.natAbs).toList.head? ≠ some '-' := fun sign => unsigned _ (List.mem_of_mem_head? sign)
  unfold signed
  split
  next negative =>
    rw [String.toList_append, decide_eq_true negative]
    rfl
  next natural => rw [Json.Number.splitSign_append head, decide_eq_false natural]

end Signs

theorem not_mem_decimal {c : Char} (other : c.isDigit = false) (n : Nat) : c ∉ (decimal n).toList := by
  intro member
  rw [toList_decimal] at member
  exact absurd (isDigit_of_mem_decimal member) (Bool.eq_false_iff.1 other)

/-- The characters of a signed decimal numeral. -/
theorem mem_signedDecimal {z : Int} {c : Char} (member : c ∈ (signedDecimal z).toList) :
    c = '-' ∨ c.isDigit = true := by
  refine (mem_signed member).imp_right fun digit => ?_
  rw [toList_decimal] at digit
  exact isDigit_of_mem_decimal digit

theorem word_signedDecimal (z : Int) : Word (signedDecimal z).toList where
  nonempty := by
    rw [Json.Number.toList_signedDecimal]
    split
    · exact List.cons_ne_nil _ _
    · exact Nat.toDigits_ne_nil
  solid := not_mem_signed (by decide) (not_mem_decimal rfl _)

end SchedProbe.Text
