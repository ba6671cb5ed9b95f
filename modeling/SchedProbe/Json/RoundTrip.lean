import SchedProbe.Json.Reader

/-! Reading undoes writing. Main statement: the written form of a value spells that value and no other. -/

set_option autoImplicit false

namespace SchedProbe.Json

/-! ## Numbers -/

namespace Number

theorem head?_toDigits {n : Nat} (h : (Nat.toDigits 10 n).head? = some '0') : n = 0 := by
  induction n using Nat.strongRecOn with
  | ind n ih =>
    rw [Nat.toDigits_eq_if (by decide)] at h
    split at h
    next small =>
      have digit : ∀ m < 10, Nat.digitChar m = '0' → m = 0 := by decide
      exact digit n small (Option.some.inj h)
    next large =>
      rw [List.head?_append, Option.or_eq_some_iff] at h
      rcases h with h | ⟨h, -⟩
      · have := ih (n / 10) (by omega) h
        omega
      · exact absurd (List.head?_eq_none_iff.1 h) Nat.toDigits_ne_nil

theorem whole?_toDigits (n : Nat) : whole? (Nat.toDigits 10 n) = some n := by
  rw [whole?, if_neg, Text.natural?_toDigits]
  rintro ⟨head, other⟩
  obtain rfl := head?_toDigits head
  exact other rfl

theorem ne_of_mem_toDigits {n : Nat} {c : Char} (h : c ∈ Nat.toDigits 10 n) {d : Char}
    (hd : d.isDigit = false) : c ≠ d := by
  rintro rfl
  rw [Nat.isDigit_of_mem_toDigits (by decide) (by decide) h] at hd
  exact absurd hd (by decide)

theorem toList_signedDecimal (z : Int) :
    (Text.signedDecimal z).toList =
      if z < 0 then '-' :: Nat.toDigits 10 z.natAbs else Nat.toDigits 10 z.natAbs := by
  unfold Text.signedDecimal Text.signed Text.decimal
  split
  · rw [String.toList_append, String.toList_ofList, String.toList_ofList]
    rfl
  · rw [String.toList_ofList]

theorem splitSign_append {cs : List Char} (h : cs.head? ≠ some '-') : splitSign cs = (false, cs) := by
  unfold splitSign
  split
  · exact absurd rfl h
  · rfl

theorem head?_toDigits_append_ne (n : Nat) (rest : List Char) :
    (Nat.toDigits 10 n ++ rest).head? ≠ some '-' := by
  intro h
  cases digits : Nat.toDigits 10 n with
  | nil => exact Nat.toDigits_ne_nil digits
  | cons c cs =>
    rw [digits, List.cons_append, List.head?_cons] at h
    exact ne_of_mem_toDigits (digits ▸ List.mem_cons_self) (by decide) (Option.some.inj h)

theorem splitSign_signedDecimal (z : Int) (rest : List Char) :
    splitSign ((Text.signedDecimal z).toList ++ rest) =
      (decide (z < 0), Nat.toDigits 10 z.natAbs ++ rest) := by
  rw [toList_signedDecimal]
  split
  next h => rw [decide_eq_true h]; rfl
  next h => rw [decide_eq_false h, splitSign_append (head?_toDigits_append_ne _ _)]

theorem withSign_natAbs (z : Int) : withSign (decide (z < 0)) z.natAbs = z := by
  unfold withSign
  split
  next h => have := of_decide_eq_true h; omega
  next h =>
    have : ¬ z < 0 := fun hz => h (decide_eq_true hz)
    omega

theorem exponent?_signedDecimal (z : Int) :
    exponent? (some (Text.signedDecimal z).toList) = some z := by
  have sign := splitSign_signedDecimal z []
  rw [List.append_nil, List.append_nil] at sign
  unfold exponent?
  split
  next h => exact absurd h (by simp)
  next ds h =>
    have head := congrArg List.head? (Option.some.inj h)
    rw [toList_signedDecimal] at head
    split at head
    · exact absurd head (by simp)
    · cases digits : Nat.toDigits 10 z.natAbs with
      | nil => exact absurd digits Nat.toDigits_ne_nil
      | cons c cs =>
        rw [digits] at head
        exact absurd (Option.some.inj head)
          (ne_of_mem_toDigits (digits ▸ List.mem_cons_self) (by decide))
  next cs _ h =>
    obtain rfl := Option.some.inj h
    simp only [sign, Text.natural?_toDigits, Option.map_some, withSign_natAbs]

theorem cutAt_toDigits {mark : Char → Bool} (h : ∀ c, c.isDigit = true → mark c = false) (n : Nat) :
    Text.cutAt mark (Nat.toDigits 10 n) = (Nat.toDigits 10 n, none) :=
  Text.cutAt_of_forall fun c hc =>
    h c (Nat.isDigit_of_mem_toDigits (by decide) (by decide) hc)

theorem not_exponentMark {c : Char} (h : c.isDigit = true) : (c == 'e' || c == 'E') = false := by
  rw [Bool.or_eq_false_iff, beq_eq_false_iff_ne, beq_eq_false_iff_ne]
  constructor <;> rintro rfl <;> exact absurd h (by decide)

theorem not_point {c : Char} (h : c.isDigit = true) : (c == '.') = false := by
  rw [beq_eq_false_iff_ne]
  rintro rfl
  exact absurd h (by decide)

theorem ofChars?_text (n : Number) : ofChars? n.text.toList = some n := by
  cases n with
  | integer value =>
    have sign := splitSign_signedDecimal value []
    rw [List.append_nil, List.append_nil] at sign
    have nonzero : (decide (value < 0) && value.natAbs == 0) = false := by
      rw [Bool.and_eq_false_iff, decide_eq_false_iff_not, beq_eq_false_iff_ne]
      omega
    simp only [ofChars?, text, sign, cutAt_toDigits (fun _ => not_exponentMark),
      cutAt_toDigits (fun _ => not_point), whole?_toDigits, fraction?, exponent?, Option.bind_eq_bind,
      Option.bind_some, Option.isNone_none, Bool.true_and, nonzero, Bool.not_false, if_pos,
      withSign_natAbs]
  | real mantissa exponent =>
    have sign := splitSign_signedDecimal mantissa ('e' :: (Text.signedDecimal exponent).toList)
    have cut : Text.cutAt (fun c => c == 'e' || c == 'E')
        (Nat.toDigits 10 mantissa.natAbs ++ 'e' :: (Text.signedDecimal exponent).toList) =
          (Nat.toDigits 10 mantissa.natAbs, some (Text.signedDecimal exponent).toList) :=
      Text.cutAt_append _ (fun c hc =>
        not_exponentMark (Nat.isDigit_of_mem_toDigits (by decide) (by decide) hc)) (by decide)
    have chars : (text (.real mantissa exponent)).toList =
        (Text.signedDecimal mantissa).toList ++ 'e' :: (Text.signedDecimal exponent).toList := by
      simp [text]
    simp only [ofChars?, chars, sign, cut, cutAt_toDigits (fun _ => not_point), whole?_toDigits,
      fraction?, exponent?_signedDecimal, Option.bind_eq_bind, Option.bind_some]
    simp [withSign_natAbs]

theorem mem_text {n : Number} {c : Char} (h : c ∈ n.text.toList) :
    c.isDigit = true ∨ c = '-' ∨ c = 'e' := by
  have signed : ∀ z : Int, c ∈ (Text.signedDecimal z).toList → c.isDigit = true ∨ c = '-' := by
    intro z hz
    rw [toList_signedDecimal] at hz
    split at hz
    · rcases List.mem_cons.1 hz with rfl | hz
      · exact .inr rfl
      · exact .inl (Nat.isDigit_of_mem_toDigits (by decide) (by decide) hz)
    · exact .inl (Nat.isDigit_of_mem_toDigits (by decide) (by decide) hz)
  cases n with
  | integer value => exact (signed value h).imp_right .inl
  | real mantissa exponent =>
    simp only [text, String.toList_append, List.mem_append] at h
    rcases h with (h | h) | h
    · exact (signed mantissa h).imp_right .inl
    · exact .inr (.inr (by simpa using h))
    · exact (signed exponent h).imp_right .inl

theorem text_ne_nil (n : Number) : n.text.toList ≠ [] := by
  intro h
  have read := ofChars?_text n
  rw [h, show ofChars? [] = none from rfl] at read
  cases read

end Number

/-! ## Tokens -/

namespace Token

/-- Whether a token needs something that is not part of a word behind it. -/
def isWord : Token → Bool
  | null | bool _ | number _ => true
  | _ => false

theorem endsWord_eq_false {n : Number} {c : Char} (h : c ∈ n.text.toList) : Scan.endsWord c = false := by
  have marks : ∀ d : Char, Scan.endsWord d = true →
      d = ' ' ∨ d = '\t' ∨ d = '\n' ∨ d = '\r' ∨ d = '"' ∨ d = '[' ∨ d = ']' ∨ d = '{' ∨ d = '}' ∨
        d = ',' ∨ d = ':' := by
    intro d hd
    simp only [Scan.endsWord, Scan.isSpace, Bool.or_eq_true, beq_iff_eq] at hd
    rcases hd with ((((hd | hd) | hd) | hd) | hd) | hd
    · simp [hd]
    · simp [hd]
    · simp [hd]
    · simp [hd]
    · simp [hd]
    · unfold mark? at hd
      split at hd <;> simp_all
  rw [← Bool.not_eq_true]
  intro hc
  have listed := marks c hc
  rcases Number.mem_text h with digit | rfl | rfl
  · rcases listed with rfl | rfl | rfl | rfl | rfl | rfl | rfl | rfl | rfl | rfl | rfl <;>
      exact absurd digit (by decide)
  · simp at listed
  · simp at listed

theorem word?_text (n : Number) : word? n.text.toList = some (number n) := by
  have other : ∀ cs : List Char, (∃ c ∈ cs, c ≠ '-' ∧ c ≠ 'e' ∧ c.isDigit = false) →
      n.text.toList ≠ cs := by
    rintro cs ⟨c, hc, minus, mark, digit⟩ rfl
    rcases Number.mem_text hc with h | h | h
    · rw [h] at digit
      exact Bool.noConfusion digit
    · exact minus h
    · exact mark h
  rw [word?, if_neg (other _ ⟨'n', by decide⟩), if_neg (other _ ⟨'t', by decide⟩),
    if_neg (other _ ⟨'f', by decide⟩), Number.ofChars?_text, Option.map_some]

end Token

namespace Scan

def behind (token : Token) (found : List Token) : Scan :=
  if token.isWord then ⟨.word token.chars.reverse, found⟩ else ⟨.between, token :: found⟩

theorem foldlM_word {cs : List Char} (h : ∀ c ∈ cs, endsWord c = false) (reversed : List Char)
    (found : List Token) :
    cs.foldlM step ⟨.word reversed, found⟩ = some ⟨.word (cs.reverse ++ reversed), found⟩ := by
  induction cs generalizing reversed with
  | nil => rfl
  | cons c cs ih =>
    rw [List.foldlM_cons, step, h c List.mem_cons_self]
    simp only [Bool.false_eq_true, if_false, Option.bind_eq_bind, Option.bind_some]
    rw [ih fun d hd => h d (List.mem_cons_of_mem c hd)]
    simp

theorem stepBetween_word {c : Char} (h : endsWord c = false) (found : List Token) :
    stepBetween found c = ⟨.word [c], found⟩ := by
  simp only [endsWord, Bool.or_eq_false_iff, beq_eq_false_iff_ne, Option.isSome_eq_false_iff,
    Option.isNone_iff_eq_none] at h
  obtain ⟨⟨space, quote⟩, mark⟩ := h
  simp only [stepBetween, space, Bool.false_eq_true, if_false, if_neg quote, mark]

theorem foldlM_wordChars {cs : List Char} (nonempty : cs ≠ [])
    (h : ∀ c ∈ cs, endsWord c = false) (found : List Token) :
    cs.foldlM step ⟨.between, found⟩ = some ⟨.word cs.reverse, found⟩ := by
  cases cs with
  | nil => exact absurd rfl nonempty
  | cons c cs =>
    rw [List.foldlM_cons, step]
    simp only [stepBetween_word (h c List.mem_cons_self), Option.bind_eq_bind, Option.bind_some]
    rw [foldlM_word fun d hd => h d (List.mem_cons_of_mem c hd), List.reverse_cons]

theorem step_ordinary {c : Char} (quote : c ≠ '"') (slash : c ≠ '\\') (reversed : List Char)
    (found : List Token) :
    step ⟨.quoted reversed false, found⟩ c = some ⟨.quoted (c :: reversed) false, found⟩ := by
  simp only [step, stepQuoted, Bool.false_eq_true, if_false, if_neg quote, beq_eq_false_iff_ne.2 slash]

theorem step_slash (reversed : List Char) (found : List Token) :
    step ⟨.quoted reversed false, found⟩ '\\' = some ⟨.quoted ('\\' :: reversed) true, found⟩ :=
  rfl

theorem step_escaped (c : Char) (reversed : List Char) (found : List Token) :
    step ⟨.quoted reversed true, found⟩ c = some ⟨.quoted (c :: reversed) false, found⟩ :=
  rfl

theorem ne_of_hexDigit? {c : Char} (h : (Literal.hexDigit? c).isSome = true) :
    c ≠ '"' ∧ c ≠ '\\' := by
  constructor <;> rintro rfl <;> exact absurd h (by decide)

theorem hexDigits_of_unit? {a b c d : Char} {n : Nat} (h : Literal.unit? a b c d = some n) :
    (Literal.hexDigit? a).isSome = true ∧ (Literal.hexDigit? b).isSome = true ∧
      (Literal.hexDigit? c).isSome = true ∧ (Literal.hexDigit? d).isSome = true := by
  unfold Literal.unit? at h
  cases ha : Literal.hexDigit? a <;> cases hb : Literal.hexDigit? b <;>
    cases hc : Literal.hexDigit? c <;> cases hd : Literal.hexDigit? d <;> simp_all

/-- What is written between two quotes is taken in without an end. -/
theorem foldlM_written {written : List Char} (h : (Literal.pieces? written).isSome = true)
    (reversed : List Char) (found : List Token) :
    written.foldlM step ⟨.quoted reversed false, found⟩ =
      some ⟨.quoted (written.reverse ++ reversed) false, found⟩ := by
  fun_induction Literal.pieces? written generalizing reversed with
  | case1 => rfl
  | case2 a b c d rest ih =>
    cases unit : Literal.unit? a b c d with
    | none => rw [unit, Option.bind_none] at h; exact absurd h (by decide)
    | some n =>
      rw [unit, Option.bind_some, Option.isSome_map] at h
      obtain ⟨ha, hb, hc, hd⟩ := hexDigits_of_unit? unit
      simp only [List.foldlM_cons, step_slash, step_escaped, Option.bind_eq_bind, Option.bind_some,
        step_ordinary (ne_of_hexDigit? ha).1 (ne_of_hexDigit? ha).2,
        step_ordinary (ne_of_hexDigit? hb).1 (ne_of_hexDigit? hb).2,
        step_ordinary (ne_of_hexDigit? hc).1 (ne_of_hexDigit? hc).2,
        step_ordinary (ne_of_hexDigit? hd).1 (ne_of_hexDigit? hd).2]
      rw [ih h]
      simp
  | case3 c rest _ ih =>
    cases escape : Literal.escape? c with
    | none => rw [escape, Option.bind_none] at h; exact absurd h (by decide)
    | some e =>
      rw [escape, Option.bind_some, Option.isSome_map] at h
      simp only [List.foldlM_cons, step_slash, step_escaped, Option.bind_eq_bind, Option.bind_some]
      rw [ih h]
      simp
  | case4 c rest _ _ plain ih =>
    rw [Option.isSome_map] at h
    simp only [Literal.isPlain, Bool.and_eq_true, bne_iff_ne] at plain
    simp only [List.foldlM_cons, step_ordinary plain.1.1 plain.1.2, Option.bind_eq_bind,
      Option.bind_some]
    rw [ih h]
    simp
  | case5 => exact absurd h (by decide)

theorem foldlM_chars (token : Token) (found : List Token) :
    token.chars.foldlM step ⟨.between, found⟩ = some (behind token found) := by
  cases token with
  | openArray | closeArray | openObject | closeObject | comma | colon | null => rfl
  | bool b => cases b <;> rfl
  | number n =>
    exact foldlM_wordChars (Number.text_ne_nil n) (fun c hc => Token.endsWord_eq_false hc) found
  | literal s =>
    have closing : step ⟨.quoted s.written.reverse false, found⟩ '"' =
        some ⟨.between, .literal s :: found⟩ := by
      simp only [step, stepQuoted, Bool.false_eq_true, if_false, if_true, List.reverse_reverse,
        Literal.ofWritten?_written, Option.map_some]
    have opening : step ⟨.between, found⟩ '"' = some ⟨.quoted [] false, found⟩ := rfl
    simp only [Token.chars, List.cons_append, List.foldlM_cons, opening, List.foldlM_append,
      foldlM_written s.wellFormed, List.append_nil, closing, List.foldlM_nil, Option.bind_eq_bind,
      Option.bind_some]
    rfl

/-- A token that is no word begins with a character that ends a word. -/
theorem exists_chars {token : Token} (h : token.isWord = false) :
    ∃ c cs, token.chars = c :: cs ∧ endsWord c = true := by
  cases token with
  | openArray | closeArray | openObject | closeObject | comma | colon =>
    exact ⟨_, _, rfl, rfl⟩
  | null | bool _ | number _ => exact Bool.noConfusion h
  | literal s => exact ⟨_, _, rfl, rfl⟩

theorem word?_chars {token : Token} (h : token.isWord = true) :
    Token.word? token.chars = some token := by
  cases token with
  | null => rfl
  | bool b => cases b <;> rfl
  | number n => exact Token.word?_text n
  | openArray | closeArray | openObject | closeObject | comma | colon | literal _ =>
    exact Bool.noConfusion h

/-- Of two tokens in a row, one at least must be no word. -/
theorem foldlM_chars_behind {token next : Token} (h : (token.isWord && next.isWord) = false)
    (found : List Token) :
    next.chars.foldlM step (behind token found) = some (behind next (token :: found)) := by
  rw [← foldlM_chars next (token :: found)]
  cases word : token.isWord with
  | false => simp only [behind, word, Bool.false_eq_true, if_false]
  | true =>
    rw [word, Bool.true_and] at h
    obtain ⟨c, cs, chars, ends⟩ := exists_chars h
    simp only [behind, word, if_true, chars, List.foldlM_cons, step, ends, List.reverse_reverse,
      word?_chars word, Option.map_some]

theorem finish?_behind (token : Token) (found : List Token) :
    (behind token found).finish? = some (token :: found).reverse := by
  cases word : token.isWord with
  | false => simp only [behind, word, Bool.false_eq_true, if_false, finish?]
  | true =>
    simp only [behind, word, if_true, finish?, List.reverse_reverse, word?_chars word,
      Option.map_some]

end Scan

def separated : List Token → Bool
  | token :: next :: rest => !(token.isWord && next.isWord) && separated (next :: rest)
  | _ => true

theorem Scan.foldlM_flatMap (tokens : List Token) (token : Token) (found : List Token)
    (h : separated (token :: tokens) = true) :
    ((tokens.flatMap Token.chars).foldlM Scan.step (Scan.behind token found)).bind Scan.finish? =
      some (found.reverse ++ token :: tokens) := by
  induction tokens generalizing token found with
  | nil =>
    rw [List.flatMap_nil, List.foldlM_nil]
    simp [Scan.finish?_behind]
  | cons next rest ih =>
    rw [separated, Bool.and_eq_true, Bool.not_eq_true'] at h
    rw [List.flatMap_cons, List.foldlM_append, Scan.foldlM_chars_behind h.1]
    simp only [Option.bind_eq_bind, Option.bind_some]
    rw [ih next (token :: found) h.2]
    simp

/-- Tokens without neighbouring words are read back from their characters. -/
theorem Token.ofChars?_flatMap_chars {tokens : List Token} (h : separated tokens = true) :
    Token.ofChars? (tokens.flatMap Token.chars) = some tokens := by
  cases tokens with
  | nil => rfl
  | cons token rest =>
    rw [Token.ofChars?, Scan.start, List.flatMap_cons, List.foldlM_append, Scan.foldlM_chars]
    simp only [Option.bind_eq_bind, Option.bind_some]
    rw [Scan.foldlM_flatMap rest token [] h]
    rfl

/-! ## Values -/

theorem separated_append {tokens rest : List Token} {mark : Token} (hmark : mark.isWord = false)
    (h : separated tokens = true) (hrest : separated (mark :: rest) = true) :
    separated (tokens ++ mark :: rest) = true := by
  induction tokens with
  | nil => exact hrest
  | cons token tokens ih =>
    cases tokens with
    | nil => simp [separated, hmark, hrest]
    | cons next tokens =>
      rw [separated, Bool.and_eq_true] at h
      rw [List.cons_append, List.cons_append, separated, Bool.and_eq_true]
      exact ⟨h.1, ih h.2⟩

theorem separated_cons {tokens : List Token} {mark : Token} (hmark : mark.isWord = false)
    (h : separated tokens = true) : separated (mark :: tokens) = true := by
  cases tokens with
  | nil => rfl
  | cons token tokens => simp [separated, hmark, h]

mutual

theorem Value.separated_tokens (v : Value) : separated v.tokens = true := by
  match v with
  | .null | .bool _ | .number _ | .literal _ => rfl
  | .array [] | .object [] => rfl
  | .array (item :: items) =>
    obtain ⟨mark, rest, tokens, word, h⟩ := Value.separated_itemTokens items
    rw [Value.tokens, tokens]
    exact separated_cons rfl (separated_append word item.separated_tokens h)
  | .object ((key, member) :: members) =>
    obtain ⟨mark, rest, tokens, word, h⟩ := Value.separated_memberTokens members
    rw [Value.tokens, tokens]
    exact separated_cons rfl (separated_cons rfl (separated_cons rfl
      (separated_append word member.separated_tokens h)))

theorem Value.separated_itemTokens (items : List Value) :
    ∃ mark rest, Value.itemTokens items = mark :: rest ∧ mark.isWord = false ∧
      separated (mark :: rest) = true := by
  match items with
  | [] => exact ⟨_, _, rfl, rfl, rfl⟩
  | item :: items =>
    obtain ⟨mark, rest, tokens, word, h⟩ := Value.separated_itemTokens items
    refine ⟨.comma, _, Value.itemTokens.eq_2 item items, rfl, ?_⟩
    rw [tokens]
    exact separated_cons rfl (separated_append word item.separated_tokens h)

theorem Value.separated_memberTokens (members : List (Literal × Value)) :
    ∃ mark rest, Value.memberTokens members = mark :: rest ∧ mark.isWord = false ∧
      separated (mark :: rest) = true := by
  match members with
  | [] => exact ⟨_, _, rfl, rfl, rfl⟩
  | (key, member) :: members =>
    obtain ⟨mark, rest, tokens, word, h⟩ := Value.separated_memberTokens members
    refine ⟨.comma, _, Value.memberTokens.eq_2 key member members, rfl, ?_⟩
    rw [tokens]
    exact separated_cons rfl (separated_cons rfl (separated_cons rfl
      (separated_append word member.separated_tokens h)))

end

/-- A text spells the value whose tokens it is made of. -/
theorem Value.ofText?_of_tokens {v : Value} {s : String} (h : Token.ofChars? s.toList = some v.tokens) :
    Value.ofText? s = some v := by
  rw [Value.ofText?, h, Option.bind_some, Value.ofTokens?_tokens]

/-- The written form of a value spells that value. -/
theorem Value.ofText?_text (v : Value) : Value.ofText? v.text = some v := by
  refine Value.ofText?_of_tokens ?_
  rw [Value.text, String.toList_ofList, Token.ofChars?_flatMap_chars v.separated_tokens]

end SchedProbe.Json
