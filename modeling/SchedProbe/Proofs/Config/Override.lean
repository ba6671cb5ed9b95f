import SchedProbe.Config.Override
import SchedProbe.Proofs.Text.Blanks
import SchedProbe.Proofs.Text.Numerals

/-! The grammar of name overrides: a numeral of the id, the first equals sign of the text, and a label that is not
empty, with or without blanks around numeral and label. Main statement: the texts of the grammar are read as what they
say, and any other text is given back as it is in the error. -/

set_option autoImplicit false

namespace SchedProbe.NameOverride

variable {cs : List Char} {id : UInt16} {label : String}

/-- The numerals of an id: a plus sign or none, then decimal digits, with or without zeros in front. -/
inductive IdNumeral : List Char → UInt16 → Prop where
  | unsigned {digits : List Char} {id : UInt16} : Text.Denotes digits id.toNat → IdNumeral digits id
  | signed {digits : List Char} {id : UInt16} : Text.Denotes digits id.toNat → IdNumeral ('+' :: digits) id

/-- A text that gives a label to an id. -/
def Written (cs : List Char) (id : UInt16) (label : String) : Prop :=
  ∃ before after numeral, cs = before ++ '=' :: after ∧ '=' ∉ before ∧
    Text.Trimmed before numeral ∧ IdNumeral numeral id ∧ Text.Trimmed after label.toList ∧ label ≠ ""

/-! ## Ids -/

theorem denotes_idDigits_iff {n : Nat} :
    Text.Denotes (idDigits cs) n ↔ Text.Denotes cs n ∨ ∃ digits, cs = '+' :: digits ∧ Text.Denotes digits n := by
  have plus : ∀ {digits : List Char}, ¬ Text.Denotes ('+' :: digits) n :=
    fun denotes => Bool.noConfusion (denotes.decimal '+' List.mem_cons_self)
  unfold idDigits
  split
  next digits =>
    constructor
    · exact fun denotes => .inr ⟨digits, rfl, denotes⟩
    · rintro (denotes | ⟨_, ⟨rfl⟩, denotes⟩)
      · exact absurd denotes plus
      · exact denotes
  next other =>
    refine ⟨.inl, ?_⟩
    rintro (denotes | ⟨digits, rfl, -⟩)
    · exact denotes
    · exact absurd rfl (other digits)

theorem idNumeral_iff : IdNumeral cs id ↔ Text.Denotes (idDigits cs) id.toNat := by
  rw [denotes_idDigits_iff]
  constructor
  · rintro (denotes | denotes)
    · exact .inl denotes
    · exact .inr ⟨_, rfl, denotes⟩
  · rintro (denotes | ⟨digits, rfl, denotes⟩)
    · exact .unsigned denotes
    · exact .signed denotes

/-- A number is taken for an id exactly if it has a word of 16 bits. -/
theorem id?_eq_some_iff : id? cs = some id ↔ IdNumeral cs id := by
  rw [idNumeral_iff, ← Text.natural?_eq_some_iff, id?]
  cases Text.natural? (idDigits cs) with
  | none => simp
  | some n =>
    have word := id.toNat_lt
    dsimp only
    split
    next fits =>
      rw [Option.some.injEq, Option.some.injEq, ← UInt16.toNat_inj, UInt16.toNat_ofNat_of_lt' fits]
    next large =>
      refine iff_of_false (Option.some_ne_none id).symm fun same => large ?_
      rw [Option.some.inj same]
      exact word

/-! ## Whole overrides -/

section Cut

variable {before after : List Char} (cut : Text.cutAt (· == '=') cs = (before, some after))

include cut

theorem split?_eq_some_iff_of_cut : split? cs = some (id, label) ↔
    id? (Text.trimChars before) = some id ∧ Text.trimChars after = label.toList ∧ label ≠ "" := by
  rw [split?, cut]
  dsimp only
  split
  next number first rest read trimmed =>
    rw [read, trimmed, Option.some.injEq, Option.some.injEq, Prod.mk.injEq]
    refine and_congr_right fun _ => ⟨?_, fun given => ?_⟩
    · rintro rfl
      rw [String.toList_ofList]
      exact ⟨rfl, fun empty => List.cons_ne_nil first rest (String.ofList_eq_empty_iff.1 empty)⟩
    · rw [given.1, String.ofList_toList]
  next other =>
    refine iff_of_false (Option.some_ne_none _).symm ?_
    rintro ⟨read, trimmed, filled⟩
    obtain ⟨first, rest, characters⟩ := List.exists_cons_of_ne_nil (mt String.toList_eq_nil_iff.1 filled)
    exact other id first rest read (trimmed.trans characters)

theorem written_iff_of_cut : Written cs id label ↔
    IdNumeral (Text.trimChars before) id ∧ Text.Trimmed after label.toList ∧ label ≠ "" := by
  constructor
  · rintro ⟨before', after', numeral, whole, absent, trimmed, denotes, given⟩
    have again := Text.cutAt_eq_some_iff.2 ⟨whole, absent⟩
    rw [cut] at again
    cases again
    rw [Text.trimChars_of_trimmed trimmed]
    exact ⟨denotes, given⟩
  · rintro ⟨denotes, given⟩
    obtain ⟨whole, absent⟩ := Text.cutAt_eq_some_iff.1 cut
    exact ⟨before, after, _, whole, absent, Text.trimmed_trimChars before, denotes, given⟩

end Cut

theorem split?_eq_some_iff : split? cs = some (id, label) ↔ Written cs id label := by
  rcases cut : Text.cutAt (· == '=') cs with ⟨before, none | after⟩
  · refine iff_of_false (fun read => ?_) ?_
    · rw [split?, cut] at read
      cases read
    · rintro ⟨before', after', numeral, whole, absent, -⟩
      have again := Text.cutAt_eq_some_iff.2 ⟨whole, absent⟩
      rw [cut] at again
      cases again
  · rw [split?_eq_some_iff_of_cut cut, written_iff_of_cut cut, id?_eq_some_iff, Text.trimChars_eq_iff]

theorem ofText_eq_ok_iff {text : String} : ofText text = .ok (id, label) ↔ Written text.toList id label := by
  rw [← split?_eq_some_iff, ofText]
  cases split? text.toList with
  | none =>
    refine iff_of_false (fun read => ?_) (Option.some_ne_none _).symm
    cases read
  | some entry => rw [Except.ok.injEq, Option.some.injEq]

def Parses (text : String) : Prop :=
  ∃ entry, ofText text = .ok entry

instance (text : String) : Decidable (Parses text) :=
  match read : ofText text with
  | .ok entry => isTrue ⟨entry, read⟩
  | .error _ => isFalse fun ⟨_, parsed⟩ => by
    rw [read] at parsed
    cases parsed

theorem ofText_of_not_parses {text : String} (malformed : ¬ Parses text) :
    ofText text = .error (.badOverride text) := by
  unfold ofText
  split
  next entry found => exact absurd ⟨entry, by rw [ofText, found]⟩ malformed
  next => rfl

/-! ## Overrides with blanks -/

theorem IdNumeral.character {numeral : List Char} (denotes : IdNumeral numeral id) :
    ∀ c ∈ numeral, c = '+' ∨ c.isDigit = true := by
  intro c member
  cases denotes with
  | unsigned denotes => exact .inr (denotes.decimal c member)
  | signed denotes => exact (List.mem_cons.1 member).imp_right (denotes.decimal c)

theorem IdNumeral.solid {numeral : List Char} (denotes : IdNumeral numeral id) :
    ∀ c ∈ numeral, Text.isBlank c = false := by
  intro c member
  obtain rfl | digit := denotes.character c member
  · decide
  · exact Text.isBlank_of_isDigit digit

theorem idNumeral_decimal (id : UInt16) : IdNumeral (Text.decimal id.toNat).toList id := by
  rw [Text.toList_decimal]
  exact .unsigned (Text.natural?_eq_some_iff.1 (Text.natural?_toDigits id.toNat))

theorem written_padded {numeral front behind : List Char} (denotes : IdNumeral numeral id)
    (blankFront : Text.Blank front) (blankBehind : Text.Blank behind) {after : List Char}
    (trimmed : Text.Trimmed after label.toList) (filled : label ≠ "") :
    Written (front ++ numeral ++ behind ++ '=' :: after) id label := by
  have clean : ∀ {blanks : List Char}, Text.Blank blanks → '=' ∉ blanks :=
    fun blank member => Bool.noConfusion (blank '=' member)
  have bare : Text.Bare numeral := ⟨fun c first => denotes.solid c (List.mem_of_mem_head? first),
    fun c last => denotes.solid c (List.mem_of_getLast? last)⟩
  refine ⟨front ++ numeral ++ behind, after, numeral, rfl, ?_, ⟨bare, front, behind, blankFront, blankBehind, rfl⟩,
    denotes, trimmed, filled⟩
  rw [List.mem_append, List.mem_append, not_or, not_or]
  refine ⟨⟨clean blankFront, fun member => ?_⟩, clean blankBehind⟩
  obtain plus | digit := denotes.character '=' member
  · exact absurd plus (by decide)
  · exact absurd digit (by decide)

/-- Overrides are read by their grammar. A text of the grammar is read as what it says, any other text is an error
that gives it back as it is, and an id and a label with any blanks around them, whatever characters the label has
inside, are read back. -/
theorem ofText_by_grammar :
    (∀ text id label, ofText text = .ok (id, label) ↔ Written text.toList id label) ∧
    (∀ text error, ofText text = .error error ↔
      (∀ id label, ¬ Written text.toList id label) ∧ error = .badOverride text) ∧
    ∀ (id : UInt16) (label a b c d : String), Text.Blank a.toList → Text.Blank b.toList → Text.Blank c.toList →
      Text.Blank d.toList → Text.Bare label.toList → label ≠ "" →
      ofText (a ++ Text.decimal id.toNat ++ b ++ "=" ++ c ++ label ++ d) = .ok (id, label) := by
  refine ⟨fun text id label => ofText_eq_ok_iff, fun text error => ?_,
    fun id label a b c d blankA blankB blankC blankD bare filled => ?_⟩
  · by_cases parsed : Parses text
    · obtain ⟨⟨id, label⟩, read⟩ := parsed
      refine iff_of_false (fun failed => ?_) fun none => none.1 id label (ofText_eq_ok_iff.1 read)
      rw [read] at failed
      cases failed
    · rw [ofText_of_not_parses parsed, Except.error.injEq]
      exact ⟨fun same => ⟨fun id label written => parsed ⟨_, ofText_eq_ok_iff.2 written⟩, same.symm⟩,
        fun given => given.2.symm⟩
  · rw [ofText_eq_ok_iff]
    have mark : "=".toList = ['='] := rfl
    have written := written_padded (idNumeral_decimal id) blankA blankB
      ⟨bare, c.toList, d.toList, blankC, blankD, rfl⟩ filled
    simp only [String.toList_append, mark, List.append_assoc, List.singleton_append] at written ⊢
    exact written

-- A label with an equals sign and blanks inside, blanks of other kinds around, and a text with a sign and zeros
-- in front of the largest id; then texts that come close to an override.
theorem ofText_by_grammar_blanks :
    Text.Blank "\u2003".toList ∧ Text.Bare "a = b".toList ∧
      ofText ("\u2003" ++ Text.decimal 7 ++ " " ++ "=" ++ "\t" ++ "a = b" ++ "\u0085") = .ok (7, "a = b") ∧
      Written "+0065535=x".toList 65535 "x" ∧ (∀ id label, ¬ Written "65536=x".toList id label) ∧
      (∀ id label, ¬ Written "+ 3=x".toList id label) ∧ ∀ id label, ¬ Written "3=\u3000".toList id label := by
  obtain ⟨accepted, rejected, padded⟩ := ofText_by_grammar
  have blank : Text.Blank "\u2003".toList := by decide
  have bare : Text.Bare "a = b".toList := by
    refine ⟨fun c first => ?_, fun c last => ?_⟩
    · obtain rfl : 'a' = c := Option.some.inj first
      decide
    · obtain rfl : 'b' = c := Option.some.inj last
      decide
  refine ⟨blank, bare, padded 7 "a = b" "\u2003" " " "\t" "\u0085" blank (by decide) (by decide) (by decide) bare
    (by decide), (accepted _ _ _).1 (by decide), ?_, ?_, ?_⟩
  · exact ((rejected "65536=x" (.badOverride "65536=x")).1 (by decide)).1
  · exact ((rejected "+ 3=x" (.badOverride "+ 3=x")).1 (by decide)).1
  · exact ((rejected "3=\u3000" (.badOverride "3=\u3000")).1 (by decide)).1

end SchedProbe.NameOverride
