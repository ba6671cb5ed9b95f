import SchedProbe.Proofs.Text.Columns
import SchedProbe.TimerTrace.Entry

/-! Lines of the timer trace tell their records. The value may follow the word of its kind without a space, but no
such word begins another one, so each is found where it ends; the name stands behind everything else. -/

set_option autoImplicit false

namespace SchedProbe.TimerTrace

/-! ## The columns of a line -/

def Tag.word : Tag → List Char
  | startTicks => "start".toList
  | startMicros => "ustart".toList
  | stopped => "stop".toList
  | fired => "fired".toList
  | finish => "end".toList
  | delta => "delta".toList
  | unknown _ => "oops".toList

/-- The spaces, but one, between number and word. -/
def Tag.gap : Tag → Nat
  | startTicks | startMicros | stopped | unknown _ => 1
  | fired | finish | delta => 19

def Tag.margin : Tag → Nat
  | startMicros => 0
  | startTicks => 1
  | stopped | unknown _ => 2
  | fired | delta => 4
  | finish => 6

def Tag.behindValue (name : List Char) : Tag → List Char
  | startTicks | startMicros | stopped => List.replicate 22 ' ' ++ name
  | fired | finish | delta => ' ' :: name
  | unknown word => " tag ".toList ++ ((Text.signedDecimal word.toInt).toList ++ ' ' :: ' ' :: name)

def Tag.columns (tag : Tag) (id : UInt16) (value : UInt32) (name : List Char) : List Char :=
  List.replicate (4 - (Text.decimal id.toNat).length) ' ' ++ (Nat.toDigits 10 id.toNat ++
    ' ' :: (List.replicate tag.gap ' ' ++ (tag.word ++
      (List.replicate (tag.margin + (8 - (Text.hex value.toNat).length)) ' ' ++ (Nat.toDigits 16 value.toNat ++
        ' ' :: tag.behindValue name)))))

theorem toList_columns (tag : Tag) (middle : String) {id : UInt16} {value : UInt32} {name : List Char} {back : String}
    (named : middle.toList = ' ' :: (List.replicate tag.gap ' ' ++ (tag.word ++ List.replicate tag.margin ' ')))
    (ended : back.toList = ' ' :: tag.behindValue name) :
    (Text.alignRight ' ' 4 (Text.decimal id.toNat) ++ middle ++
      Text.alignRight ' ' 8 (Text.hex value.toNat) ++ back).toList = tag.columns id value name := by
  simp only [Tag.columns, String.toList_append, Text.toList_alignRight, Text.toList_decimal, Text.toList_hex, named,
    ended, ← List.replicate_append_replicate, List.append_assoc, List.cons_append]

theorem toList_line (tags : TagSet) (names : Names) (record : TraceRecord) :
    (tags.line names record).toList =
      (tags.classify record.tag).columns record.id record.value (names.resolve record.id).toList := by
  obtain ⟨id, word, value⟩ := record
  have left : ∀ name : String, (Text.spaces 23 ++ name).toList = ' ' :: (List.replicate 22 ' ' ++ name.toList) := by
    intro name
    rw [String.toList_append, Text.toList_spaces]
    rfl
  have right : ∀ word : String, (Text.spaces 20 ++ word).toList = ' ' :: (List.replicate 19 ' ' ++ word.toList) := by
    intro word
    rw [String.toList_append, Text.toList_spaces]
    rfl
  have two : ∀ name : String, ("  " ++ name).toList = ' ' :: ' ' :: name.toList := fun name => String.toList_append
  unfold TagSet.line
  cases tags.classify word with
  | startTicks =>
    rw [← toList_columns .startTicks "  start " rfl (left _), ← String.append_assoc]
  | startMicros =>
    rw [← toList_columns .startMicros "  ustart" rfl (left _), ← String.append_assoc]
  | stopped =>
    rw [← toList_columns .stopped "  stop  " rfl (left _), ← String.append_assoc]
  | fired =>
    rw [← toList_columns .fired _ (right "fired    ") (two _), ← String.append_assoc, ← String.append_assoc]
  | finish =>
    rw [← toList_columns .finish _ (right "end      ") (two _), ← String.append_assoc, ← String.append_assoc]
  | delta =>
    rw [← toList_columns .delta _ (right "delta    ") (two _), ← String.append_assoc, ← String.append_assoc]
  | unknown word =>
    have tagged : ("  tag " ++ (Text.signedDecimal word.toInt ++ ("  " ++ names.resolve id))).toList =
        ' ' :: (Tag.unknown word).behindValue (names.resolve id).toList := by
      simp only [String.toList_append]
      rfl
    rw [← toList_columns (.unknown word) "  oops  " rfl tagged]
    simp only [String.append_assoc]

/-! ## Reading a line -/

def words : List (List Char) :=
  ["start".toList, "ustart".toList, "stop".toList, "fired".toList, "end".toList, "delta".toList, "oops".toList]

theorem Tag.word_mem_words (tag : Tag) : tag.word ∈ words := by
  cases tag with
  | unknown word => exact of_decide_eq_true rfl
  | startTicks | startMicros | stopped | fired | finish | delta => decide

/-- No word begins another one. -/
theorem words_prefixFree : ∀ word ∈ words, ∀ word' ∈ words, word <+: word' → word = word' := by
  decide

theorem Tag.word_unique {tag tag' : Tag} {rest rest' : List Char} (same : tag.word ++ rest = tag'.word ++ rest') :
    tag.word = tag'.word ∧ rest = rest' := by
  have words : tag.word = tag'.word := by
    have starts : tag.word <+: tag'.word ++ rest' := ⟨rest, same⟩
    have starts' : tag'.word <+: tag'.word ++ rest' := List.prefix_append _ _
    obtain shorter | shorter := List.prefix_or_prefix_of_prefix starts starts'
    · exact words_prefixFree _ tag.word_mem_words _ tag'.word_mem_words shorter
    · exact (words_prefixFree _ tag'.word_mem_words _ tag.word_mem_words shorter).symm
  rw [words] at same
  exact ⟨words, List.append_cancel_left same⟩

theorem Tag.solid_word (tag : Tag) : Text.Word tag.word := by
  have solid : ∀ word ∈ words, word ≠ [] ∧ ' ' ∉ word := by decide
  obtain ⟨nonempty, solid⟩ := solid _ tag.word_mem_words
  exact ⟨nonempty, solid⟩

theorem Tag.behindValue_injective {tag : Tag} {name name' : List Char}
    (same : tag.behindValue name = tag.behindValue name') : name = name' := by
  cases tag with
  | startTicks | startMicros | stopped => exact List.append_cancel_left same
  | fired | finish | delta => exact (List.cons.inj same).2
  | unknown word => exact (List.cons.inj (List.cons.inj (List.append_cancel_left (List.append_cancel_left same))).2).2

-- Kinds that share a word are one kind, but for unknown words, and those are shown behind the value.
theorem Tag.unique {tag tag' : Tag} {name name' : List Char} (word : tag.word = tag'.word)
    (behind : tag.behindValue name = tag'.behindValue name') : tag = tag' := by
  cases tag with
  | unknown raw =>
    cases tag' with
    | unknown raw' =>
      have numerals := (Text.firstWord_unique (Text.word_signedDecimal _) (Text.word_signedDecimal _)
        (List.append_cancel_left behind)).1
      rw [Int64.toInt_inj.1 (Text.signedDecimal_injective (String.toList_injective numerals))]
    | _ => exact absurd word (of_decide_eq_false rfl)
  | startTicks | startMicros | stopped | fired | finish | delta =>
    cases tag' with
    | _ => first | rfl | exact absurd word (of_decide_eq_false rfl)

theorem columns_unique {tag tag' : Tag} {id id' : UInt16} {value value' : UInt32} {name name' : List Char}
    (same : tag.columns id value name = tag'.columns id' value' name') :
    tag = tag' ∧ id = id' ∧ value = value' ∧ name = name' := by
  obtain ⟨-, numbers, line⟩ := Text.word_unique (Text.word_toDigits (by decide) (by decide) _)
    (Text.word_toDigits (by decide) (by decide) _) same
  have line := (Text.behindSpaces_unique tag.solid_word tag'.solid_word line).2
  obtain ⟨words, line⟩ := Tag.word_unique line
  obtain ⟨-, values, behind⟩ := Text.word_unique (Text.word_toDigits (by decide) (by decide) _)
    (Text.word_toDigits (by decide) (by decide) _) line
  obtain rfl := Tag.unique words behind
  have id : id.toNat = id'.toNat := Text.decimal_inj (congrArg String.ofList numbers)
  have value := congrArg (Text.numeralValue 16) values
  rw [Text.numeralValue_toDigits (by decide) (by decide), Text.numeralValue_toDigits (by decide) (by decide)] at value
  exact ⟨rfl, UInt16.toNat_inj.1 id, UInt32.toNat_inj.1 value, Tag.behindValue_injective behind⟩

def TagSet.word (tags : TagSet) : Tag → Int64
  | .startTicks => tags.startTicks
  | .startMicros => tags.startMicros
  | .stopped => tags.stopped
  | .fired => tags.fired
  | .finish => tags.finish
  | .delta => tags.delta
  | .unknown word => word

theorem TagSet.word_classify (tags : TagSet) (word : Int64) : tags.word (tags.classify word) = word := by
  unfold classify
  split
  next same => exact same.symm
  split
  next same => exact same.symm
  split
  next same => exact same.symm
  split
  next same => exact same.symm
  split
  next same => exact same.symm
  split
  next same => exact same.symm
  rfl

/-- Lines of one trace are equal only if their records and the names of these are: the line tells number, tag word
and value, whatever names the timers have, and even if kinds share a tag word. -/
theorem line_eq_line_iff (tags : TagSet) (names names' : Names) (record record' : TraceRecord) :
    tags.line names record = tags.line names' record' ↔
      record = record' ∧ names.resolve record.id = names'.resolve record.id := by
  constructor
  · intro same
    have line := congrArg String.toList same
    rw [toList_line, toList_line] at line
    obtain ⟨kinds, ids, values, names⟩ := columns_unique line
    have words : record.tag = record'.tag := by
      rw [← tags.word_classify record.tag, kinds, tags.word_classify]
    obtain ⟨id, tag, value⟩ := record
    obtain ⟨id', tag', value'⟩ := record'
    cases ids
    cases words
    cases values
    exact ⟨rfl, String.toList_injective names⟩
  · rintro ⟨rfl, named⟩
    rw [← String.toList_inj, toList_line, toList_line, named]

-- No space stands between the word and a value of eight digits.
example : TagSet.line ⟨1, 2, 3, 4, 5, 6⟩ (Names.empty.insert 7 "stop") ⟨7, 2, 0xdeadbeef⟩ =
    "   7  ustartdeadbeef                       stop/7" := by
  decide +kernel

end SchedProbe.TimerTrace
