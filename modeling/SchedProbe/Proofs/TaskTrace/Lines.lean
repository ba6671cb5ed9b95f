import SchedProbe.Proofs.Names
import SchedProbe.Proofs.TaskTrace.Isolation
import SchedProbe.Proofs.Text.Numerals
import SchedProbe.TaskTrace.Display

/-! Lines of the task trace tell their events. The columns before the name are found from the front, each a word
behind spaces; the run time, which stands behind a name that may hold anything, is found from the back. -/

set_option autoImplicit false

namespace SchedProbe.TaskTrace

/-! ## The run time at the end of a line -/

theorem toList_durationText (duration : Int) :
    (durationText duration).toList =
      (Text.signedHex duration).toList ++ ' ' :: '(' :: ((Text.signedDecimal duration).toList ++
        ',' :: ' ' :: ((Text.alignRight ' ' 5 (secondsText 3 duration)).toList ++ [')'])) := by
  have opened : " (".toList = [' ', '('] := rfl
  have parted : ", ".toList = [',', ' '] := rfl
  have closed : ")".toList = [')'] := rfl
  simp only [durationText, String.toList_append, opened, parted, closed, List.append_assoc, List.cons_append,
    List.nil_append]

theorem comma_not_mem_seconds (duration : Int) :
    ',' ∉ ' ' :: (Text.alignRight ' ' 5 (secondsText 3 duration)).toList := by
  have seconds : ',' ∉ (secondsText 3 duration).toList :=
    Text.not_mem_signed (by decide) (Text.not_mem_fixed (by decide) rfl _ _ _)
  exact List.not_mem_cons_of_ne_of_not_mem (by decide) (Text.not_mem_alignRight (by decide) seconds 5)

theorem parenthesis_not_mem_decimal (duration : Int) : '(' ∉ (Text.signedDecimal duration).toList :=
  Text.not_mem_signed (by decide) (Text.not_mem_decimal rfl _)

-- Seconds hold no comma and a decimal numeral holds no parenthesis, so the numeral stands between the last two.
theorem duration_unique {front front' : List Char} {duration duration' : Int}
    (same : front ++ (durationText duration).toList = front' ++ (durationText duration').toList) :
    duration = duration' ∧ front = front' := by
  have split : ∀ (front : List Char) (duration : Int), front ++ (durationText duration).toList =
      ((front ++ (Text.signedHex duration).toList ++ [' ']) ++ '(' :: (Text.signedDecimal duration).toList) ++
        ',' :: (' ' :: (Text.alignRight ' ' 5 (secondsText 3 duration)).toList) ++ [')'] := by
    intro front duration
    rw [toList_durationText]
    simp only [List.append_assoc, List.cons_append, List.nil_append]
  have cut := same
  rw [split, split] at cut
  obtain ⟨cut, -⟩ := Text.lastCut_unique (Text.unmarked (comma_not_mem_seconds duration))
    (Text.unmarked (comma_not_mem_seconds duration')) (beq_self_eq_true ',') (beq_self_eq_true ',')
    (List.append_cancel_right cut)
  obtain ⟨-, numerals⟩ := Text.lastCut_unique (Text.unmarked (parenthesis_not_mem_decimal duration))
    (Text.unmarked (parenthesis_not_mem_decimal duration')) (beq_self_eq_true '(') (beq_self_eq_true '(') cut
  obtain rfl := Text.signedDecimal_injective (String.toList_injective numerals)
  exact ⟨rfl, List.append_cancel_right same⟩

/-! ## The columns of a line -/

/-- The spaces, but one, between slot and time stamp: posts have a column of their own. -/
def Tag.gap : Tag → Nat
  | post => 39
  | run | finish | unknown _ => 2

def Tag.margin : Tag → Nat
  | post => 0
  | run | finish | unknown _ => 1

def Event.behindLabel (names : Names) (event : Event) : List Char :=
  let name := names.resolve event.record.id
  match event.tag with
  | .post | .run => name.toList
  | .finish => (Text.alignLeft 18 name).toList ++ ' ' :: ' ' :: (durationText (event.duration.getD 0)).toList
  | .unknown _ => name.toList ++ [' ', 'o', 'o', 'p', 's']

theorem toList_line (names : Names) (event : Event) :
    (event.line names).toList =
      List.replicate (3 - (Text.decimal event.slot).length) ' ' ++ (Nat.toDigits 10 event.slot ++
        ' ' :: (List.replicate event.tag.gap ' ' ++ ((timeColumn event.record.value).toList ++
          ' ' :: (List.replicate event.tag.margin ' ' ++ (event.tag.label.toList ++
            ' ' :: (List.replicate (5 - event.tag.label.length + event.tag.margin) ' ' ++
              event.behindLabel names)))))) := by
  have one : " ".toList = [' '] := rfl
  have two : "  ".toList = [' ', ' '] := rfl
  have three : "   ".toList = [' ', ' ', ' '] := rfl
  have oops : " oops".toList = [' ', 'o', 'o', 'p', 's'] := rfl
  have behind : ∀ n (cs : List Char), List.replicate n ' ' ++ ' ' :: cs = ' ' :: (List.replicate n ' ' ++ cs) := by
    intro n cs
    rw [← List.singleton_append, ← List.append_assoc, ← List.replicate_succ', List.replicate_succ]
    rfl
  have lead : ∀ rest, (leadColumns event).toList ++ rest =
      List.replicate (3 - (Text.decimal event.slot).length) ' ' ++ (Nat.toDigits 10 event.slot ++
        ' ' :: (List.replicate 2 ' ' ++ ((timeColumn event.record.value).toList ++
          ' ' :: (List.replicate 1 ' ' ++ (event.tag.label.toList ++
            ' ' :: (List.replicate (5 - event.tag.label.length + 1) ' ' ++ rest)))))) := by
    intro rest
    simp only [leadColumns, slotColumn, String.toList_append, Text.toList_alignRight, Text.toList_alignLeft,
      Text.toList_decimal, two, three, List.append_assoc, List.cons_append, List.nil_append, behind,
      List.replicate_succ, List.replicate_zero]
  cases kind : event.tag with
  | post =>
    have gap : List.replicate 40 ' ' = ' ' :: List.replicate 39 ' ' := rfl
    simp only [Event.line, kind, Event.behindLabel, slotColumn, String.toList_append, Text.toList_alignRight,
      Text.toList_alignLeft, Text.toList_spaces, Text.toList_decimal, one, gap, behind, Tag.gap, Tag.margin,
      List.replicate_zero, Nat.add_zero, List.append_assoc, List.cons_append, List.nil_append]
  | run =>
    simp only [Event.line, kind, Event.behindLabel, String.toList_append, lead, Tag.gap, Tag.margin]
  | finish =>
    simp only [Event.line, kind, Event.behindLabel, String.toList_append, lead, two, Tag.gap, Tag.margin,
      List.append_assoc, List.cons_append, List.nil_append]
  | unknown word =>
    simp only [Event.line, kind, Event.behindLabel, String.toList_append, lead, oops, Tag.gap, Tag.margin,
      List.append_assoc, List.cons_append]

theorem Tag.word_label (tag : Tag) : Text.Word tag.label.toList := by
  cases tag with
  | unknown word => exact Text.word_signedDecimal word.toInt
  | post | run | finish => exact ⟨by decide, by decide⟩

-- Numerals are made of digits and the sign, and each of the three words has a letter.
theorem Tag.label_injective {tag tag' : Tag} (same : tag.label = tag'.label) : tag = tag' := by
  have apart : ∀ (tag : Tag) (word : Int64), tag.label.toList.any (fun c => c != '-' && !c.isDigit) = true →
      tag.label ≠ (unknown word).label := by
    intro tag word letter numeral
    obtain ⟨c, member, odd⟩ := List.any_eq_true.1 letter
    rw [numeral] at member
    obtain rfl | digit := Text.mem_signedDecimal member
    · exact absurd odd (by decide)
    · rw [digit, Bool.not_true, Bool.and_false] at odd
      exact Bool.false_ne_true odd
  cases tag with
  | unknown word =>
    cases tag' with
    | unknown word' => rw [Int64.toInt_inj.1 (Text.signedDecimal_injective same)]
    | post | run | finish => exact absurd same.symm (apart _ word (by decide))
  | post | run | finish =>
    cases tag' with
    | unknown word => exact absurd same (apart _ word (by decide))
    | post | run | finish => first | rfl | exact absurd same (by decide)

/-! ## Reading a line -/

section Reading

variable {names : Names} {event event' : Event}

theorem columns_of_line (same : event.line names = event'.line names) :
    event.slot = event'.slot ∧ event.record.value = event'.record.value ∧ event.tag = event'.tag ∧
      event.behindLabel names = event'.behindLabel names := by
  have line := congrArg String.toList same
  rw [toList_line, toList_line] at line
  obtain ⟨-, slots, line⟩ := Text.word_unique (Text.word_toDigits (by decide) (by decide) _)
    (Text.word_toDigits (by decide) (by decide) _) line
  obtain ⟨-, times, line⟩ := Text.word_unique (Text.word_hexColumn 8 _) (Text.word_hexColumn 8 _) line
  obtain ⟨-, labels, line⟩ := Text.word_unique event.tag.word_label event'.tag.word_label line
  have slot : event.slot = event'.slot := Text.decimal_inj (congrArg String.ofList slots)
  have value : event.record.value.toNat = event'.record.value.toNat := by
    have denoted := congrArg (Text.numeralValue 16) times
    rwa [Text.numeralValue_hexColumn, Text.numeralValue_hexColumn] at denoted
  have tag : event.tag = event'.tag := Tag.label_injective (String.toList_injective labels)
  rw [tag] at line
  exact ⟨slot, UInt32.toNat_inj.1 value, tag, List.append_cancel_left line⟩

theorem behindLabel_unique (kind : event.tag = event'.tag)
    (same : event.behindLabel names = event'.behindLabel names) :
    event.record.id = event'.record.id ∧
      (event.tag = .finish → event.duration.getD 0 = event'.duration.getD 0) := by
  unfold Event.behindLabel at same
  rw [← kind] at same
  cases tag : event.tag with
  | post | run =>
    rw [tag] at same
    exact ⟨Names.resolve_injective (String.toList_injective same), nofun⟩
  | finish =>
    rw [tag] at same
    have between : ∀ name back : List Char, name ++ ' ' :: ' ' :: back = (name ++ [' ', ' ']) ++ back :=
      fun name back => (List.append_assoc name [' ', ' '] back).symm
    dsimp only at same
    rw [between _ (durationText _).toList, between _ (durationText _).toList] at same
    obtain ⟨duration, columns⟩ := duration_unique same
    have column := List.append_cancel_right columns
    rw [Text.toList_alignLeft, Text.toList_alignLeft] at column
    exact ⟨Names.id_of_padded column, fun _ => duration⟩
  | unknown word =>
    rw [tag] at same
    exact ⟨Names.resolve_injective (String.toList_injective (List.append_cancel_right same)), nofun⟩

end Reading

def TagSet.word (tags : TagSet) : Tag → Int64
  | .post => tags.post
  | .run => tags.run
  | .finish => tags.finish
  | .unknown word => word

theorem TagSet.word_classify (tags : TagSet) (word : Int64) : tags.word (tags.classify word) = word := by
  unfold classify
  split
  next post => exact post.symm
  split
  next run => exact run.symm
  split
  next finish => exact finish.symm
  rfl

/-- Lines of one trace are equal only if their events are: no name, whatever the labels hold, hides a column. -/
theorem line_eq_iff (tags : TagSet) (names : Names) (clock clock' : RunClock) (slot slot' : Nat)
    (record record' : TraceRecord) :
    (tags.step clock slot record).1.line names = (tags.step clock' slot' record').1.line names ↔
      (tags.step clock slot record).1 = (tags.step clock' slot' record').1 := by
  refine ⟨fun same => ?_, fun same => congrArg (Event.line names) same⟩
  obtain ⟨slots, values, kinds, behind⟩ := columns_of_line same
  obtain ⟨ids, durations⟩ := behindLabel_unique kinds behind
  simp only [step_event] at slots values kinds ids durations ⊢
  have words : record.tag = record'.tag := by
    rw [← tags.word_classify record.tag, kinds, tags.word_classify]
  obtain rfl := slots
  obtain rfl : record = record' := by
    cases record
    cases record'
    cases ids
    cases words
    cases values
    rfl
  by_cases finish : tags.classify record.tag = .finish
  · rw [if_pos finish, if_pos finish] at durations ⊢
    rw [Option.getD_some, Option.getD_some] at durations
    rw [durations finish]
  · rw [if_neg finish, if_neg finish]

end SchedProbe.TaskTrace
