import SchedProbe.Proofs.Decimal
import SchedProbe.Proofs.TaskTrace.Durations
import SchedProbe.Proofs.TaskTrace.Lines

/-! The three columns of a run time. All of them are found from the back of a line and read by themselves: two tell
the run time exactly, the third one the nearest number of thousandths of a second. -/

set_option autoImplicit false

namespace SchedProbe

def thousandths (span : Int) : Int :=
  Json.Number.withSign (decide (span < 0))
    (Decimal.roundDiv (Decimal.significant 53 span.natAbs * 10 ^ 3) ticksPerSecond)

theorem fixed?_secondsText (width : Nat) (span : Int) :
    Text.fixed? 3 (Text.alignRight ' ' width (secondsText 3 span)).toList = some (thousandths span) :=
  Text.fixed?_signed (by decide) _ ticksPerSecond width span

section Exact

variable {span : Int} (exact : span.natAbs ≤ 2 ^ 53)

include exact

theorem nearestEven_thousandths : Decimal.NearestEven (1000 * span / 1024) (thousandths span) := by
  have sign : decide (1000 * span < 0) = decide (span < 0) := decide_eq_decide.2 (by omega)
  have magnitude : (1000 * span).natAbs = span.natAbs * 10 ^ 3 := by omega
  have rounded := Decimal.nearestEven_signed (1000 * span) (by decide : 0 < ticksPerSecond)
  rw [sign, magnitude, ticksPerSecond] at rounded
  rw [thousandths, Decimal.significant_of_le (by decide) exact, ticksPerSecond]
  push_cast at rounded
  exact rounded

/-- A tick is more than half a thousandth. -/
theorem thousandths_eq_zero : thousandths span = 0 ↔ span = 0 := by
  have scaled : Decimal.NearestEven ((1000 * span : Int) / (1024 : Nat)) (thousandths span) := by
    push_cast
    exact nearestEven_thousandths exact
  obtain ⟨near, -⟩ := (Decimal.nearestEven_div_iff (by decide)).1 scaled
  omega

end Exact

theorem thousandths_mono {span longer : Int} (exact : span.natAbs ≤ 2 ^ 53) (exact' : longer.natAbs ≤ 2 ^ 53)
    (le : span ≤ longer) : thousandths span ≤ thousandths longer := by
  refine (nearestEven_thousandths exact).mono (nearestEven_thousandths exact') ?_
  have le : (span : ℚ) ≤ longer := by exact_mod_cast le
  gcongr

theorem minus_mem_secondsText (places : Nat) (span : Int) : '-' ∈ (secondsText places span).toList ↔ span < 0 :=
  Text.minus_mem_signed (fun _ => Text.not_mem_fixed (by decide) rfl _ _ _) span

namespace TaskTrace

structure TimeColumns where
  hexadecimal : List Char
  decimal : List Char
  seconds : List Char

def timeColumns (duration : Int) : TimeColumns where
  hexadecimal := (Text.signedHex duration).toList
  decimal := (Text.signedDecimal duration).toList
  seconds := ' ' :: (Text.alignRight ' ' 5 (secondsText 3 duration)).toList

/-- The columns of the run time at the end of a line: in its last parentheses the seconds behind the last comma and
the decimal numeral before that, and the hexadecimal numeral as the last word before the parentheses. -/
def timeColumns? (line : List Char) : Option TimeColumns := do
  let (line, _) ← Text.cutLast? (· == ')') line
  let (line, seconds) ← Text.cutLast? (· == ',') line
  let (line, decimal) ← Text.cutLast? (· == '(') line
  let (line, _) ← Text.cutLast? (· == ' ') line
  let (_, hexadecimal) ← Text.cutLast? (· == ' ') line
  return ⟨hexadecimal, decimal, seconds⟩

/-- Whatever stands in front of it, a run time is taken apart into its columns. -/
theorem timeColumns?_append (front : List Char) (duration : Int) :
    timeColumns? (front ++ ' ' :: (durationText duration).toList) = some (timeColumns duration) := by
  have split : front ++ ' ' :: (durationText duration).toList =
      (((((front ++ ' ' :: (Text.signedHex duration).toList) ++ ' ' :: []) ++
        '(' :: (Text.signedDecimal duration).toList) ++
          ',' :: ' ' :: (Text.alignRight ' ' 5 (secondsText 3 duration)).toList) ++ ')' :: []) := by
    rw [toList_durationText]
    simp only [List.append_assoc, List.cons_append, List.nil_append]
  simp only [split, timeColumns?, Text.cutLast?_of_not_mem _ List.not_mem_nil,
    Text.cutLast?_of_not_mem _ (comma_not_mem_seconds duration),
    Text.cutLast?_of_not_mem _ (parenthesis_not_mem_decimal duration),
    Text.cutLast?_of_not_mem _ (Text.space_not_mem_signedHex duration), Option.bind_eq_bind, Option.bind_some]
  rfl

theorem timeColumns?_line (names : Names) {event : Event} {duration : Int} (finish : event.tag = .finish)
    (timed : event.duration = some duration) :
    timeColumns? (event.line names).toList = some (timeColumns duration) := by
  have spaced : "  ".toList = [' ', ' '] := rfl
  have ends : (event.line names).toList =
      ((leadColumns event).toList ++ (Text.alignLeft 18 (names.resolve event.record.id)).toList ++ [' ']) ++
        ' ' :: (durationText duration).toList := by
    simp only [Event.line, finish, timed, String.toList_append, spaced, Option.getD_some, List.append_assoc,
      List.cons_append, List.nil_append]
  rw [ends, timeColumns?_append]

theorem duration_events {tags : TagSet} {timing : RunTiming} {records : List (Nat × TraceRecord)} {event : Event}
    {duration : Int} (member : event ∈ tags.events timing records) (timed : event.duration = some duration) :
    duration.natAbs ≤ 2 ^ 53 := by
  obtain ⟨clock, slot, record, rfl⟩ := exists_step_of_mem tags member
  rw [step_event] at timed
  obtain ⟨-, rfl⟩ := by simpa only [Option.ite_none_right_eq_some, Option.some.injEq] using timed
  have bounds := clock.duration_bounds record.id record.value
  omega

theorem fixed?_seconds (duration : Int) : Text.fixed? 3 (timeColumns duration).seconds = some (thousandths duration) :=
  (Text.fixed?_space 3 _).trans (fixed?_secondsText 5 duration)

theorem minus_mem_seconds (duration : Int) : '-' ∈ (timeColumns duration).seconds ↔ duration < 0 := by
  rw [timeColumns, Text.toList_alignRight, ← minus_mem_secondsText 3]
  simp

/-- The line of an end shows its run time three times, and the three agree. Read from the back of the line, the
hexadecimal and the decimal numeral denote the run time, and the seconds, with three decimal places, a number that
hangs on the run time alone. Up to 53 binary digits, so for every run time that is measured, it is the nearest such
number with ties to even; it rises with the run time and is zero only if that is. A sign stands below zero only. -/
theorem timeColumns_agree :
    ∃ shown : Int → Int,
      (∀ duration : Int, duration.natAbs ≤ 2 ^ 53 →
        Decimal.NearestEven (1000 * duration / 1024) (shown duration) ∧ (shown duration = 0 ↔ duration = 0)) ∧
      (∀ duration longer : Int, duration.natAbs ≤ 2 ^ 53 → longer.natAbs ≤ 2 ^ 53 → duration ≤ longer →
        shown duration ≤ shown longer) ∧
      (∀ tags timing records, ∀ event ∈ TagSet.events tags timing records, ∀ duration ∈ event.duration,
        duration.natAbs ≤ 2 ^ 53) ∧
      ∀ (names : Names) (event : Event) (duration : Int), event.tag = .finish → event.duration = some duration →
        ∃ columns, timeColumns? (event.line names).toList = some columns ∧
          Text.hexadecimal? columns.hexadecimal = some duration ∧
          Json.Number.ofChars? columns.decimal = some (.integer duration) ∧
          Text.fixed? 3 columns.seconds = some (shown duration) ∧ ('-' ∈ columns.seconds ↔ duration < 0) := by
  refine ⟨thousandths, fun duration exact => ?_, ?_, ?_, fun names event duration finish timed => ?_⟩
  · exact ⟨nearestEven_thousandths exact, thousandths_eq_zero exact⟩
  · exact fun duration longer exact exact' le => thousandths_mono exact exact' le
  · exact fun tags timing records event member duration timed => duration_events member timed
  · exact ⟨timeColumns duration, timeColumns?_line names finish timed, Text.hexadecimal?_signedHex duration,
      Json.Number.ofChars?_text (.integer duration), fixed?_seconds duration, minus_mem_seconds duration⟩

-- A label that looks like a run time, and half way between two numbers of thousandths: the even one of them.
theorem timeColumns_agree_tie :
    let names := Names.empty.insert 1 "net (2, 0x5)"
    let event : Event := ⟨3, ⟨1, 2, 32⟩, .finish, some (-64)⟩
    event.line names = "  3   00000020  END    net (2, 0x5)/1      -0x40 (-64, -0.062)" ∧
      ∃ columns, timeColumns? (event.line names).toList = some columns ∧
        Text.hexadecimal? columns.hexadecimal = some (-64) ∧
        Json.Number.ofChars? columns.decimal = some (.integer (-64)) ∧ '-' ∈ columns.seconds ∧
        ∃ shown, Text.fixed? 3 columns.seconds = some shown ∧ Decimal.NearestEven (1000 * (-64 : Int) / 1024) shown ∧
          shown ≠ 0 := by
  intro names event
  obtain ⟨shown, rounded, -, -, lines⟩ := timeColumns_agree
  obtain ⟨columns, read, hexadecimal, decimal, seconds, sign⟩ := lines names event (-64) rfl rfl
  obtain ⟨nearest, zero⟩ := rounded (-64) (by norm_num)
  exact ⟨by decide +kernel, columns, read, hexadecimal, decimal, sign.2 (by decide), shown (-64), seconds, nearest,
    fun none => absurd (zero.1 none) (by decide)⟩

end TaskTrace

end SchedProbe
