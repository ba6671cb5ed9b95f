import SchedProbe.Proofs.Names
import SchedProbe.Proofs.Target.Capture
import SchedProbe.TimerTable.Inspect

/-! Rows of the timer table tell their timers. Number, flags and times are words behind spaces, found from the
front, so the name at the end of a row, which may hold anything, hides none of them. -/

set_option autoImplicit false

namespace SchedProbe.TimerTable

def Descriptor.flags (timer : Descriptor) : List Char :=
  [if timer.oneshot then 'O' else 'o', if timer.running then 'R' else 'r']

def rowWords (id : UInt16) (timer : Descriptor) : List (Nat × List Char) :=
  let number := (2 - (Text.decimal id.toNat).length + 2, Nat.toDigits 10 id.toNat)
  let time (word : UInt32) := (8 - (Text.hex word.toNat).length + 1, Nat.toDigits 16 word.toNat)
  [number, (3, timer.flags), time timer.t0, time timer.dt, time timer.firedMax]

theorem toList_row (names : Names) (id : UInt16) (timer : Descriptor) :
    (row names id timer).toList = Text.spaced (rowWords id timer) (' ' :: (names.resolve id).toList) := by
  have two : "  ".toList = [' ', ' '] := rfl
  have four : "    ".toList = [' ', ' ', ' ', ' '] := rfl
  have oneshot : (if timer.oneshot then "O" else "o").toList = [if timer.oneshot then 'O' else 'o'] := by
    cases timer.oneshot <;> rfl
  have running : (if timer.running then "R" else "r").toList = [if timer.running then 'R' else 'r'] := by
    cases timer.running <;> rfl
  have gap : List.replicate 3 ' ' = [' ', ' ', ' '] := rfl
  unfold row wordColumn
  simp only [rowWords, Descriptor.flags, Text.spaced, String.toList_append, Text.toList_alignRight,
    Text.toList_decimal, Text.toList_hex, two, four, oneshot, running, gap, List.foldr_cons, List.foldr_nil,
    List.replicate_succ, List.append_assoc, List.cons_append, List.nil_append]

theorem length_rowWords (id : UInt16) (timer : Descriptor) : (rowWords id timer).length = 5 :=
  rfl

theorem word_flags (timer : Descriptor) : Text.Word timer.flags := by
  rw [Descriptor.flags]
  cases timer.oneshot <;> cases timer.running <;> exact ⟨by decide, by decide⟩

theorem flags_injective {timer timer' : Descriptor} (same : timer.flags = timer'.flags) :
    timer.oneshot = timer'.oneshot ∧ timer.running = timer'.running := by
  rw [Descriptor.flags, Descriptor.flags] at same
  revert same
  generalize timer.oneshot = oneshot, timer.running = running, timer'.oneshot = oneshot', timer'.running = running'
  revert oneshot running oneshot' running'
  decide

theorem word_of_mem_rowWords (id : UInt16) (timer : Descriptor) :
    ∀ word ∈ rowWords id timer, Text.Word word.2 := by
  intro word member
  simp only [rowWords, List.mem_cons, List.not_mem_nil, or_false] at member
  obtain rfl | rfl | rfl | rfl | rfl := member
  · exact Text.word_toDigits (by decide) (by decide) _
  · exact word_flags timer
  · exact Text.word_toDigits (by decide) (by decide) _
  · exact Text.word_toDigits (by decide) (by decide) _
  · exact Text.word_toDigits (by decide) (by decide) _

theorem toDigits_word_injective {word word' : UInt32}
    (same : Nat.toDigits 16 word.toNat = Nat.toDigits 16 word'.toNat) : word = word' := by
  have denoted := congrArg (Text.numeralValue 16) same
  rw [Text.numeralValue_toDigits (by decide) (by decide),
    Text.numeralValue_toDigits (by decide) (by decide)] at denoted
  exact UInt32.toNat_inj.1 denoted

/-- A row tells the number of its timer and all that the table holds of it, under any names. -/
theorem row_unique {names names' : Names} {id id' : UInt16} {timer timer' : Descriptor}
    (same : row names id timer = row names' id' timer') : id = id' ∧ timer = timer' := by
  have line := congrArg String.toList same
  rw [toList_row, toList_row] at line
  have count : (rowWords id timer).length = (rowWords id' timer').length :=
    (length_rowWords id timer).trans (length_rowWords id' timer').symm
  obtain ⟨words, -⟩ :=
    Text.spaced_unique (word_of_mem_rowWords id timer) (word_of_mem_rowWords id' timer') count line
  simp only [rowWords, List.cons.injEq, Prod.mk.injEq] at words
  obtain ⟨⟨-, number⟩, ⟨-, flags⟩, ⟨-, t0⟩, ⟨-, dt⟩, ⟨-, firedMax⟩, -⟩ := words
  obtain ⟨oneshot, running⟩ := flags_injective flags
  refine ⟨UInt16.toNat_inj.1 (Text.decimal_inj (congrArg String.ofList number)), ?_⟩
  cases timer
  cases timer'
  cases toDigits_word_injective t0
  cases toDigits_word_injective dt
  cases toDigits_word_injective firedMax
  cases oneshot
  cases running
  rfl

/-! ## The table -/

variable (names : Names) (timers : List Descriptor)

theorem length_lines : (lines names timers).length = min timers.length 65536 + 1 := by
  rw [lines, List.length_cons, List.length_map, List.length_zipIdx, List.length_take, Nat.min_comm]
  rfl

/-- Behind the heading stand the timers that have an id, in order. -/
theorem getElem?_lines (index : Nat) : (lines names timers)[index + 1]? =
    (timers.take 65536)[index]?.map fun timer => row names (UInt16.ofNat index) timer := by
  rw [lines, List.getElem?_cons_succ, List.getElem?_map, List.getElem?_zipIdx, Option.map_map, Nat.zero_add]
  rfl

/-- If every timer has an id, the lines are the heading and a row for each. -/
theorem eq_lines_iff {shown : List String} (known : timers.length ≤ 65536) : shown = lines names timers ↔
    shown.length = timers.length + 1 ∧ shown[0]? = some heading ∧
      ∀ index (inside : index < timers.length),
        shown[index + 1]? = some (row names (UInt16.ofNat index) timers[index]) := by
  constructor
  · rintro rfl
    refine ⟨by rw [length_lines, Nat.min_eq_left known], rfl, fun index inside => ?_⟩
    rw [getElem?_lines, List.take_of_length_le known, List.getElem?_eq_getElem inside, Option.map_some]
  · rintro ⟨length, first, rows⟩
    refine List.ext_getElem? fun index => ?_
    cases index with
    | zero => exact first
    | succ index =>
      rw [getElem?_lines, List.take_of_length_le known]
      by_cases inside : index < timers.length
      · rw [rows index inside, List.getElem?_eq_getElem inside, Option.map_some]
      · rw [List.getElem?_eq_none (by omega), List.getElem?_eq_none (by omega), Option.map_none]

theorem row_congr {names names' : Names} {id : UInt16} (timer : Descriptor)
    (named : names.resolve id = names'.resolve id) : row names id timer = row names' id timer := by
  unfold row
  rw [named]

theorem take_of_lines {timers timers' : List Descriptor} (same : lines names timers = lines names timers') :
    timers.take 65536 = timers'.take 65536 := by
  refine List.ext_getElem? fun index => ?_
  have rows := congrArg (·[index + 1]?) same
  simp only [getElem?_lines] at rows
  cases shown : (timers.take 65536)[index]? with
  | none =>
    rw [shown, Option.map_none] at rows
    exact (Option.map_eq_none_iff.1 rows.symm).symm
  | some timer =>
    rw [shown, Option.map_some] at rows
    obtain ⟨timer', shown', same⟩ := Option.map_eq_some_iff.1 rows.symm
    rw [shown', (row_unique same).2]

/-- A warning takes nothing off the table. -/
theorem on_dump (snapshot : Snapshot) (timers : List Descriptor) :
    (dump names timers).on snapshot = .ok (lines names timers) := by
  unfold dump
  split <;> rfl

/-- The table has a row for each timer that has an id, behind its heading. A row hangs on the number, the state and
the name of its timer only, and the table tells the states of all timers that have an id, whatever their names. -/
theorem table_lossless :
    (lines names timers).length = min timers.length 65536 + 1 ∧
      (lines names timers)[0]? = some heading ∧
      (∀ index < 65536, (lines names timers)[index + 1]? =
        timers[index]?.map fun timer => row names (UInt16.ofNat index) timer) ∧
      (∀ (names' : Names) (timers' : List Descriptor) (index : Nat), timers[index]? = timers'[index]? →
        names.resolve (UInt16.ofNat index) = names'.resolve (UInt16.ofNat index) →
        (lines names timers)[index + 1]? = (lines names' timers')[index + 1]?) ∧
      ∀ timers', lines names timers = lines names timers' ↔
        timers.take 65536 = timers'.take 65536 ∧ min timers.length 65536 = min timers'.length 65536 := by
  refine ⟨length_lines names timers, rfl, fun index within => ?_, fun names' timers' index same named => ?_,
    fun timers' => ⟨fun same => ⟨take_of_lines names same, ?_⟩, fun same => ?_⟩⟩
  · rw [getElem?_lines, List.getElem?_take_of_lt within]
  · rw [getElem?_lines, getElem?_lines, List.getElem?_take, List.getElem?_take, same]
    exact Option.map_congr fun timer _ => row_congr timer named
  · have lengths := congrArg List.length same
    rw [length_lines, length_lines] at lengths
    exact Nat.succ.inj lengths
  · refine List.ext_getElem? fun index => ?_
    cases index with
    | zero => rfl
    | succ index => rw [getElem?_lines, getElem?_lines, same.1]

-- A label that looks like columns, two timers, and a table of more timers than there are ids.
theorem table_lossless_lookalike :
    let names := Names.ofList [(0, "oR       100")]
    let timers : List Descriptor := [⟨0x100, 0x400, 0x1f, false, true⟩, ⟨0, 0, 0, true, false⟩]
    0 < 65536 ∧
      (lines names timers)[1]? = some "   0    oR       100       400        1f  oR       100/0" ∧
      timers[1]? = (timers ++ timers)[1]? ∧ names.resolve (.ofNat 1) = Names.empty.resolve (.ofNat 1) ∧
      (lines names timers)[2]? = (lines Names.empty (timers ++ timers))[2]? ∧
      lines names timers ≠ lines names timers.reverse ∧
      (lines names (List.replicate 65539 ⟨0, 0, 0, false, false⟩)).length = 65537 := by
  intro names timers
  obtain ⟨-, -, shown, alike, told⟩ := table_lossless names timers
  have named : names.resolve (.ofNat 1) = Names.empty.resolve (.ofNat 1) := by decide +kernel
  refine ⟨by decide, (shown 0 (by decide)).trans (by decide +kernel), rfl, named,
    alike Names.empty (timers ++ timers) 1 rfl named, fun same => ?_, ?_⟩
  · exact absurd ((told _).1 same).1 (by decide)
  · rw [(table_lossless names _).1, List.length_replicate]
    rfl

end SchedProbe.TimerTable
