import Mathlib.Data.List.TakeWhile
import SchedProbe.Text.Blank

/-! Blanks at the ends of a text. Without them a text becomes the one text that has no blank at either end and
differs from it by blanks in front and behind only. -/

set_option autoImplicit false

namespace SchedProbe.Text

variable {cs inner : List Char}

def Blank (cs : List Char) : Prop :=
  ∀ c ∈ cs, isBlank c = true

instance (cs : List Char) : Decidable (Blank cs) :=
  decidable_of_iff (cs.all isBlank = true) List.all_eq_true

structure Bare (cs : List Char) : Prop where
  front : ∀ c ∈ cs.head?, isBlank c = false
  back : ∀ c ∈ cs.getLast?, isBlank c = false

theorem isBlank_of_isDigit {c : Char} (digit : c.isDigit = true) : isBlank c = false := by
  have code : 48 ≤ c.toNat ∧ c.toNat ≤ 57 := by simpa [Char.isDigit, UInt32.le_iff_toNat_le] using digit
  have apart : ∀ range ∈ blankRanges, range.2 < 48 ∨ 57 < range.1 := by decide
  refine List.any_eq_false.2 fun range member => ?_
  have := apart range member
  rw [Bool.and_eq_true, decide_eq_true_eq, decide_eq_true_eq]
  omega

/-- What is left of a text without the blanks at its ends. -/
structure Trimmed (cs inner : List Char) : Prop where
  bare : Bare inner
  padded : ∃ front back, Blank front ∧ Blank back ∧ cs = front ++ inner ++ back

theorem dropWhile_isBlank (cs : List Char) :
    (∀ c ∈ (cs.dropWhile isBlank).head?, isBlank c = false) ∧
      ∃ front, Blank front ∧ cs = front ++ cs.dropWhile isBlank := by
  refine ⟨fun c first => ?_, cs.takeWhile isBlank, fun c => List.mem_takeWhile_imp,
    List.takeWhile_append_dropWhile.symm⟩
  have solid := List.head?_dropWhile_not isBlank cs
  rw [Option.mem_def.1 first] at solid
  exact solid

theorem dropWhile_isBlank_append {front : List Char} (blank : Blank front)
    (solid : ∀ c ∈ cs.head?, isBlank c = false) : (front ++ cs).dropWhile isBlank = cs := by
  rw [List.dropWhile_append_of_pos blank]
  cases cs with
  | nil => rfl
  | cons c cs => exact List.dropWhile_cons_of_neg (Bool.eq_false_iff.1 (solid c rfl))

theorem trimmed_trimChars (cs : List Char) : Trimmed cs (trimChars cs) := by
  obtain ⟨first, front, blankFront, whole⟩ := dropWhile_isBlank cs
  obtain ⟨last, back, blankBack, rest⟩ := dropWhile_isBlank (cs.dropWhile isBlank).reverse
  -- Behind the blanks in front stands what is left, and behind that the blanks at the end.
  have body : cs.dropWhile isBlank = trimChars cs ++ back.reverse := by
    rw [← List.reverse_reverse (cs.dropWhile isBlank), rest, List.reverse_append]
    rfl
  refine ⟨⟨fun c head => first c ?_, fun c final => last c ?_⟩, front, back.reverse, blankFront,
    fun c member => blankBack c (List.mem_reverse.1 member), ?_⟩
  · rw [body, List.head?_append, Option.mem_def.1 head]
    rfl
  · rw [trimChars, List.getLast?_reverse] at final
    exact final
  · rw [List.append_assoc, ← body, ← whole]

theorem trimChars_of_trimmed (trimmed : Trimmed cs inner) : trimChars cs = inner := by
  obtain ⟨bare, front, back, blankFront, blankBack, rfl⟩ := trimmed
  have blankBehind : Blank back.reverse := fun c member => blankBack c (List.mem_reverse.1 member)
  cases inner with
  | nil =>
    have blank : ∀ c ∈ front ++ [] ++ back, isBlank c = true := by
      intro c member
      rw [List.append_nil] at member
      exact (List.mem_append.1 member).elim (blankFront c) (blankBack c)
    rw [trimChars, List.dropWhile_eq_nil_iff.2 blank]
    rfl
  | cons c rest =>
    have body : (front ++ (c :: rest ++ back)).dropWhile isBlank = c :: rest ++ back :=
      dropWhile_isBlank_append blankFront bare.front
    have last : ∀ d ∈ (c :: rest).reverse.head?, isBlank d = false := by
      rw [List.head?_reverse]
      exact bare.back
    rw [trimChars, List.append_assoc, body, List.reverse_append, dropWhile_isBlank_append blankBehind last,
      List.reverse_reverse]

theorem trimChars_eq_iff : trimChars cs = inner ↔ Trimmed cs inner :=
  ⟨fun same => same ▸ trimmed_trimChars cs, trimChars_of_trimmed⟩

theorem trim_eq_iff (s word : String) : trim s = word ↔ Trimmed s.toList word.toList := by
  rw [← trimChars_eq_iff, trim, ← String.toList_inj, String.toList_ofList]

end SchedProbe.Text
