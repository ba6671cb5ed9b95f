/-! Cutting a text in two at a mark. -/

set_option autoImplicit false

namespace SchedProbe.Text

/-- The part of a text before the first character that `mark` accepts, and what follows that character
if there is one. -/
def cutAt (mark : Char → Bool) (cs : List Char) : List Char × Option (List Char) :=
  (cs.takeWhile (!mark ·), (cs.dropWhile (!mark ·)).tail?)

theorem cutAt_cons (mark : Char → Bool) (c : Char) (cs : List Char) :
    cutAt mark (c :: cs) =
      if mark c = true then ([], some cs) else (c :: (cutAt mark cs).1, (cutAt mark cs).2) := by
  by_cases h : mark c = true <;> simp [cutAt, h]

theorem cutAt_of_forall {mark : Char → Bool} {cs : List Char} (h : ∀ c ∈ cs, mark c = false) :
    cutAt mark cs = (cs, none) := by
  induction cs with
  | nil => rfl
  | cons c cs ih =>
    rw [cutAt_cons, ih fun d hd => h d (List.mem_cons_of_mem c hd)]
    simp [h c List.mem_cons_self]

/-- A text is cut at its first mark, whatever follows that. -/
theorem cutAt_append {mark : Char → Bool} {before : List Char} {c : Char} (after : List Char)
    (h : ∀ d ∈ before, mark d = false) (hc : mark c = true) :
    cutAt mark (before ++ c :: after) = (before, some after) := by
  induction before with
  | nil => rw [List.nil_append, cutAt_cons, if_pos hc]
  | cons d before ih =>
    rw [List.cons_append, cutAt_cons, ih fun e he => h e (List.mem_cons_of_mem d he)]
    simp [h d List.mem_cons_self]

end SchedProbe.Text
