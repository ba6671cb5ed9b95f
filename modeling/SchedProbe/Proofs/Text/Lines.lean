import Mathlib.Data.List.Basic

/-! The lines of an input: what its newlines cut it into, but for an empty piece behind the last one. -/

set_option autoImplicit false

namespace SchedProbe.Text

def pieces (bytes : List UInt8) : List (List UInt8) :=
  bytes.splitOn 0x0a

/-- The pieces of an input without the last one if that is empty. -/
def cutLines (bytes : List UInt8) : List (List UInt8) :=
  if (pieces bytes).getLast? = some [] then (pieces bytes).dropLast else pieces bytes

theorem cutLines_append (first rest : List UInt8) :
    cutLines (first ++ 0x0a :: rest) = pieces first ++ cutLines rest := by
  have filled : pieces rest ≠ [] := List.splitOn_ne_nil 0x0a rest
  have cut : pieces (first ++ 0x0a :: rest) = pieces first ++ pieces rest :=
    List.splitOn_append_cons_self first rest
  have last : (pieces first ++ pieces rest).getLast? = (pieces rest).getLast? := by
    rw [List.getLast?_append, Option.or_of_isSome (List.getLast?_isSome.2 filled)]
  rw [cutLines, cutLines, cut, last, List.dropLast_append_of_ne_nil filled]
  split <;> rfl

theorem cutLines_line {line : List UInt8} (whole : 0x0a ∉ line) (rest : List UInt8) :
    cutLines (line ++ 0x0a :: rest) = line :: cutLines rest := by
  rw [cutLines_append, pieces, List.splitOn_eq_singleton whole, List.singleton_append]

theorem cutLines_last {line : List UInt8} (whole : 0x0a ∉ line) (filled : line ≠ []) : cutLines line = [line] := by
  rw [cutLines, pieces, List.splitOn_eq_singleton whole, List.getLast?_singleton, if_neg]
  simpa using filled

/-- What comes behind a newline changes none of the lines before it. -/
theorem exists_cutLines_append (first rest : List UInt8) :
    ∃ more, cutLines (first ++ 0x0a :: rest) = cutLines first ++ more := by
  have whole : ∃ tail, pieces first = cutLines first ++ tail := by
    unfold cutLines
    split
    next last => exact ⟨[[]], (List.dropLast_append_getLast? [] last).symm⟩
    next => exact ⟨[], (List.append_nil _).symm⟩
  obtain ⟨tail, whole⟩ := whole
  exact ⟨tail ++ cutLines rest, by rw [cutLines_append, whole, List.append_assoc]⟩

end SchedProbe.Text
