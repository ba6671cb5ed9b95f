/-! Columns: text filled up to a width, counted in characters. A text that is already as wide as its
column is kept whole. -/

set_option autoImplicit false

namespace SchedProbe.Text

def filler (fill : Char) (n : Nat) : String :=
  String.ofList (List.replicate n fill)

def spaces (n : Nat) : String :=
  filler ' ' n

def alignRight (fill : Char) (width : Nat) (s : String) : String :=
  filler fill (width - s.length) ++ s

def alignLeft (width : Nat) (s : String) : String :=
  s ++ spaces (width - s.length)

@[simp] theorem length_filler (fill : Char) (n : Nat) : (filler fill n).length = n := by
  simp [filler]

theorem length_alignRight (fill : Char) (width : Nat) (s : String) :
    (alignRight fill width s).length = max width s.length := by
  simp only [alignRight, String.length_append, length_filler]
  omega

end SchedProbe.Text
