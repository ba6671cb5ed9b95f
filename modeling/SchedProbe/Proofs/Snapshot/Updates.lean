import SchedProbe.Snapshot.Basic

/-! Captures with one of their entries set. A scalar that is set is the one read under its symbol; no other
scalar and no array is read differently for it. -/

set_option autoImplicit false

namespace SchedProbe.Snapshot

variable {snapshot : Snapshot} {symbol other : Symbol} {value : Int64}

theorem scalar_withScalar_self : (snapshot.withScalar symbol value).scalar symbol = .ok value := by
  simp only [scalar, withScalar, Std.ExtTreeMap.getElem?_insert_self]

theorem scalar_withScalar_of_ne (apart : symbol ≠ other) :
    (snapshot.withScalar symbol value).scalar other = snapshot.scalar other := by
  have kept : (snapshot.scalars.insert symbol value)[other]? = snapshot.scalars[other]? := by
    rw [Std.ExtTreeMap.getElem?_insert, if_neg]
    exact fun same => apart (Std.LawfulEqCmp.eq_of_compare same)
  simp only [scalar, withScalar, kept]

/-- Where there is an array, a scalar of the same name makes no difference to it. -/
theorem array_withScalar {elements : Array Fields} (held : snapshot.array other = .ok elements) :
    (snapshot.withScalar symbol value).array other = .ok elements := by
  have found : snapshot.arrays[other]? = some elements := by
    unfold array at held
    split at held
    next found =>
      cases held
      exact found
    next =>
      split at held <;> cases held
  simp only [array, withScalar, found]

theorem array_of_length {size : Nat} (sized : snapshot.length symbol = .ok size) :
    ∃ elements, snapshot.array symbol = .ok elements ∧ elements.size = size := by
  unfold length at sized
  cases held : snapshot.array symbol with
  | error source =>
    rw [held] at sized
    cases sized
  | ok elements =>
    rw [held] at sized
    cases sized
    exact ⟨elements, rfl, rfl⟩

section Arrays

variable {size : Nat} (sized : snapshot.length other = .ok size)

include sized

theorem length_withScalar : (snapshot.withScalar symbol value).length other = .ok size := by
  obtain ⟨elements, held, rfl⟩ := array_of_length sized
  rw [length, array_withScalar held]
  rfl

theorem element_withScalar (index : Nat) :
    (snapshot.withScalar symbol value).element other index = snapshot.element other index := by
  obtain ⟨elements, held, -⟩ := array_of_length sized
  rw [element, element, array_withScalar held, held]

end Arrays

end SchedProbe.Snapshot
