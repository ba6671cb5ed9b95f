import SchedProbe.Names
import SchedProbe.Proofs.Text.Columns

/-! Display names. Whatever the labels, a name ends in the number of its id behind a character that is no
digit, so the name tells the id, with the spaces of a column behind it as well. What is in front of the number
tells the label, or that there is none. -/

set_option autoImplicit false

namespace SchedProbe.Names

def front : Option String → List Char
  | some label => label.toList ++ ['/']
  | none => ['t']

theorem toList_resolve (names : Names) (id : UInt16) :
    (names.resolve id).toList = front names.labels[id]? ++ Nat.toDigits 10 id.toNat := by
  unfold resolve
  cases names.labels[id]? with
  | some label =>
    dsimp only [front]
    rw [String.toList_append, String.toList_append, Text.toList_decimal]
    rfl
  | none =>
    dsimp only [front]
    rw [String.toList_append, Text.toList_decimal]
    rfl

/-- The front ends in a mark, which is no digit and tells a label from none. -/
theorem exists_front_eq (label : Option String) :
    ∃ before mark, (mark = '/' ∨ mark = 't') ∧ front label = before ++ [mark] := by
  cases label with
  | some label => exact ⟨label.toList, '/', .inl rfl, rfl⟩
  | none => exact ⟨[], 't', .inr rfl, rfl⟩

theorem front_injective {label label' : Option String} (same : front label = front label') : label = label' := by
  have mark := congrArg List.getLast? same
  cases label with
  | some label =>
    cases label' with
    | some label' => exact congrArg some (String.toList_injective (List.append_cancel_right same))
    | none => simp [front] at mark
  | none =>
    cases label' with
    | some label' => simp [front] at mark
    | none => rfl

/-- A name is a front, the mark `/` or `t`, and the number of the id. -/
theorem exists_toList_resolve (names : Names) (id : UInt16) :
    ∃ before mark, (mark = '/' ∨ mark = 't') ∧
      (names.resolve id).toList = before ++ mark :: Nat.toDigits 10 id.toNat := by
  obtain ⟨before, mark, ends, whole⟩ := exists_front_eq names.labels[id]?
  refine ⟨before, mark, ends, ?_⟩
  rw [toList_resolve, whole, List.append_assoc]
  rfl

-- Cut at the last character that is neither a digit nor a space: what is behind it begins with the number.
theorem id_of_padded {names names' : Names} {id id' : UInt16} {k k' : Nat}
    (same : (names.resolve id).toList ++ List.replicate k ' ' =
      (names'.resolve id').toList ++ List.replicate k' ' ') : id = id' := by
  have clean : ∀ (id : UInt16) (k : Nat), ∀ c ∈ Nat.toDigits 10 id.toNat ++ List.replicate k ' ',
      (!(c.isDigit || c == ' ')) = false := by
    intro id k c member
    obtain member | member := List.mem_append.1 member
    · rw [Text.isDigit_of_mem_decimal member]
      rfl
    · rw [List.eq_of_mem_replicate member]
      rfl
  have marked : ∀ {mark : Char}, mark = '/' ∨ mark = 't' → (!(mark.isDigit || mark == ' ')) = true := by
    rintro _ (rfl | rfl) <;> decide
  have digits : ∀ (id : UInt16) (k : Nat),
      (Nat.toDigits 10 id.toNat ++ List.replicate k ' ').filter Char.isDigit = Nat.toDigits 10 id.toNat := by
    intro id k
    have spaces : (List.replicate k ' ').filter Char.isDigit = [] := by simp
    rw [List.filter_append, spaces, List.append_nil]
    exact List.filter_eq_self.2 fun c => Text.isDigit_of_mem_decimal
  obtain ⟨front, mark, ends, whole⟩ := names.exists_toList_resolve id
  obtain ⟨front', mark', ends', whole'⟩ := names'.exists_toList_resolve id'
  rw [whole, whole', List.append_assoc, List.append_assoc, List.cons_append, List.cons_append] at same
  have behind := (Text.lastCut_unique (clean id k) (clean id' k') (marked ends) (marked ends') same).2
  have numbers := digits id k
  rw [behind, digits] at numbers
  exact UInt16.toNat_inj.1 (Text.decimal_inj (congrArg String.ofList numbers)).symm

theorem resolve_injective {names names' : Names} {id id' : UInt16}
    (same : names.resolve id = names'.resolve id') : id = id' := by
  have padded : (names.resolve id).toList ++ List.replicate 0 ' ' =
      (names'.resolve id').toList ++ List.replicate 0 ' ' := by rw [same]
  exact id_of_padded padded

/-- A display name tells which id it shows and which label that has, or that it has none. Different ids have
different names, whatever the labels, and no name made with a label is one made without. -/
theorem resolve_eq_resolve_iff (names names' : Names) (id id' : UInt16) :
    names.resolve id = names'.resolve id' ↔ id = id' ∧ names.labels[id]? = names'.labels[id']? := by
  constructor
  · intro same
    obtain rfl := resolve_injective same
    have whole := congrArg String.toList same
    rw [toList_resolve, toList_resolve] at whole
    exact ⟨rfl, front_injective (List.append_cancel_right whole)⟩
  · rintro ⟨rfl, label⟩
    refine String.toList_injective ?_
    rw [toList_resolve, toList_resolve, label]

end SchedProbe.Names
