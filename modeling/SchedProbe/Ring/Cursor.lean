/-! Ring order. The target fills a ring by storing at an index and then moving the index on by one, back to
zero after the last slot; the slot at the index is therefore the oldest. -/

set_option autoImplicit false

namespace SchedProbe.Ring

/-- Where the target would write next in a ring of `capacity` slots. Sizes and indices are 64-bit words. -/
structure Cursor where
  capacity : UInt64
  nextWrite : UInt64
  deriving DecidableEq, Repr

/-- The slots still to be visited, oldest first: `emitted` of them have been. -/
structure Slots where
  capacity : UInt64
  start : UInt64
  emitted : UInt64
  deriving DecidableEq, Repr

namespace Cursor

def clamp (capacity : UInt64) (index : Option UInt64) : Cursor :=
  match index with
  | some next => if next < capacity then ⟨capacity, next⟩ else ⟨capacity, 0⟩
  | none => ⟨capacity, 0⟩

/-- A cursor at a next-write index; one outside the ring restarts at slot zero. -/
def ofIndex (capacity next : UInt64) : Cursor :=
  clamp capacity (some next)

/-- The index that a captured number denotes: none if it is negative. -/
def index? (raw : Int64) : Option UInt64 :=
  if raw < 0 then none else some raw.toUInt64

def ofRaw (capacity : UInt64) (raw : Int64) : Cursor :=
  clamp capacity (index? raw)

def Misplaced (capacity : UInt64) (raw : Int64) : Prop :=
  capacity ≠ 0 ∧ ∀ next ∈ index? raw, capacity ≤ next

-- The instance is named, for a search may find one that goes through all words.
instance (capacity : UInt64) (raw : Int64) : Decidable (Misplaced capacity raw) :=
  @instDecidableAnd _ _ inferInstance (Option.decidableForallMem (index? raw))

-- Sums of words wrap, unless they are checked (see below). They can only in a ring of more than `2 ^ 63` slots,
-- which no memory holds.

def newest? (cursor : Cursor) : Option UInt64 :=
  if cursor.capacity = 0 then none
  else some ((cursor.nextWrite + cursor.capacity - 1) % cursor.capacity)

def slots (cursor : Cursor) : Slots :=
  ⟨cursor.capacity, cursor.nextWrite, 0⟩

end Cursor

namespace Slots

def left (slots : Slots) : UInt64 :=
  slots.capacity - slots.emitted

def slotAfter (slots : Slots) (k : Nat) : UInt64 :=
  (slots.start + (slots.emitted + UInt64.ofNat k)) % slots.capacity

def advance (slots : Slots) : Slots :=
  { slots with emitted := slots.emitted + 1 }

def next? (slots : Slots) : Option (UInt64 × Slots) :=
  if slots.capacity ≤ slots.emitted then none
  else some ((slots.start + slots.emitted) % slots.capacity, slots.advance)

def toList (slots : Slots) : List UInt64 :=
  if slots.capacity ≤ slots.emitted then []
  else (List.range slots.left.toNat).map slots.slotAfter

variable {slots : Slots}

theorem toNat_left (within : slots.emitted ≤ slots.capacity) :
    slots.left.toNat = slots.capacity.toNat - slots.emitted.toNat :=
  UInt64.toNat_sub_of_le _ _ within

theorem toNat_emitted_advance (unfinished : slots.emitted < slots.capacity) :
    slots.advance.emitted.toNat = slots.emitted.toNat + 1 := by
  have bound := slots.capacity.toNat_lt
  rw [UInt64.lt_iff_toNat_lt] at unfinished
  refine (UInt64.toNat_add ..).trans (Nat.mod_eq_of_lt ?_)
  change slots.emitted.toNat + 1 < 2 ^ 64
  omega

theorem toNat_left_advance (unfinished : slots.emitted < slots.capacity) :
    slots.advance.emitted ≤ slots.advance.capacity ∧ slots.left.toNat = slots.advance.left.toNat + 1 := by
  have emitted := toNat_emitted_advance unfinished
  rw [UInt64.lt_iff_toNat_lt] at unfinished
  have within : slots.advance.emitted ≤ slots.advance.capacity := by
    rw [UInt64.le_iff_toNat_le, emitted]
    exact unfinished
  rw [toNat_left within, emitted, toNat_left (UInt64.le_iff_toNat_le.2 (Nat.le_of_lt unfinished))]
  refine ⟨within, ?_⟩
  change slots.capacity.toNat - slots.emitted.toNat = slots.capacity.toNat - (slots.emitted.toNat + 1) + 1
  omega

theorem slotAfter_zero (slots : Slots) : slots.slotAfter 0 = (slots.start + slots.emitted) % slots.capacity := by
  rw [slotAfter, show UInt64.ofNat 0 = 0 from rfl, UInt64.add_zero]

theorem slotAfter_succ (slots : Slots) (k : Nat) : slots.slotAfter (k + 1) = slots.advance.slotAfter k := by
  rw [slotAfter, slotAfter, advance, Nat.add_comm, UInt64.ofNat_add, ← UInt64.add_assoc slots.emitted]
  rfl

theorem toList_of_le (within : slots.emitted ≤ slots.capacity) :
    slots.toList = (List.range slots.left.toNat).map slots.slotAfter := by
  rw [toList]
  split
  next finished =>
    rw [UInt64.le_iff_toNat_le] at finished
    rw [toNat_left within, Nat.sub_eq_zero_of_le finished]
    rfl
  next => rfl

/-- Visiting one slot takes the head off the list of slots left. -/
theorem toList_eq (slots : Slots) :
    slots.toList =
      match slots.next? with
      | none => []
      | some (slot, rest) => slot :: rest.toList := by
  rw [next?]
  by_cases finished : slots.capacity ≤ slots.emitted
  · rw [if_pos finished, toList, if_pos finished]
  · have unfinished := UInt64.not_le.1 finished
    obtain ⟨within, left⟩ := toNat_left_advance unfinished
    rw [if_neg finished, toList_of_le (UInt64.le_of_lt unfinished), left, List.range_succ_eq_map, List.map_cons,
      List.map_map, slotAfter_zero]
    refine congrArg (_ :: ·) ((List.map_congr_left fun k _ => ?_).trans (toList_of_le within).symm)
    exact slots.slotAfter_succ k

end Slots

/-! ## Checked arithmetic -/

/-- Where arithmetic on words stops when it is checked: at a sum or a difference that no word holds. -/
inductive Overflow where
  | sum | difference
  deriving DecidableEq, Repr

namespace Checked

def add (a b : UInt64) : Except Overflow UInt64 :=
  if a.toNat + b.toNat < UInt64.size then .ok (a + b) else .error .sum

def sub (a b : UInt64) : Except Overflow UInt64 :=
  if b ≤ a then .ok (a - b) else .error .difference

end Checked

def Cursor.checkedNewest (cursor : Cursor) : Except Overflow (Option UInt64) :=
  if cursor.capacity = 0 then .ok none
  else do
    let sum ← Checked.add cursor.nextWrite cursor.capacity
    let last ← Checked.sub sum 1
    return some (last % cursor.capacity)

def Slots.checkedNext (slots : Slots) : Except Overflow (Option (UInt64 × Slots)) :=
  if slots.capacity ≤ slots.emitted then .ok none
  else do
    let sum ← Checked.add slots.start slots.emitted
    let emitted ← Checked.add slots.emitted 1
    return some (sum % slots.capacity, { slots with emitted := emitted })

def Slots.checkedLeft (slots : Slots) : Except Overflow UInt64 :=
  Checked.sub slots.capacity slots.emitted

/-! ## Reading in order -/

def decode {α : Type} (capacity next : UInt64) (elementAt : UInt64 → α) : List α :=
  (Cursor.ofIndex capacity next).slots.toList.map elementAt

end SchedProbe.Ring
