import Mathlib.Algebra.Group.Nat.Defs
import Mathlib.Data.List.Rotate
import SchedProbe.Ring.Cursor

/-! Ring order in natural numbers. In a ring of at most `2 ^ 63` slots no sum of words wraps, so a cursor
visits the slots from its index on modulo the capacity, and an array read by it comes out rotated. -/

set_option autoImplicit false

namespace SchedProbe.Ring

/-- A cursor at a slot of a ring in which sums of two indices fit a word. -/
structure Cursor.Fits (cursor : Cursor) : Prop where
  inside : cursor.nextWrite.toNat < cursor.capacity.toNat
  small : cursor.capacity.toNat ≤ 2 ^ 63

variable {α : Type} {cursor : Cursor}

theorem toNat_slotAfter (fits : cursor.Fits) {k : Nat} (left : k < cursor.capacity.toNat) :
    (cursor.slots.slotAfter k).toNat = (cursor.nextWrite.toNat + k) % cursor.capacity.toNat := by
  have := fits.inside
  have := fits.small
  have word : (UInt64.ofNat k).toNat = k := UInt64.toNat_ofNat_of_lt' (by
    rw [UInt64.size]
    omega)
  have sum : (cursor.nextWrite + UInt64.ofNat k).toNat = cursor.nextWrite.toNat + k := by
    rw [UInt64.toNat_add, word, Nat.mod_eq_of_lt (by omega)]
  rw [Slots.slotAfter, UInt64.toNat_mod, Cursor.slots, UInt64.zero_add, sum]

theorem toList_slots (cursor : Cursor) :
    cursor.slots.toList = (List.range cursor.capacity.toNat).map cursor.slots.slotAfter := by
  have count : cursor.slots.left = cursor.capacity := UInt64.sub_zero _
  rw [Slots.toList_of_le UInt64.zero_le, count]

theorem toNat_slots (fits : cursor.Fits) : cursor.slots.toList.map UInt64.toNat =
    (List.range cursor.capacity.toNat).map fun k =>
      (cursor.nextWrite.toNat + k) % cursor.capacity.toNat := by
  rw [toList_slots, List.map_map]
  exact List.map_congr_left fun k member => toNat_slotAfter fits (List.mem_range.1 member)

theorem toNat_ofNat_of_le {n : Nat} (small : n ≤ 2 ^ 63) : (UInt64.ofNat n).toNat = n :=
  UInt64.toNat_ofNat_of_lt' (by
    rw [UInt64.size]
    omega)

/-- An index inside the ring is kept as it is. -/
theorem ofIndex_ofNat {capacity next : Nat} (inside : next < capacity) (small : capacity ≤ 2 ^ 63) :
    ∃ cursor, Cursor.ofIndex (UInt64.ofNat capacity) (UInt64.ofNat next) = cursor ∧ cursor.Fits ∧
      cursor.capacity.toNat = capacity ∧ cursor.nextWrite.toNat = next := by
  have word := toNat_ofNat_of_le small
  have index := toNat_ofNat_of_le (Nat.le_trans (Nat.le_of_lt inside) small)
  have fits : Cursor.Fits ⟨UInt64.ofNat capacity, UInt64.ofNat next⟩ := by
    constructor <;> simp only [word, index] <;> assumption
  exact ⟨_, if_pos (UInt64.lt_iff_toNat_lt.2 fits.inside), fits, word, index⟩

/-- A ring is read at the slots from its index on, modulo its capacity. -/
theorem decode_toNat {capacity next : Nat} (inside : next < capacity) (small : capacity ≤ 2 ^ 63)
    (elementAt : Nat → α) :
    decode (UInt64.ofNat capacity) (UInt64.ofNat next) (fun slot => elementAt slot.toNat) =
      (List.range capacity).map fun k => elementAt ((next + k) % capacity) := by
  obtain ⟨cursor, same, fits, word, index⟩ := ofIndex_ofNat inside small
  have order := congrArg (List.map elementAt) (toNat_slots fits)
  simp only [word, index, List.map_map] at order
  rw [decode, same]
  exact order

theorem range_rotate (capacity n : Nat) :
    (List.range capacity).map (fun k => (n + k) % capacity) = (List.range capacity).rotate n := by
  refine List.ext_getElem (by simp) fun k inside _ => ?_
  simp only [List.getElem_map, List.getElem_range, List.getElem_rotate, List.length_range, Nat.add_comm]

theorem rotate_eq_map_range (items : List α) (n : Nat) :
    (List.range items.length).map (fun k => items[(n + k) % items.length]?) =
      (items.rotate n).map some := by
  refine List.ext_getElem (by simp) fun k within _ => ?_
  have bound : k < items.length := by simpa using within
  simp [List.getElem_rotate, Nat.add_comm n k, Nat.mod_lt _ (Nat.zero_lt_of_lt bound)]

/-- A list read as a ring comes out rotated to the next-write index. -/
theorem decode_eq_rotate (items : List α) {next : Nat} (inside : next < items.length)
    (small : items.length ≤ 2 ^ 63) :
    decode (UInt64.ofNat items.length) (UInt64.ofNat next) (fun slot => items[slot.toNat]?) =
      (items.rotate next).map some := by
  rw [decode_toNat inside small (items[·]?), rotate_eq_map_range]

/-- The slot that counts as the oldest, by the number read as the next-write index: slot zero when that
number is no slot. -/
def oldest (capacity : Nat) (raw : Int64) : Nat :=
  if 0 ≤ raw.toInt ∧ raw.toInt < capacity then raw.toInt.toNat else 0

def order (capacity : Nat) (raw : Int64) : List Nat :=
  (List.range capacity).map fun k => (oldest capacity raw + k) % capacity

theorem oldest_lt {capacity : Nat} (filled : 0 < capacity) (raw : Int64) :
    oldest capacity raw < capacity := by
  unfold oldest
  split
  · omega
  · exact filled

theorem length_order (capacity : Nat) (raw : Int64) : (order capacity raw).length = capacity := by
  rw [order, List.length_map, List.length_range]

theorem ofRaw_eq_ofIndex {capacity : Nat} (small : capacity ≤ 2 ^ 63) (raw : Int64) :
    Cursor.ofRaw (UInt64.ofNat capacity) raw =
      Cursor.ofIndex (UInt64.ofNat capacity) (UInt64.ofNat (oldest capacity raw)) := by
  have word := toNat_ofNat_of_le small
  have restart : Cursor.ofIndex (UInt64.ofNat capacity) 0 = ⟨UInt64.ofNat capacity, 0⟩ := by
    simp only [Cursor.ofIndex, Cursor.clamp, ite_self]
  by_cases negative : raw < 0
  · have below : ¬ (0 ≤ raw.toInt ∧ raw.toInt < capacity) := by
      have := Int64.lt_iff_toInt_lt.1 negative
      rw [Int64.toInt_zero] at this
      omega
    rw [oldest, if_neg below, Cursor.ofRaw, Cursor.index?, if_pos negative]
    exact restart.symm
  · have index : raw.toUInt64.toNat = raw.toInt.toNat := by
      rw [Int64.toNat_toUInt64_of_le (Int64.not_lt.1 negative), Int64.toNat_toInt]
    have above : 0 ≤ raw.toInt := by
      have := Int64.le_iff_toInt_le.1 (Int64.not_lt.1 negative)
      rwa [Int64.toInt_zero] at this
    rw [Cursor.ofRaw, Cursor.index?, if_neg negative]
    by_cases inside : raw.toInt < capacity
    · rw [oldest, if_pos ⟨above, inside⟩, ← index, UInt64.ofNat_toNat, Cursor.ofIndex]
    · have beyond : ¬ raw.toUInt64 < UInt64.ofNat capacity := by
        rw [UInt64.lt_iff_toNat_lt, index, word]
        omega
      rw [oldest, if_neg fun within => inside within.2]
      exact (if_neg beyond).trans restart.symm

/-- By whatever number it starts, a cursor visits the slots from the oldest on, modulo the capacity. -/
theorem toNat_slots_ofRaw {capacity : Nat} (small : capacity ≤ 2 ^ 63) (raw : Int64) :
    (Cursor.ofRaw (UInt64.ofNat capacity) raw).slots.toList.map UInt64.toNat = order capacity raw := by
  rw [ofRaw_eq_ofIndex small]
  obtain rfl | filled := Nat.eq_zero_or_pos capacity
  · rfl
  · obtain ⟨cursor, same, fits, word, index⟩ := ofIndex_ofNat (oldest_lt filled raw) small
    rw [same, toNat_slots fits, word, index, order]

/-- The newest slot is the one before the next-write index. -/
theorem newest?_eq_some (fits : cursor.Fits) : ∃ slot, cursor.newest? = some slot ∧
    slot.toNat = (cursor.nextWrite.toNat + cursor.capacity.toNat - 1) % cursor.capacity.toNat := by
  obtain ⟨inside, small⟩ := fits
  have filled : cursor.capacity ≠ 0 := by
    intro empty
    rw [empty, UInt64.toNat_zero] at inside
    omega
  have sum : (cursor.nextWrite + cursor.capacity).toNat =
      cursor.nextWrite.toNat + cursor.capacity.toNat := by
    rw [UInt64.toNat_add, Nat.mod_eq_of_lt (by omega)]
  -- The capacity is at least one, so taking one off the sum does not wrap below zero.
  have before : (cursor.nextWrite + cursor.capacity - 1).toNat =
      cursor.nextWrite.toNat + cursor.capacity.toNat - 1 := by
    rw [UInt64.toNat_sub_of_le _ _ (UInt64.le_iff_toNat_le.2 (by rw [sum, UInt64.toNat_one]; omega)),
      sum, UInt64.toNat_one]
  exact ⟨_, if_neg filled, by rw [UInt64.toNat_mod, before]⟩

end SchedProbe.Ring
