import Mathlib.Data.List.DropRight
import SchedProbe.Proofs.Ring.Order

/-! The writer of a ring. The target stores at the next-write index and moves it on by one, back to zero
after the last slot; read oldest first, the ring holds the end of what it held and all that was written. -/

set_option autoImplicit false

namespace SchedProbe.Ring

structure Buffer (α : Type) where
  slots : Array α
  next : Nat
  next_lt : next < slots.size
  size_le : slots.size ≤ 2 ^ 63

namespace Buffer

variable {α : Type}

def write (buffer : Buffer α) (record : α) : Buffer α where
  slots := buffer.slots.set buffer.next record buffer.next_lt
  next := (buffer.next + 1) % buffer.slots.size
  next_lt := by
    rw [Array.size_set]
    exact Nat.mod_lt _ (Nat.zero_lt_of_lt buffer.next_lt)
  size_le := by
    rw [Array.size_set]
    exact buffer.size_le

def writeAll (buffer : Buffer α) (records : List α) : Buffer α :=
  records.foldl write buffer

def cursor (buffer : Buffer α) : Cursor :=
  Cursor.ofIndex (UInt64.ofNat buffer.slots.size) (UInt64.ofNat buffer.next)

/-- What a reader decodes, oldest first; `none` would be a slot outside the ring. -/
def read (buffer : Buffer α) : List (Option α) :=
  decode (UInt64.ofNat buffer.slots.size) (UInt64.ofNat buffer.next) fun slot =>
    buffer.slots[slot.toNat]?

theorem read_eq_rotate (buffer : Buffer α) :
    buffer.read = (buffer.slots.toList.rotate buffer.next).map some := by
  have inside : buffer.next < buffer.slots.toList.length := buffer.next_lt
  have rotated := decode_eq_rotate buffer.slots.toList inside buffer.size_le
  simp only [Array.getElem?_toList, Array.length_toList] at rotated
  exact rotated

theorem length_read (buffer : Buffer α) : buffer.read.length = buffer.slots.size := by
  rw [read_eq_rotate, List.length_map, List.length_rotate, Array.length_toList]

theorem size_write (buffer : Buffer α) (record : α) :
    (buffer.write record).slots.size = buffer.slots.size :=
  Array.size_set buffer.next_lt

-- The slot stored to is the oldest one; moving the index past it makes it the newest.
theorem rotate_set (items : List α) {n : Nat} (inside : n < items.length) (record : α) :
    (items.set n record).rotate (n + 1) = (items.rotate n).tail ++ [record] := by
  obtain ⟨before, old, after, rfl, rfl⟩ :
      ∃ before old after, items = before ++ old :: after ∧ n = before.length :=
    ⟨items.take n, items[n], items.drop (n + 1), by simp, by simp [Nat.le_of_lt inside]⟩
  have stored : (before ++ old :: after).set before.length record = (before ++ [record]) ++ after := by
    simp
  have moved : before.length + 1 = (before ++ [record]).length := by simp
  rw [stored, moved, List.rotate_append_length_eq, List.rotate_append_length_eq, List.cons_append,
    List.tail_cons, List.append_assoc]

/-- A write drops the oldest record and adds the newest. -/
theorem read_write (buffer : Buffer α) (record : α) :
    (buffer.write record).read = buffer.read.tail ++ [some record] := by
  have wrapped := List.rotate_mod (buffer.slots.toList.set buffer.next record) (buffer.next + 1)
  rw [List.length_set, Array.length_toList, rotate_set _ buffer.next_lt] at wrapped
  rw [read_eq_rotate, read_eq_rotate]
  simp only [write, Array.toList_set, wrapped, List.map_append, List.map_tail, List.map_cons, List.map_nil]

theorem read_writeAll (buffer : Buffer α) (records : List α) :
    (buffer.writeAll records).read = (buffer.read ++ records.map some).drop records.length := by
  induction records generalizing buffer with
  | nil => simp [writeAll]
  | cons record rest ih =>
    have filled : buffer.read ≠ [] := by
      rw [← List.length_pos_iff, length_read]
      exact Nat.zero_lt_of_lt buffer.next_lt
    calc (buffer.writeAll (record :: rest)).read
        = ((buffer.write record).read ++ rest.map some).drop rest.length := ih (buffer.write record)
      _ = (buffer.read ++ (record :: rest).map some).tail.drop rest.length := by
        rw [read_write, List.tail_append_of_ne_nil filled, List.append_assoc]
        rfl
      _ = (buffer.read ++ (record :: rest).map some).drop (record :: rest).length := by
        rw [← List.drop_one, List.drop_drop, List.length_cons, Nat.add_comm]

theorem newest?_write (buffer : Buffer α) (record : α) :
    (buffer.write record).cursor.newest? = some (UInt64.ofNat buffer.next) := by
  have inside := buffer.next_lt
  have index := toNat_ofNat_of_le (Nat.le_trans (Nat.le_of_lt inside) buffer.size_le)
  obtain ⟨cursor, same, fits, capacity, moved⟩ :=
    ofIndex_ofNat (buffer.write record).next_lt (buffer.write record).size_le
  obtain ⟨slot, newest, before⟩ := newest?_eq_some fits
  have back : slot.toNat = buffer.next := by
    rw [before, moved, capacity, size_write]
    change ((buffer.next + 1) % buffer.slots.size + buffer.slots.size - 1) % buffer.slots.size = buffer.next
    -- From slot zero the slot before is the last one, which is where a wrapping index came from.
    by_cases wraps : buffer.next + 1 = buffer.slots.size
    · rw [wraps, Nat.mod_self, Nat.zero_add, Nat.mod_eq_of_lt (by omega)]
      omega
    · rw [Nat.mod_eq_of_lt (a := buffer.next + 1) (by omega), Nat.add_right_comm, Nat.add_sub_cancel,
        Nat.add_mod_right, Nat.mod_eq_of_lt inside]
  rw [Buffer.cursor, same, newest, ← back, UInt64.ofNat_toNat]

theorem writeAll_concat (buffer : Buffer α) (records : List α) (last : α) :
    buffer.writeAll (records ++ [last]) = (buffer.writeAll records).write last := by
  simp only [writeAll, List.foldl_append, List.foldl_cons, List.foldl_nil]

/-- After any writes a reader gets, oldest first, the end of what the ring held followed by what was
written, one record a slot; and the newest slot is the one written last. -/
theorem read_after_writes (buffer : Buffer α) (records : List α) :
    none ∉ buffer.read ∧
    (buffer.writeAll records).read = (buffer.read ++ records.map some).rtake buffer.slots.size ∧
    ∀ last, (buffer.writeAll (records ++ [last])).cursor.newest? =
        some (UInt64.ofNat (buffer.writeAll records).next) ∧
      (buffer.writeAll (records ++ [last])).slots[(buffer.writeAll records).next]? = some last := by
  refine ⟨?_, ?_, fun last => ?_⟩
  · rw [read_eq_rotate]
    simp
  · rw [read_writeAll, List.rtake, List.length_append, List.length_map, length_read,
      Nat.add_sub_cancel_left]
  · rw [writeAll_concat]
    refine ⟨newest?_write _ last, ?_⟩
    exact Array.getElem?_set_self (buffer.writeAll records).next_lt

def behindLast : Buffer Nat where
  slots := #[20, 30, 10]
  next := 2
  next_lt := by decide
  size_le := by decide

-- Four records go over three slots, so the first of them is lost with all that the ring held.
theorem read_after_writes_wrapped :
    behindLast.read = [some 10, some 20, some 30] ∧
      (behindLast.writeAll [1, 2, 3, 4]).read = [some 2, some 3, some 4] ∧
      (behindLast.writeAll [1, 2, 3, 4]).cursor.newest? = some 2 ∧
      (behindLast.writeAll [1, 2, 3, 4]).slots = #[2, 3, 4] := by
  obtain ⟨-, kept, -⟩ := read_after_writes behindLast [1, 2, 3, 4]
  obtain ⟨-, -, newest⟩ := read_after_writes behindLast [1, 2, 3]
  exact ⟨by decide +kernel, kept.trans (by decide +kernel), (newest 4).1.trans (by decide +kernel),
    by decide +kernel⟩

end Buffer

end SchedProbe.Ring
