import Mathlib.Algebra.Group.Nat.Defs
import Mathlib.Logic.Function.Iterate
import SchedProbe.Proofs.Ring.Order

/-! Ring indices as machine words. The sums of indices that a cursor takes are those of the integers as long as
its index and its capacity have a word for their sum, which they have in any ring of at most `2 ^ 63` slots. In a
larger one checked arithmetic may stop, and arithmetic that wraps may visit slots out of order. -/

set_option autoImplicit false

namespace SchedProbe.Ring

theorem checkedAdd_ok {a b : UInt64} (fits : a.toNat + b.toNat < 2 ^ 64) : Checked.add a b = .ok (a + b) :=
  if_pos fits

theorem fits_of_checkedAdd {a b sum : UInt64} (added : Checked.add a b = .ok sum) :
    a.toNat + b.toNat < 2 ^ 64 := by
  unfold Checked.add at added
  split at added
  next fits => exact fits
  next => cases added

theorem checkedSub_ok {a b : UInt64} (most : b ≤ a) : Checked.sub a b = .ok (a - b) :=
  if_pos most

theorem toNat_ofNat_of_le_word {n : Nat} {word : UInt64} (most : n ≤ word.toNat) :
    (UInt64.ofNat n).toNat = n :=
  UInt64.toNat_ofNat_of_lt' (Nat.lt_of_le_of_lt most word.toNat_lt)

namespace Slots

def head? (slots : Slots) : Option UInt64 :=
  slots.next?.map Prod.fst

/-- What a call leaves. At the end it changes nothing. -/
def rest (slots : Slots) : Slots :=
  (slots.next?.map Prod.snd).getD slots

structure Exact (slots : Slots) : Prop where
  next : slots.checkedNext = .ok slots.next?
  left : slots.checkedLeft = .ok slots.left

theorem exact_of_fits {slots : Slots} (most : slots.emitted ≤ slots.capacity)
    (fits : slots.start.toNat + slots.capacity.toNat < 2 ^ 64) : slots.Exact := by
  refine ⟨?_, checkedSub_ok most⟩
  unfold checkedNext next?
  split
  next => rfl
  next going =>
    have word := slots.capacity.toNat_lt
    rw [UInt64.not_le, UInt64.lt_iff_toNat_lt] at going
    have sum : slots.start.toNat + slots.emitted.toNat < 2 ^ 64 := by omega
    have count : slots.emitted.toNat + (1 : UInt64).toNat < 2 ^ 64 := by
      rw [UInt64.toNat_one]
      omega
    rw [checkedAdd_ok sum, checkedAdd_ok count]
    rfl

theorem rest_of_emitted {capacity start : UInt64} {n : Nat} (most : n ≤ capacity.toNat) :
    rest ⟨capacity, start, UInt64.ofNat n⟩ =
      ⟨capacity, start, UInt64.ofNat (min (n + 1) capacity.toNat)⟩ := by
  have word := toNat_ofNat_of_le_word most
  by_cases ended : capacity.toNat ≤ n
  · have reached : capacity ≤ UInt64.ofNat n := by rwa [UInt64.le_iff_toNat_le, word]
    rw [rest, next?, if_pos reached, Nat.min_eq_right (Nat.le_succ_of_le ended), Nat.le_antisymm most ended]
    rfl
  · have going : ¬ capacity ≤ UInt64.ofNat n := by rwa [UInt64.le_iff_toNat_le, word]
    rw [rest, next?, if_neg going, Nat.min_eq_left (Nat.lt_of_not_le ended)]
    exact congrArg (Slots.mk capacity start) (UInt64.ofNat_add n 1).symm

end Slots

variable {cursor : Cursor}

/-- By induction on the calls: each but those behind the end counts one slot more. -/
theorem iterate_rest (cursor : Cursor) (calls : Nat) : Slots.rest^[calls] cursor.slots =
    ⟨cursor.capacity, cursor.nextWrite, UInt64.ofNat (min calls cursor.capacity.toNat)⟩ := by
  induction calls with
  | zero => rw [Nat.zero_min]; rfl
  | succ calls ih =>
    rw [Function.iterate_succ_apply', ih, Slots.rest_of_emitted (Nat.min_le_right ..)]
    congr 2
    omega

theorem toNat_emitted (cursor : Cursor) (calls : Nat) :
    (Slots.rest^[calls] cursor.slots).emitted.toNat = min calls cursor.capacity.toNat := by
  rw [iterate_rest, toNat_ofNat_of_le_word (Nat.min_le_right ..)]

/-- The slots of the calls, by the arithmetic of the words. -/
theorem head?_iterate_rest (cursor : Cursor) (calls : Nat) :
    (Slots.rest^[calls] cursor.slots).head?.map UInt64.toNat =
      if calls < cursor.capacity.toNat then
        some ((cursor.nextWrite.toNat + calls) % 2 ^ 64 % cursor.capacity.toNat)
      else none := by
  have emitted := toNat_emitted cursor calls
  rw [iterate_rest] at emitted ⊢
  dsimp only at emitted
  rw [Slots.head?, Slots.next?]
  simp only [UInt64.le_iff_toNat_le, emitted]
  by_cases left : calls < cursor.capacity.toNat
  · rw [if_pos left, if_neg (by omega), Option.map_some, Option.map_some, UInt64.toNat_mod, UInt64.toNat_add,
      emitted, Nat.min_eq_left (Nat.le_of_lt left)]
  · rw [if_neg left, if_pos (by omega)]
    rfl

/-- The slot written last, by the arithmetic of the words. -/
theorem newest?_eq (cursor : Cursor) : cursor.newest?.map UInt64.toNat =
    if cursor.capacity = 0 then none
    else some (((cursor.nextWrite.toNat + cursor.capacity.toNat) % 2 ^ 64 + (2 ^ 64 - 1)) % 2 ^ 64 %
      cursor.capacity.toNat) := by
  rw [Cursor.newest?]
  split
  next => rfl
  next =>
    rw [Option.map_some, UInt64.toNat_mod, UInt64.toNat_sub, UInt64.toNat_add, UInt64.toNat_one, Nat.add_comm]

/-! ## Cursors from an index -/

/-- The index is a slot of the ring, or there is none. -/
structure Cursor.Placed (capacity : UInt64) (cursor : Cursor) : Prop where
  size : cursor.capacity = capacity
  index : cursor.nextWrite.toNat < capacity.toNat ∨ capacity = 0 ∧ cursor.nextWrite = 0

theorem placed_clamp (capacity : UInt64) (index : Option UInt64) :
    (Cursor.clamp capacity index).Placed capacity := by
  have start : (⟨capacity, 0⟩ : Cursor).Placed capacity := by
    refine ⟨rfl, ?_⟩
    by_cases none : capacity = 0
    · exact .inr ⟨none, rfl⟩
    · exact .inl (UInt64.lt_iff_toNat_lt.1 (UInt64.pos_iff_ne_zero.2 none))
  cases index with
  | none => exact start
  | some next =>
    unfold Cursor.clamp
    dsimp only
    split
    next inside => exact ⟨rfl, .inl (UInt64.lt_iff_toNat_lt.1 inside)⟩
    next => exact start

/-- No sum and no difference of indices that a cursor and its slots take leaves the words, after any number of
calls. -/
structure Cursor.Exact (cursor : Cursor) : Prop where
  slots : ∀ calls, (Slots.rest^[calls] cursor.slots).Exact
  newest : cursor.checkedNewest = .ok cursor.newest?

theorem fits_of_checkedNewest {newest : Option UInt64} (filled : cursor.capacity ≠ 0)
    (checked : cursor.checkedNewest = .ok newest) : cursor.nextWrite.toNat + cursor.capacity.toNat < 2 ^ 64 := by
  rw [Cursor.checkedNewest, if_neg filled] at checked
  cases added : Checked.add cursor.nextWrite cursor.capacity with
  | error overflow =>
    rw [added] at checked
    cases checked
  | ok sum => exact fits_of_checkedAdd added

theorem checkedNewest_of_fits (fits : cursor.nextWrite.toNat + cursor.capacity.toNat < 2 ^ 64) :
    cursor.checkedNewest = .ok cursor.newest? := by
  unfold Cursor.checkedNewest Cursor.newest?
  split
  next => rfl
  next filled =>
    have positive := UInt64.lt_iff_toNat_lt.1 (UInt64.pos_iff_ne_zero.2 filled)
    have one : 1 ≤ cursor.nextWrite + cursor.capacity := by
      rw [UInt64.le_iff_toNat_le, UInt64.toNat_add, Nat.mod_eq_of_lt fits, UInt64.toNat_one]
      rw [UInt64.toNat_zero] at positive
      omega
    rw [checkedAdd_ok fits]
    change Checked.sub (cursor.nextWrite + cursor.capacity) 1 >>= _ = _
    rw [checkedSub_ok one]
    rfl

/-- The slots of a cursor are those of the integers modulo its capacity: from its index on, and the newest one
before it. -/
structure Cursor.Modular (cursor : Cursor) : Prop where
  inside : ∀ calls, ∀ slot ∈ (Slots.rest^[calls] cursor.slots).head?, slot < cursor.capacity
  slots : ∀ calls, (Slots.rest^[calls] cursor.slots).head?.map UInt64.toNat =
    if calls < cursor.capacity.toNat then
      some ((cursor.nextWrite.toNat + calls) % cursor.capacity.toNat)
    else none
  newest : cursor.newest?.map (fun slot => (slot.toNat : Int)) =
    if cursor.capacity = 0 then none
    else some (((cursor.nextWrite.toNat : Int) - 1) % (cursor.capacity.toNat : Int))

section Placed

variable {capacity : UInt64} (placed : cursor.Placed capacity)

include placed

theorem exact_iff : cursor.Exact ↔ cursor.nextWrite.toNat + capacity.toNat < 2 ^ 64 := by
  obtain ⟨rfl, index⟩ := placed
  constructor
  · intro exact
    obtain inside | ⟨none, start⟩ := index
    · refine fits_of_checkedNewest (fun none => ?_) exact.newest
      rw [none] at inside
      exact absurd inside (Nat.not_lt_zero _)
    · rw [none, start]
      decide
  · intro fits
    refine ⟨fun calls => ?_, checkedNewest_of_fits fits⟩
    have emitted := toNat_emitted cursor calls
    rw [iterate_rest] at emitted ⊢
    refine Slots.exact_of_fits ?_ fits
    rw [UInt64.le_iff_toNat_le, emitted]
    exact Nat.min_le_right ..

-- The call that reaches the sum `2 ^ 64` brings slot zero, which is the right one in a ring whose capacity divides
-- `2 ^ 64` only, and none of more than half as many slots does.
theorem fits_of_modular (modular : cursor.Modular) :
    cursor.nextWrite.toNat + capacity.toNat ≤ 2 ^ 64 := by
  obtain ⟨rfl, index⟩ := placed
  refine Nat.le_of_not_lt fun beyond => ?_
  have word := cursor.capacity.toNat_lt
  obtain ⟨calls, sum⟩ : ∃ calls, cursor.nextWrite.toNat + calls = 2 ^ 64 :=
    ⟨2 ^ 64 - cursor.nextWrite.toNat, by have := cursor.nextWrite.toNat_lt; omega⟩
  have left : calls < cursor.capacity.toNat := by omega
  have slot := modular.slots calls
  rw [head?_iterate_rest, if_pos left, if_pos left, sum, Nat.mod_self, Nat.zero_mod] at slot
  have large : 2 ^ 63 < cursor.capacity.toNat := by
    obtain inside | ⟨none, start⟩ := index
    · omega
    · rw [none, start, UInt64.toNat_zero] at beyond
      omega
  have wrapped : 2 ^ 64 % cursor.capacity.toNat = 2 ^ 64 - cursor.capacity.toNat := by
    rw [Nat.mod_eq_sub_mod (Nat.le_of_lt word), Nat.mod_eq_of_lt (by omega)]
  have none := Option.some.inj slot
  omega

theorem modular_of_fits (fits : cursor.nextWrite.toNat + capacity.toNat ≤ 2 ^ 64) : cursor.Modular := by
  obtain ⟨rfl, index⟩ := placed
  refine ⟨fun calls slot member => ?_, fun calls => ?_, ?_⟩
  · have visited := head?_iterate_rest cursor calls
    rw [Option.mem_def.1 member, Option.map_some] at visited
    split at visited
    next left =>
      rw [UInt64.lt_iff_toNat_lt, Option.some.inj visited]
      exact Nat.mod_lt _ (Nat.zero_lt_of_lt left)
    next => cases visited
  · rw [head?_iterate_rest]
    split
    next left =>
      have sum : (cursor.nextWrite.toNat + calls) % 2 ^ 64 = cursor.nextWrite.toNat + calls :=
        Nat.mod_eq_of_lt (by omega)
      rw [sum]
    next => rfl
  · have cast : cursor.newest?.map (fun slot => (slot.toNat : Int)) =
        (cursor.newest?.map UInt64.toNat).map Nat.cast := (Option.map_map _ _ _).symm
    rw [cast, newest?_eq]
    split
    next => rfl
    next filled =>
      have positive : 0 < cursor.capacity.toNat := UInt64.lt_iff_toNat_lt.1 (UInt64.pos_iff_ne_zero.2 filled)
      -- A sum of `2 ^ 64` wraps to zero, and back when one is taken off it.
      have before : ((cursor.nextWrite.toNat + cursor.capacity.toNat) % 2 ^ 64 + (2 ^ 64 - 1)) % 2 ^ 64 =
          cursor.nextWrite.toNat + cursor.capacity.toNat - 1 := by omega
      have turn : ((cursor.nextWrite.toNat + cursor.capacity.toNat - 1 : Nat) : Int) =
          (cursor.nextWrite.toNat : Int) - 1 + cursor.capacity.toNat := by omega
      rw [before, Option.map_some, Int.natCast_emod, turn, Int.add_emod_right]

end Placed

def Cursor.MadeFor (capacity : UInt64) (cursor : Cursor) : Prop :=
  (∃ next, cursor = Cursor.ofIndex capacity next) ∨ ∃ raw, cursor = Cursor.ofRaw capacity raw

theorem placed_of_madeFor {capacity : UInt64} (made : cursor.MadeFor capacity) : cursor.Placed capacity := by
  obtain ⟨next, rfl⟩ | ⟨raw, rfl⟩ := made
  · exact placed_clamp capacity (some next)
  · exact placed_clamp capacity (Cursor.index? raw)

/-- The arithmetic on ring indices stays within the words exactly if index and capacity have a word for their
sum, and yields the slots of the integers exactly if that sum is no more than `2 ^ 64`; both are so in any ring of
at most `2 ^ 63` slots, wherever it is entered and however often it is asked. -/
theorem indexArithmetic_exact_iff (capacity : UInt64) (cursor : Cursor) (made : cursor.MadeFor capacity) :
    (cursor.Exact ↔ cursor.nextWrite.toNat + capacity.toNat < 2 ^ 64) ∧
      (cursor.Modular ↔ cursor.nextWrite.toNat + capacity.toNat ≤ 2 ^ 64) ∧
      (capacity.toNat ≤ 2 ^ 63 → cursor.Exact ∧ cursor.Modular) := by
  have placed := placed_of_madeFor made
  have exactly := exact_iff placed
  refine ⟨exactly, ⟨fits_of_modular placed, modular_of_fits placed⟩, fun small => ?_⟩
  have fits : cursor.nextWrite.toNat + capacity.toNat < 2 ^ 64 := by
    obtain inside | ⟨none, start⟩ := placed.index
    · omega
    · rw [none, start]
      decide
  exact ⟨exactly.2 fits, modular_of_fits placed (Nat.le_of_lt fits)⟩

-- The largest ring in which no index makes a sum wrap, entered at its last slot; and the largest of all, entered
-- at its first by a number that is no index.
theorem indexArithmetic_exact_largest :
    let half := Cursor.ofIndex 0x8000000000000000 0x7fffffffffffffff
    let whole := Cursor.ofRaw 0xffffffffffffffff (-1)
    half.MadeFor 0x8000000000000000 ∧ half.nextWrite = 0x7fffffffffffffff ∧ half.Exact ∧ half.Modular ∧
      whole.MadeFor 0xffffffffffffffff ∧ whole.Exact ∧ whole.Modular := by
  intro half whole
  have made : half.MadeFor 0x8000000000000000 := .inl ⟨_, rfl⟩
  have made' : whole.MadeFor 0xffffffffffffffff := .inr ⟨_, rfl⟩
  obtain ⟨-, -, always⟩ := indexArithmetic_exact_iff _ half made
  obtain ⟨exactly, modular, -⟩ := indexArithmetic_exact_iff _ whole made'
  obtain ⟨exactHalf, modularHalf⟩ := always (by decide)
  exact ⟨made, by decide, exactHalf, modularHalf, made', exactly.2 (by decide), modular.2 (by decide)⟩

/-- In the largest ring of all, entered at its last slot, both sums leave the words. Where they wrap, the third
slot visited is slot zero once more instead of the one behind it, and the newest slot comes out one too low. -/
theorem indexArithmetic_overflows :
    let cursor := Cursor.ofIndex 0xffffffffffffffff 0xfffffffffffffffe
    let calls := (List.range 3).map fun calls => Slots.rest^[calls] cursor.slots
    cursor.MadeFor 0xffffffffffffffff ∧ ¬ cursor.Exact ∧ ¬ cursor.Modular ∧
      cursor.checkedNewest = .error .sum ∧ calls.getLast?.map Slots.checkedNext = some (.error .sum) ∧
      cursor.newest? = some 0xfffffffffffffffc ∧
      calls.map Slots.head? = [some 0xfffffffffffffffe, some 0, some 0] := by
  intro cursor calls
  have made : cursor.MadeFor 0xffffffffffffffff := .inl ⟨_, rfl⟩
  have placed := placed_of_madeFor made
  refine ⟨made, fun exact => ?_, fun modular => ?_, by decide, by decide, by decide, by decide⟩
  · exact absurd ((exact_iff placed).1 exact) (by decide)
  · exact absurd (fits_of_modular placed modular) (by decide)

end SchedProbe.Ring
