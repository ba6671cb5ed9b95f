import SchedProbe.Json.Decoding
import SchedProbe.Json.RoundTrip

/-! Written data read back: numbers, lists and maps. A map is written as its entries in the order of their
keys, and inserting these one by one makes the map again. -/

set_option autoImplicit false

namespace SchedProbe.Json

variable {α κ : Type}

section Maps

variable [Ord κ] [Std.TransOrd κ]

theorem ofList_toList [Std.LawfulEqOrd κ] [BEq κ] [Std.LawfulBEqOrd κ] (map : Std.ExtTreeMap κ α) :
    Std.ExtTreeMap.ofList map.toList = map := by
  refine Std.ExtTreeMap.ext_getElem? fun key => ?_
  cases held : map[key]? with
  | some value =>
    exact Std.ExtTreeMap.getElem?_ofList_of_mem Std.ReflCmp.compare_self
      Std.ExtTreeMap.distinct_keys_toList (Std.ExtTreeMap.mem_toList_iff_getElem?_eq_some.2 held)
  | none =>
    refine Std.ExtTreeMap.getElem?_ofList_of_contains_eq_false ?_
    rw [Std.ExtTreeMap.map_fst_toList_eq_keys, Std.ExtTreeMap.contains_keys,
      Std.ExtTreeMap.contains_eq_isSome_getElem?, held, Option.isSome_none]

/-- Members that write the entries of a list are read by inserting these in order. -/
theorem foldlM_entries {readKey : Literal → Option κ} {writeKey : κ → Literal} {read : Value → Option α}
    {write : α → Value} (keyBack : ∀ key, readKey (writeKey key) = some key)
    (back : ∀ value, read (write value) = some value) (entries : List (κ × α))
    (start : Std.ExtTreeMap κ α) :
    (entries.map fun entry => (writeKey entry.1, write entry.2)).foldlM (fun map member => do
        let key ← readKey member.1
        let value ← read member.2
        return map.insert key value) start =
      some (entries.foldl (fun map entry => map.insert entry.1 entry.2) start) := by
  induction entries generalizing start with
  | nil => rfl
  | cons entry rest ih =>
    simp only [List.map_cons, List.foldlM_cons, keyBack, back, Option.bind_eq_bind, Option.bind_some,
      Option.pure_def, List.foldl_cons]
    exact ih _

end Maps

namespace Literal

theorem escape_of_isDigit {c : Char} (digit : c.isDigit = true) : escape c = [c] := by
  unfold escape
  split
  next letter short =>
    -- None of the characters with a short escape is a digit.
    unfold shortEscape? at short
    split at short
    case h_8 => cases short
    all_goals exact absurd digit (by decide)
  next =>
    have above : '0'.toNat ≤ c.toNat := (Char.isDigit_iff_toNat.1 digit).1
    exact if_neg (Nat.not_lt.2 (Nat.le_trans (by decide) above))

theorem written_decimal (n : Nat) : (ofText (Text.decimal n)).written = Nat.toDigits 10 n := by
  have unescaped : ∀ cs : List Char, (∀ c ∈ cs, c.isDigit = true) → cs.flatMap escape = cs := by
    intro cs digits
    induction cs with
    | nil => rfl
    | cons c cs ih =>
      obtain ⟨first, rest⟩ := List.forall_mem_cons.1 digits
      rw [List.flatMap_cons, escape_of_isDigit first, ih rest, List.singleton_append]
  simp only [ofText, Text.decimal, String.toList_ofList]
  exact unescaped _ fun c member => Nat.isDigit_of_mem_toDigits (by decide) (by decide) member

end Literal

namespace Value

theorem idKey?_decimal (id : UInt16) : idKey? (.ofText (Text.decimal id.toNat)) = some id := by
  have digits : Nat.toDigits 10 id.toNat = (Number.text (.integer id.toNat)).toList := by
    rw [Number.text, Number.toList_signedDecimal, if_neg (by omega), Int.natAbs_natCast]
  have holds : IntKind.u16.Holds id.toNat := by
    have := id.toNat_lt
    simp only [IntKind.Holds, IntKind.least, IntKind.greatest]
    omega
  rw [idKey?, Literal.written_decimal, digits, Number.ofChars?_text]
  dsimp only
  rw [if_pos holds, Int.toNat_natCast, UInt16.ofNat_toNat]

section

variable {read : Value → Option α} {write : α → Value} (back : ∀ value, read (write value) = some value)

include back

theorem textMap?_ofMembers (map : Std.ExtTreeMap String α) :
    (ofMembers (map.toList.map fun entry => (entry.1, write entry.2))).textMap? read = some map := by
  rw [ofMembers, List.map_map]
  refine (foldlM_entries Literal.text?_ofText back map.toList ∅).trans ?_
  rw [← Std.ExtTreeMap.ofList_eq_foldl, ofList_toList]

theorem idMap?_ofMembers (map : Std.ExtTreeMap UInt16 α) :
    (ofMembers (map.toList.map fun entry => (Text.decimal entry.1.toNat, write entry.2))).idMap? read =
      some map := by
  rw [ofMembers, List.map_map]
  refine (foldlM_entries idKey?_decimal back map.toList ∅).trans ?_
  rw [← Std.ExtTreeMap.ofList_eq_foldl, ofList_toList]

theorem list?_map (items : List α) : (array (items.map write)).list? read = some items := by
  rw [list?]
  induction items with
  | nil => rfl
  | cons item rest ih =>
    simp only [List.map_cons, List.mapM_cons, back, ih, Option.bind_eq_bind, Option.bind_some,
      Option.pure_def]

end

/-! ## Numbers and texts -/

theorem intWithin?_ofInt {least greatest n : Int} (within : least ≤ n ∧ n ≤ greatest) :
    (ofInt n).intWithin? least greatest = some n :=
  if_pos within

theorem int64?_ofInt (n : Int64) : (ofInt n.toInt).int64? = some n := by
  have within : IntKind.i64.least ≤ n.toInt ∧ n.toInt ≤ IntKind.i64.greatest := by
    have := n.le_toInt
    have := n.toInt_lt
    simp only [IntKind.least, IntKind.greatest]
    omega
  rw [int64?, intWithin?_ofInt within, Option.map_some, Int64.ofInt_toInt]

theorem byte?_ofInt (b : UInt8) : (ofInt b.toNat).byte? = some b := by
  have within : (0 : Int) ≤ b.toNat ∧ (b.toNat : Int) ≤ 255 := by
    have := b.toNat_lt
    omega
  rw [byte?, intWithin?_ofInt within, Option.map_some, Int.toNat_natCast, UInt8.ofNat_toNat]

theorem text?_ofText (s : String) : (ofText s).text? = some s :=
  Literal.text?_ofText s

end Value

/-! ## Values that are plain -/

theorem Number.finite_integer {n : Int} (word : n.natAbs < UInt64.size) : (integer n).finite = true := by
  have short : leadingWord n.natAbs 0 = (n.natAbs, 0) := by rw [leadingWord, if_pos word]
  have unit : Decimal.significant 53 (Nat.pow 10 (0 : Int).toNat) = 1 := by decide
  have rounded : Decimal.significant 53 n.natAbs < overflow :=
    Nat.lt_of_le_of_lt (Decimal.significant_le 53 n.natAbs)
      (Nat.lt_trans (Nat.mul_lt_mul_of_pos_left word Nat.two_pos) (by decide +kernel))
  simp only [finite, inRange, short, unit, Nat.mul_one, Bool.or_eq_true, Bool.and_eq_true, decide_eq_true_eq]
  exact .inr ⟨by decide, rounded⟩

namespace Value

theorem plainItems_eq_all (levels : Nat) (items : List Value) :
    plainItems levels items = items.all (plain levels) := by
  induction items with
  | nil => rfl
  | cons item rest ih => rw [plainItems, ih, List.all_cons]

theorem plain_ofInt {n : Int} (word : n.natAbs < UInt64.size) (levels : Nat) :
    (ofInt n).plain levels = true := by
  rw [ofInt, plain]
  exact Number.finite_integer word

theorem plain_ofText (s : String) (levels : Nat) : (ofText s).plain levels = true := by
  rw [ofText, plain, Literal.text?_ofText, Option.isSome_some]

theorem plain_array {levels : Nat} {items : List Value} (plain : ∀ item ∈ items, item.plain levels = true) :
    (array items).plain (levels + 1) = true := by
  rw [Value.plain, plainItems_eq_all, Nat.add_sub_cancel, List.all_eq_true.2 plain, Bool.and_true]
  exact decide_eq_true (Nat.succ_pos levels)

theorem plain_ofMembers {levels : Nat} {members : List (String × Value)}
    (plain : ∀ member ∈ members, member.2.plain levels = true) :
    (ofMembers members).plain (levels + 1) = true := by
  have each : plainMembers levels (members.map fun member => (.ofText member.1, member.2)) = true := by
    induction members with
    | nil => rfl
    | cons member rest ih =>
      obtain ⟨first, rest⟩ := List.forall_mem_cons.1 plain
      rw [List.map_cons, plainMembers, Literal.text?_ofText, first, ih rest]
      rfl
  rw [ofMembers, Value.plain, Nat.add_sub_cancel, each, Bool.and_true]
  exact decide_eq_true (Nat.succ_pos levels)

end Value

end SchedProbe.Json
