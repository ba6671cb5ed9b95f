import SchedProbe.Proofs.Json.Members
import SchedProbe.Proofs.Json.Written
import SchedProbe.Snapshot.Codec

/-! Snapshots survive being written and read. Main statement: what is written for a snapshot, in any layout
of the text, is read back as that snapshot. -/

set_option autoImplicit false

namespace SchedProbe

open Json (Value)

theorem ByteOrder.ofValue?_name (order : ByteOrder) :
    ByteOrder.ofValue? (.ofText order.name) = some order := by
  rw [ofValue?, Value.ofText, Value.alternative?, Json.Literal.text?_ofText]
  cases order with
  | little => rfl
  | big => rfl

namespace Field

theorem plain_toValue (field : Field) (levels : Nat) : (field.toValue).plain (levels + 2) = true := by
  cases field with
  | int value =>
    have := value.le_toInt
    have := value.toInt_lt
    exact Value.plain_ofInt (by rw [UInt64.size]; omega) _
  | bool value => rfl
  | raw bytes signed order =>
    have byte : ∀ item ∈ bytes.map fun b : UInt8 => Value.ofInt b.toNat, item.plain levels = true := by
      intro item member
      obtain ⟨b, -, rfl⟩ := List.mem_map.1 member
      have := b.toNat_lt
      exact Value.plain_ofInt (by rw [UInt64.size]; omega) _
    refine Value.plain_ofMembers fun member held => ?_
    simp only [List.mem_cons, List.not_mem_nil, or_false] at held
    rcases held with rfl | rfl | rfl
    · exact Value.plain_array byte
    · rfl
    · exact Value.plain_ofText _ _

/-- A field keeps its form: none of the three is taken for another. -/
theorem ofValue?_toValue {around : Nat} (within : around + 2 ≤ Json.maxDepth) (field : Field) :
    ofValue? around field.toValue = some field := by
  have plain : field.toValue.plain (Json.maxDepth - around) = true := by
    have levels := field.plain_toValue (Json.maxDepth - around - 2)
    rwa [Nat.sub_add_cancel (by omega)] at levels
  unfold ofValue?
  rw [if_pos plain]
  cases field with
  | int value =>
    exact congrArg (Option.map int) (Value.int64?_ofInt value)
  | bool value => rfl
  | raw bytes signed order =>
    have members : (raw bytes signed order).toValue.members? ["bytes", "signed", "endian"] =
        some [("bytes", .array (bytes.map fun b => .ofInt b.toNat)), ("signed", .bool signed),
          ("endian", .ofText order.name)] :=
      Value.members?_ofMembers _ (by simp)
    refine (congrArg (Option.bind · rawOfMembers?) members).trans ?_
    simp [rawOfMembers?, List.lookup_cons, Json.fieldOr, Value.list?_map Value.byte?_ofInt,
      Value.bool?, ByteOrder.ofValue?_name]

end Field

namespace Fields

theorem ofValue?_toValue {around : Nat} (within : around + 3 ≤ Json.maxDepth) (fields : Fields) :
    ofValue? around fields.toValue = some fields :=
  Value.textMap?_ofMembers (Field.ofValue?_toValue within) fields

theorem arrayOfValue?_toValue (around : Nat) (within : around + 4 ≤ Json.maxDepth) (elements : Array Fields) :
    arrayOfValue? around (.array (elements.toList.map toValue)) = some elements := by
  rw [arrayOfValue?, Value.list?_map (ofValue?_toValue within), Option.map_some, Array.toArray_toList]

end Fields

namespace Snapshot

theorem ofValue?_toValue (snapshot : Snapshot) : ofValue? snapshot.toValue = some snapshot := by
  have fields : snapshot.toValue.record? ["scalars", "arrays"] = _ :=
    Value.members?_ofMembers _ (by simp)
  have scalars := Value.textMap?_ofMembers Value.int64?_ofInt snapshot.scalars
  have arrays := Value.textMap?_ofMembers (Fields.arrayOfValue?_toValue 2 (by decide)) snapshot.arrays
  simp only [ofValue?, fields]
  simp [Json.fieldOr, List.lookup_cons, scalars, arrays]

/-- What is written for a snapshot is read as that snapshot, and so a text that is read, written out and read
again comes to the same as the text itself. -/
theorem round_trip (complaint : String → String) :
    (∀ (snapshot : Snapshot) (text : String), Value.ofText? text = some snapshot.toValue →
        ofText complaint text = .ok snapshot) ∧
      (∀ snapshot : Snapshot, ofText complaint snapshot.toText = .ok snapshot) ∧
      ∀ text : String, ((ofText complaint text).bind fun read => ofText complaint read.toText) =
        ofText complaint text := by
  have written : ∀ (snapshot : Snapshot) (text : String), Value.ofText? text = some snapshot.toValue →
      ofText complaint text = .ok snapshot := by
    intro snapshot text spelled
    rw [ofText, spelled, Option.bind_some, ofValue?_toValue]
  have compact : ∀ snapshot : Snapshot, ofText complaint snapshot.toText = .ok snapshot :=
    fun snapshot => written snapshot _ (Value.ofText?_text snapshot.toValue)
  refine ⟨written, compact, fun text => ?_⟩
  cases ofText complaint text with
  | ok read => rw [Except.bind, compact read]
  | error reason => rw [Except.bind]

/-- The written form may be laid out in any way; this one holds all three forms of fields. -/
theorem round_trip_laidOut :
    let snapshot : Snapshot :=
      (Snapshot.empty.withScalar "a\nb" Int64.minValue).withArray "q"
        #[.ofNumbers [], (Fields.ofNumbers [("n", Int64.maxValue)]).insert "" (.raw [255, 0, 7] true .big)
          |>.insert "on" (.bool true)]
    let text :=
      "\x7b \"scalars\" : \x7b\"a\\nb\": -9223372036854775808\x7d,\r\n\t\"arrays\": " ++
        "\x7b\"q\": [\x7b\x7d, \x7b\"\": \x7b\"bytes\": [255, 0, 7], \"signed\": true, \"endian\": \"big\"\x7d, " ++
        "\"n\": 9223372036854775807, \"on\": true\x7d]\x7d\x7d "
    let complaint : String → String := fun _ => "expected value at line 1 column 1"
    Value.ofText? text = some snapshot.toValue ∧ ofText complaint text = .ok snapshot := by
  intro snapshot text complaint
  have written : Value.ofText? text = some snapshot.toValue :=
    Value.ofText?_of_tokens (by decide +kernel)
  exact ⟨written, (round_trip complaint).1 snapshot text written⟩

end Snapshot

end SchedProbe
