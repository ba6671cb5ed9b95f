import SchedProbe.Target.Error

/-! One field of a captured record, in any of the forms a capture holds, and the number it denotes. -/

set_option autoImplicit false

namespace SchedProbe

inductive ByteOrder where
  | little | big
  deriving DecidableEq, Repr

/-- A captured field: a number, a flag, or bytes as they stood in memory. -/
inductive Field where
  | int (value : Int64)
  | bool (value : Bool)
  | raw (bytes : List UInt8) (signed : Bool) (order : ByteOrder)
  deriving DecidableEq, Repr

def supportedWidths : List Nat := [1, 2, 4, 8]

/-- Narrow a value to an integer kind; `what` names the value in the error. -/
def narrow (kind : IntKind) (what : String) (value : Int64) : Except AccessError Int :=
  if kind.Holds value.toInt then .ok value.toInt else .error (.valueOutOfRange what value kind)

/-- The bytes of a word, the most significant first, that no more than eight bytes widen to. -/
def ByteOrder.widen (order : ByteOrder) (bytes : List UInt8) : List UInt8 :=
  let word := List.replicate 8 0
  match order with
  | big => word.take (8 - bytes.length) ++ bytes
  | little => bytes.zipIdx.foldl (fun word entry => word.set (7 - entry.2) entry.1) word

def wordOfBytes (bytes : List UInt8) : UInt64 :=
  bytes.foldl (fun word byte => word <<< 8 ||| byte.toUInt64) 0

/-- The number in a raw field. A signed one is extended from the top bit of its own width. -/
def decodeRaw (name : String) (bytes : List UInt8) (signed : Bool) (order : ByteOrder) :
    Except AccessError Int64 :=
  let width := bytes.length
  if width ∉ supportedWidths then .error (.badWidth name width)
  else
    let unsigned := wordOfBytes (order.widen bytes)
    if signed then
      let shift := 64 - 8 * width
      .ok ((unsigned <<< UInt64.ofNat shift).toInt64 >>> Int64.ofNat shift)
    else if width = 8 then
      -- The value in the error is the word read as a signed number.
      if unsigned ≤ Int64.maxValue.toUInt64 then .ok unsigned.toInt64
      else .error (.valueOutOfRange name unsigned.toInt64 .i64)
    else .ok unsigned.toInt64

/-- The number a field denotes; `name` is the field's name in errors. -/
def Field.decode (name : String) : Field → Except AccessError Int64
  | int value => .ok value
  | bool value => .ok (if value then 1 else 0)
  | raw bytes signed order => decodeRaw name bytes signed order

inductive Field.Outcome (name : String) : Except AccessError Int64 → Prop where
  | read (value : Int64) : Outcome name (.ok value)
  | width (width : Nat) : Outcome name (.error (.badWidth name width))
  | large (value : Int64) : Outcome name (.error (.valueOutOfRange name value .i64))

theorem Field.outcome_decode (field : Field) (name : String) : Outcome name (field.decode name) := by
  cases field with
  | int value => exact .read value
  | bool value => exact .read _
  | raw bytes signed order =>
    simp only [decode, decodeRaw]
    split
    · exact .width _
    · split
      · exact .read _
      · split
        · split
          · exact .read _
          · exact .large _
        · exact .read _

end SchedProbe
