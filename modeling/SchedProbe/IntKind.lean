/-! The integer kinds a value read from the target is narrowed to. -/

set_option autoImplicit false

namespace SchedProbe

/-- A machine integer kind; `size` is the kind of sizes and indices, 64 bits wide. -/
inductive IntKind where
  | u8 | u16 | u32 | u64 | size | i8 | i16 | i32 | i64
  deriving DecidableEq, Repr

namespace IntKind

def name : IntKind → String
  | u8 => "u8" | u16 => "u16" | u32 => "u32" | u64 => "u64" | size => "usize"
  | i8 => "i8" | i16 => "i16" | i32 => "i32" | i64 => "i64"

def least : IntKind → Int
  | u8 | u16 | u32 | u64 | size => 0
  | i8 => -128 | i16 => -32768 | i32 => -2147483648 | i64 => -9223372036854775808

def greatest : IntKind → Int
  | u8 => 255 | u16 => 65535 | u32 => 4294967295 | u64 | size => 18446744073709551615
  | i8 => 127 | i16 => 32767 | i32 => 2147483647 | i64 => 9223372036854775807

def Holds (kind : IntKind) (value : Int) : Prop :=
  kind.least ≤ value ∧ value ≤ kind.greatest

instance (kind : IntKind) (value : Int) : Decidable (kind.Holds value) :=
  inferInstanceAs (Decidable (_ ∧ _))

end IntKind

end SchedProbe
