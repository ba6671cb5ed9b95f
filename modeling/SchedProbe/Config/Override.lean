import SchedProbe.Config.Basic
import SchedProbe.Text.Blank
import SchedProbe.Text.Cut

/-! Name overrides as they are given on the command line: an id, an equals sign, a label. -/

set_option autoImplicit false

namespace SchedProbe

namespace NameOverride

def idDigits : List Char → List Char
  | '+' :: digits => digits
  | digits => digits

/-- The id that a text denotes: decimal digits, leading zeros allowed, up to the greatest 16-bit id. -/
def id? (cs : List Char) : Option UInt16 :=
  match Text.natural? (idDigits cs) with
  | some n => if n < UInt16.size then some (UInt16.ofNat n) else none
  | none => none

/-- The id and the label in an override: the parts around its first equals sign, without blanks at
their ends. The label must not be empty. -/
def split? (cs : List Char) : Option (UInt16 × String) :=
  match Text.cutAt (· == '=') cs with
  | (before, some after) =>
    match id? (Text.trimChars before), Text.trimChars after with
    | some id, first :: rest => some (id, String.ofList (first :: rest))
    | _, _ => none
  | (_, none) => none

def ofText (s : String) : Except InputError (UInt16 × String) :=
  match split? s.toList with
  | some entry => .ok entry
  | none => .error (.badOverride s)

end NameOverride

end SchedProbe
