import SchedProbe.Failure
import SchedProbe.Target.Probe

/-! Inspections: probes that may fail. A failed read ends an inspection at once. -/

set_option autoImplicit false

namespace SchedProbe

abbrev Inspection (α : Type) : Type :=
  ExceptT Failure Probe α

namespace Inspection

variable {α : Type}

def expect (value : Except AccessError α) : Inspection α :=
  ExceptT.mk (.done (value.mapError .access))

def log (level : Level) (text : String) : Inspection Unit :=
  ExceptT.mk (.note ⟨level, text⟩ (.done (.ok ())))

def scalar (symbol : Symbol) : Inspection Int64 :=
  ExceptT.mk (.ask (.scalar symbol) fun reply => .done (reply.mapError .access))

def scalarAs (kind : IntKind) (symbol : Symbol) : Inspection Int := do
  expect (narrow kind symbol (← scalar symbol))

def scalarId (symbol : Symbol) : Inspection UInt16 := do
  return UInt16.ofNat (← scalarAs .u16 symbol).toNat

def length (symbol : Symbol) : Inspection Nat :=
  ExceptT.mk (.ask (.length symbol) fun reply => .done (reply.mapError .access))

/-- Read one element of an array and take from it what `read` takes, or the reason it cannot. -/
def element? (symbol : Symbol) (index : Nat) (read : Element → Except AccessError α) :
    Inspection (Except AccessError α) :=
  ExceptT.mk (.ask (.element symbol index) fun reply => .done (.ok (reply.bind read)))

def element (symbol : Symbol) (index : Nat) (read : Element → Except AccessError α) :
    Inspection α :=
  ExceptT.mk (.ask (.element symbol index) fun reply =>
    .done ((reply.bind read).mapError .access))

def elements (symbol : Symbol) (read : Element → Except AccessError α) :
    (count : Nat) → (index : Nat) → (sofar : Array α) → Inspection (Array α)
  | 0, _, sofar => pure sofar
  | count + 1, index, sofar => do
    let value ← element symbol index read
    elements symbol read count (index + 1) (sofar.push value)

end Inspection

end SchedProbe
