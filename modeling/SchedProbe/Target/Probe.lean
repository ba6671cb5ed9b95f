import SchedProbe.Log
import SchedProbe.Target.Element

/-! Probes: what a command asks of the target, and what it makes of the answers.

A probe is a tree of queries, so that one definition of a command serves every target: a fixed capture,
memory that changes while it is read, a target that drops out. `Probe.result`, `Probe.queries` and
`Probe.notes` read the outcome, the queries made and the log off the same run. -/

set_option autoImplicit false

namespace SchedProbe

inductive Query where
  | scalar (symbol : Symbol)
  | element (symbol : Symbol) (index : Nat)
  | length (symbol : Symbol)
  deriving DecidableEq, Repr

abbrev Query.Answer : Query → Type
  | scalar _ => Int64
  | element _ _ => Element
  | length _ => Nat

def Query.describe : Query → String
  | scalar symbol => "scalar " ++ symbol
  | element symbol index => "element " ++ elementName symbol index
  | length symbol => "length " ++ symbol

abbrev Query.Reply (query : Query) : Type :=
  Except AccessError query.Answer

/-- A computation that may write log entries and query the target, each query depending on the
replies before it. -/
inductive Probe (α : Type) : Type where
  | done (value : α)
  | note (entry : Note) (next : Probe α)
  | ask (query : Query) (next : query.Reply → Probe α)

/-- A target: answers a query and moves on to its next state, which may differ in anything. -/
abbrev Target (σ : Type) : Type :=
  (query : Query) → σ → query.Reply × σ

namespace Probe

variable {α β σ : Type}

def bind : Probe α → (α → Probe β) → Probe β
  | done value, f => f value
  | note entry next, f => note entry (next.bind f)
  | ask query next, f => ask query fun reply => (next reply).bind f

instance : Monad Probe where
  pure := done
  bind := bind

def result (target : Target σ) : Probe α → σ → α
  | done value, _ => value
  | note _ next, state => next.result target state
  | ask query next, state =>
    let answered := target query state
    (next answered.1).result target answered.2

def queries (target : Target σ) : Probe α → σ → List Query
  | done _, _ => []
  | note _ next, state => next.queries target state
  | ask query next, state =>
    let answered := target query state
    query :: (next answered.1).queries target answered.2

def notes (target : Target σ) : Probe α → σ → List Note
  | done _, _ => []
  | note entry next, state => entry :: next.notes target state
  | ask query next, state =>
    let answered := target query state
    (next answered.1).notes target answered.2

@[simp] theorem pure_bind (value : α) (f : α → Probe β) : (done value).bind f = f value :=
  rfl

@[simp] theorem bind_done (probe : Probe α) : probe.bind done = probe := by
  induction probe with
  | done value => rfl
  | note entry next ih => simp only [bind, ih]
  | ask query next ih => simp only [bind, ih]

theorem bind_assoc {γ : Type} (probe : Probe α) (f : α → Probe β) (g : β → Probe γ) :
    (probe.bind f).bind g = probe.bind fun value => (f value).bind g := by
  induction probe with
  | done value => rfl
  | note entry next ih => simp only [bind, ih]
  | ask query next ih => simp only [bind, ih]

instance : LawfulMonad Probe :=
  LawfulMonad.mk' Probe bind_done pure_bind bind_assoc

end Probe

end SchedProbe
