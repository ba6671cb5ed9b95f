import SchedProbe.Proofs.Target.Exchange

/-! Planned reads. A run keeps to a plan when it makes the planned reads in order, each of them once, and
stops right after the first that is not served: nothing is read again, and nothing is read behind a fault. -/

set_option autoImplicit false

namespace SchedProbe

/-- A read to be made, and which answers to it can be used. -/
structure Read where
  query : Query
  usable : query.Answer → Prop

namespace Read

variable {α : Type}

def Served (read : Read) (reply : read.query.Reply) : Prop :=
  ∃ answer, reply = .ok answer ∧ read.usable answer

def scalar (symbol : Symbol) : Read :=
  ⟨.scalar symbol, fun _ => True⟩

def scalarAs (kind : IntKind) (symbol : Symbol) : Read :=
  ⟨.scalar symbol, fun value => kind.Holds value.toInt⟩

/-- The length of an array that has to hold at least some number of elements. -/
def length (least : Nat) (symbol : Symbol) : Read :=
  ⟨.length symbol, (least ≤ ·)⟩

def element (symbol : Symbol) (take : Element → Except AccessError α) (index : Nat) : Read :=
  ⟨.element symbol index, fun element => ∃ value, take element = .ok value⟩

end Read

/-- Exchanges that make reads in order and end with the last of them, or with the first not served. -/
inductive Follows : List Read → List Exchange → Prop where
  | finished : Follows [] []
  | served {read : Read} {reads : List Read} {reply : read.query.Reply} {exchanges : List Exchange} :
      read.Served reply → Follows reads exchanges →
      Follows (read :: reads) (⟨read.query, reply⟩ :: exchanges)
  | cut {read : Read} {reads : List Read} {reply : read.query.Reply} : ¬ read.Served reply →
      Follows (read :: reads) [⟨read.query, reply⟩]

theorem Follows.isPrefix {reads : List Read} {exchanges : List Exchange}
    (follows : Follows reads exchanges) :
    exchanges.map Exchange.query <+: reads.map Read.query := by
  induction follows with
  | finished => exact List.prefix_refl []
  | served _ _ ih => exact List.cons_prefix_cons.2 ⟨rfl, ih⟩
  | cut _ => exact List.cons_prefix_cons.2 ⟨rfl, List.nil_prefix⟩

abbrev Plan := List Exchange → List Read

namespace Inspection

variable {α β σ : Type}

/-- Whatever state the target is in, a run from it keeps to the plan. -/
def KeepsTo (target : Target σ) (inspection : Inspection α) (plan : Plan) : Prop :=
  ∀ state, Follows (plan (inspection.run.exchanges target state)) (inspection.run.exchanges target state)

variable {target : Target σ}

theorem keepsTo_pure (value : α) : KeepsTo target (pure value : Inspection α) fun _ => [] :=
  fun _ => .finished

theorem keepsTo_throw (failure : Failure) : KeepsTo target (throw failure : Inspection α) fun _ => [] :=
  fun _ => .finished

theorem keepsTo_log_bind {level : Level} {text : String} {f : Unit → Inspection β} {plan : Plan}
    (rest : KeepsTo target (f ()) plan) : KeepsTo target (log level text >>= f) plan :=
  rest

theorem keepsTo_ask_bind (read : Read) {fail : AccessError → Failure}
    {take : read.query.Answer → Except AccessError α} {f : α → Inspection β} {plan : Plan}
    (taken : ∀ answer, read.usable answer → ∃ value, take answer = .ok value)
    (rest : ∀ state answer value, (target read.query state).1 = .ok answer → take answer = .ok value →
      read.usable answer →
      KeepsTo target (f value) fun exchanges => plan (⟨read.query, .ok answer⟩ :: exchanges))
    (idle : ∀ answer value, take answer = .ok value → ¬ read.usable answer →
      ∀ state, (f value).run.exchanges target state = []) :
    KeepsTo target (ask fail read.query take >>= f) fun exchanges => read :: plan exchanges := by
  intro state
  rw [exchanges_ask_bind]
  cases replied : (target read.query state).1 with
  | error source =>
    refine .cut ?_
    rintro ⟨answer, served, -⟩
    cases served
  | ok answer =>
    by_cases useful : read.usable answer
    · obtain ⟨value, taking⟩ := taken answer useful
      have follows := rest state answer value replied taking useful (target read.query state).2
      simp only [Except.bind, taking]
      exact .served ⟨answer, rfl, useful⟩ follows
    · have unserved : ¬ read.Served (.ok answer) := by
        rintro ⟨other, served, useful'⟩
        cases served
        exact useful useful'
      -- What is of no use may still be taken, but then nothing is read after it.
      cases taking : take answer with
      | error source =>
        simp only [Except.bind, taking]
        exact .cut unserved
      | ok value =>
        simp only [Except.bind, taking, idle answer value taking useful]
        exact .cut unserved

variable {symbol : Symbol} {plan : Plan}

theorem keepsTo_scalar_bind {f : Int64 → Inspection β}
    (rest : ∀ value, KeepsTo target (f value) fun exchanges =>
      plan (⟨.scalar symbol, .ok value⟩ :: exchanges)) :
    KeepsTo target (scalar symbol >>= f) fun exchanges => .scalar symbol :: plan exchanges := by
  rw [scalar_eq_ask]
  refine keepsTo_ask_bind (.scalar symbol) (fun value _ => ⟨value, rfl⟩) ?_ ?_
  · rintro _ value _ _ ⟨⟩ _
    exact rest value
  · intro value _ _ useless
    exact absurd trivial useless

theorem keepsTo_scalarAs_bind {kind : IntKind} {f : Int → Inspection β}
    (rest : ∀ value : Int64, kind.Holds value.toInt → KeepsTo target (f value.toInt) fun exchanges =>
      plan (⟨.scalar symbol, .ok value⟩ :: exchanges)) :
    KeepsTo target (scalarAs kind symbol >>= f) fun exchanges =>
      .scalarAs kind symbol :: plan exchanges := by
  rw [scalarAs_eq_ask]
  refine keepsTo_ask_bind (.scalarAs kind symbol) ?_ ?_ ?_
  · intro value holds
    exact ⟨value.toInt, if_pos holds⟩
  · intro _ value number _ taking holds
    cases (if_pos holds).symm.trans taking
    exact rest value holds
  · intro value number taking holds
    cases (if_neg holds).symm.trans taking

theorem keepsTo_scalarId_bind {f : UInt16 → Inspection β}
    (rest : ∀ value : Int64, IntKind.u16.Holds value.toInt →
      KeepsTo target (f (UInt16.ofNat value.toInt.toNat)) fun exchanges =>
        plan (⟨.scalar symbol, .ok value⟩ :: exchanges)) :
    KeepsTo target (scalarId symbol >>= f) fun exchanges => .scalarAs .u16 symbol :: plan exchanges := by
  simp only [scalarId, bind_assoc, pure_bind]
  exact keepsTo_scalarAs_bind rest

theorem keepsTo_length_bind (least : Nat) {f : Nat → Inspection β}
    (rest : ∀ state size, (target (.length symbol) state).1 = .ok size → least ≤ size →
      KeepsTo target (f size) fun exchanges => plan (⟨.length symbol, .ok size⟩ :: exchanges))
    (idle : ∀ size, size < least → ∀ state, (f size).run.exchanges target state = []) :
    KeepsTo target (length symbol >>= f) fun exchanges => .length least symbol :: plan exchanges := by
  rw [length_eq_ask]
  refine keepsTo_ask_bind (.length least symbol) (fun size _ => ⟨size, rfl⟩) ?_ ?_
  · rintro state size _ replied ⟨⟩ enough
    exact rest state size replied enough
  · rintro size _ ⟨⟩ short
    exact idle size (Nat.not_le.1 short)

variable {take : Element → Except AccessError α}

theorem keepsTo_element_bind {fail : AccessError → Failure} {index : Nat} {f : α → Inspection β}
    (rest : ∀ element value, take element = .ok value → KeepsTo target (f value) fun exchanges =>
      plan (⟨.element symbol index, .ok element⟩ :: exchanges)) :
    KeepsTo target (ask fail (.element symbol index) take >>= f) fun exchanges =>
      .element symbol take index :: plan exchanges := by
  refine keepsTo_ask_bind (.element symbol take index) (fun _ useful => useful) ?_ ?_
  · intro _ element value _ taking _
    exact rest element value taking
  · intro element value taking useless
    exact absurd ⟨value, taking⟩ useless

section Elements

variable {f : Array α → Inspection β} (silent : ∀ values, KeepsTo target (f values) fun _ => [])

include silent

theorem keepsTo_elementsFrom_bind (count index : Nat) (sofar : Array α) :
    KeepsTo target (elements symbol take count index sofar >>= f) fun _ =>
      (List.range' index count).map (.element symbol take) := by
  induction count generalizing index sofar with
  | zero => exact silent sofar
  | succ count ih =>
    rw [elements, bind_assoc]
    exact keepsTo_element_bind fun _ value _ => ih (index + 1) (sofar.push value)

theorem keepsTo_elements_bind (count : Nat) :
    KeepsTo target (elements symbol take count 0 #[] >>= f) fun _ =>
      (List.range count).map (.element symbol take) := by
  rw [List.range_eq_range']
  exact keepsTo_elementsFrom_bind silent count 0 #[]

end Elements

end Inspection

end SchedProbe
