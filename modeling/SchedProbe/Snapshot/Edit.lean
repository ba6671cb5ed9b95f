import SchedProbe.Snapshot.Basic

/-! Memory that changes while it is read: a snapshot with edits and outages scheduled between the
queries of a run. -/

set_option autoImplicit false

namespace SchedProbe

inductive Edit where
  | setScalar (symbol : Symbol) (value : Int64)
  | setArray (symbol : Symbol) (elements : Array Fields)
  | setValues (symbol : Symbol) (values : List Int64)
  | setField (symbol : Symbol) (index : Nat) (name : String) (value : Int64)

/-- Carry out a change; setting a field that does not exist changes nothing. -/
def Edit.apply (snapshot : Snapshot) : Edit → Snapshot
  | setScalar symbol value => snapshot.withScalar symbol value
  | setArray symbol elements => snapshot.withArray symbol elements
  | setValues symbol values => snapshot.withValues symbol values
  | setField symbol index name value => (snapshot.setField? symbol index name value).getD snapshot

/-- What happens to the target before a query: its memory changes, or it drops out for this query. -/
inductive Disturbance where
  | edit (edit : Edit)
  | outage (reason : String)

/-- Disturbances, each with the number of the query it comes before. -/
abbrev Schedule := List (Nat × Disturbance)

def Schedule.before (schedule : Schedule) (query : Nat) : List Disturbance :=
  schedule.filterMap fun entry => if entry.1 = query then some entry.2 else none

/-- Apply disturbances in order up to the first outage, whose reason is returned. -/
def Disturbance.applyAll (snapshot : Snapshot) : List Disturbance → Snapshot × Option String
  | [] => (snapshot, none)
  | edit change :: rest => applyAll (change.apply snapshot) rest
  | outage reason :: _ => (snapshot, some reason)

structure ShiftingMemory where
  snapshot : Snapshot
  answered : Nat

def Schedule.target (schedule : Schedule) : Target ShiftingMemory :=
  fun query memory =>
    let disturbed := Disturbance.applyAll memory.snapshot (schedule.before memory.answered)
    let reply :=
      match disturbed.2 with
      | some reason => .error (.unavailable reason)
      | none => disturbed.1.reply query
    (reply, ⟨disturbed.1, memory.answered + 1⟩)

def ShiftingMemory.start (snapshot : Snapshot) : ShiftingMemory := ⟨snapshot, 0⟩

end SchedProbe
