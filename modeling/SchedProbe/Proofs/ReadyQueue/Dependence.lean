import SchedProbe.Proofs.ReadyQueue.Walk

/-! What the answer of a walk depends on. The bound on its steps decides only whether it is cut off, and of
the link table only the length counts and the links of the ids it passes. -/

set_option autoImplicit false

namespace SchedProbe.ReadyQueue

/-- The ids a walk has passed: the whole queue, or what was walked of a corrupted one. -/
def passed : Except Corrupted Walk → List TaskId
  | .ok walked => walked.order
  | .error report => report.visited

def CutOff (outcome : Except Corrupted Walk) : Prop :=
  ∃ report limit, outcome = .error report ∧ report.fault = .stepLimit limit

variable {links other : Array TaskId} {sentinel head tail stop : TaskId} {maxSteps few many : Nat}
  {ids ids' : List TaskId} {fault fault' : Option Fault}

theorem passed_of_finds (finds : Finds links sentinel head maxSteps ids fault) :
    passed (walk head tail links sentinel maxSteps) = ids := by
  rw [walk_of_finds finds]
  cases fault <;> rfl

theorem cutOff_of_finds (finds : Finds links sentinel head maxSteps ids fault) :
    CutOff (walk head tail links sentinel maxSteps) ↔ ∃ limit, fault = some (.stepLimit limit) := by
  rw [walk_of_finds finds]
  constructor
  · rintro ⟨report, limit, failed, spent⟩
    cases fault with
    | none => cases failed
    | some fault =>
      cases failed
      exact ⟨limit, congrArg some spent⟩
  · rintro ⟨limit, rfl⟩
    exact ⟨_, limit, rfl, rfl⟩

section Bound

/-- Where steps are left, the reason to stop does not depend on how many. -/
theorem Stops.raise (stops : Stops links sentinel few ids stop fault) (le : few ≤ many)
    (unspent : ∀ limit, fault ≠ some (.stepLimit limit)) : Stops links sentinel many ids stop fault := by
  cases stops with
  | sentinel same => exact .sentinel same
  | stepLimit => exact absurd rfl (unspent few)
  | outOfRange proper room outside => exact .outOfRange proper (Nat.lt_of_lt_of_le room le) outside
  | repeated proper room inside member => exact .repeated proper (Nat.lt_of_lt_of_le room le) inside member

theorem Finds.raise (finds : Finds links sentinel head few ids fault) (le : few ≤ many)
    (unspent : ∀ limit, fault ≠ some (.stepLimit limit)) : Finds links sentinel head many ids fault := by
  obtain ⟨once, bound, stop, path, stops⟩ := finds
  exact ⟨once, Nat.le_trans bound le, stop, path, stops.raise le unspent⟩

/-- With more steps a walk passes what it passes with fewer, and perhaps goes on. -/
theorem Finds.isPrefix (finds : Finds links sentinel head few ids fault)
    (finds' : Finds links sentinel head many ids' fault') (le : few ≤ many) : ids <+: ids' := by
  obtain ⟨once, bound, stop, path, -⟩ := finds
  obtain ⟨-, -, stop', path', stops'⟩ := finds'
  rcases path.continues path' with ⟨more, rfl, -⟩ | ⟨more, rfl, further⟩
  · exact List.prefix_append ids more
  -- It cannot have stopped before: the shorter walk found a way on, within its bound and the larger one.
  · obtain rfl := stops'.eq_nil further once (Nat.le_trans bound le)
    simpa only [List.append_nil] using List.prefix_refl ids'

theorem Finds.length_of_stepLimit {limit : Nat}
    (finds : Finds links sentinel head maxSteps ids (some (.stepLimit limit))) : ids.length = maxSteps := by
  obtain ⟨-, -, stop, -, stops⟩ := finds
  cases stops with
  | stepLimit _ full => exact full

/-- A walk passes no id twice, so it cannot use up more steps than there are links. -/
theorem Finds.fault_ne_stepLimit (finds : Finds links sentinel head maxSteps ids fault)
    (long : links.size < maxSteps) (limit : Nat) : fault ≠ some (.stepLimit limit) := by
  rintro rfl
  have spent := finds.length_of_stepLimit
  obtain ⟨once, -, stop, path, -⟩ := finds
  have short := path.length_le once
  omega

end Bound

/-- The bound decides only whether a walk is cut off. One that is not has the same answer, be it a queue or a
fault, under every larger bound. One that is has passed as many ids as it may, and they are the first that it
passes under a larger bound. A bound above the length of the link table cuts no walk off. -/
theorem walk_of_larger_bound (head tail : TaskId) (links : Array TaskId) (sentinel : TaskId) {few many : Nat}
    (le : few ≤ many) :
    let short := walk head tail links sentinel few
    let long := walk head tail links sentinel many
    (¬ CutOff short → long = short) ∧
    (CutOff short → (passed short).length = few ∧ passed short <+: passed long) ∧
    (links.size < few → ¬ CutOff short) := by
  intro short long
  obtain ⟨ids, fault, finds⟩ := exists_finds links sentinel head few
  obtain ⟨ids', fault', finds'⟩ := exists_finds links sentinel head many
  have cutOff : CutOff short ↔ ∃ limit, fault = some (.stepLimit limit) := cutOff_of_finds finds
  have passes : passed short = ids := passed_of_finds finds
  have passes' : passed long = ids' := passed_of_finds finds'
  rw [cutOff, passes, passes']
  refine ⟨fun unspent => ?_, ?_, fun room spent => ?_⟩
  · have unspent : ∀ limit, fault ≠ some (.stepLimit limit) := fun limit spent => unspent ⟨limit, spent⟩
    exact (walk_of_finds (finds.raise le unspent)).trans (walk_of_finds finds).symm
  · rintro ⟨limit, rfl⟩
    exact ⟨finds.length_of_stepLimit, finds.isPrefix finds' le⟩
  · obtain ⟨limit, spent⟩ := spent
    exact finds.fault_ne_stepLimit room limit spent

-- A ring of two links: at its own length the bound hides that the walk came back.
theorem walk_of_larger_bound_ring :
    let walked := walk 0 1 #[1, 0] 255
    walked 2 = .error ⟨0, 1, .stepLimit 2, [0, 1]⟩ ∧ walked 3 = .error ⟨0, 1, .cycle 0, [0, 1]⟩ ∧
      (2 ≤ 3 ∧ CutOff (walked 2) ∧ (passed (walked 2)).length = 2 ∧
        passed (walked 2) <+: passed (walked 3)) ∧
      (3 ≤ 9 ∧ ¬ CutOff (walked 3) ∧ walked 9 = walked 3) := by
  intro walked
  have spent : walked 2 = .error ⟨0, 1, .stepLimit 2, [0, 1]⟩ := by decide +kernel
  have cut : CutOff (walked 2) := ⟨_, 2, spent, rfl⟩
  obtain ⟨-, passes, -⟩ := walk_of_larger_bound 0 1 #[1, 0] 255 (show 2 ≤ 3 by decide)
  obtain ⟨same, -, uncut⟩ := walk_of_larger_bound 0 1 #[1, 0] 255 (show 3 ≤ 9 by decide)
  have uncut : ¬ CutOff (walked 3) := uncut (by decide)
  exact ⟨spent, by decide +kernel, ⟨by decide, cut, passes cut⟩, by decide, uncut, same uncut⟩

section Table

variable (size : other.size = links.size)

theorem Path.transfer (path : Path links sentinel head ids stop)
    (agree : ∀ id ∈ ids, other[id.toNat]? = links[id.toNat]?) : Path other sentinel head ids stop := by
  induction path with
  | here => exact .here
  | @link id _ _ _ proper found _ ih =>
    refine .link proper ((agree id List.mem_cons_self).trans found) (ih fun later member => ?_)
    exact agree later (List.mem_cons_of_mem id member)

include size

theorem Stops.transfer (stops : Stops links sentinel maxSteps ids stop fault) :
    Stops other sentinel maxSteps ids stop fault := by
  cases stops with
  | sentinel same => exact .sentinel same
  | stepLimit proper full => exact .stepLimit proper full
  | outOfRange proper room outside => exact .outOfRange proper room (size ▸ outside)
  | repeated proper room inside member => exact .repeated proper room (size ▸ inside) member

theorem Finds.transfer (finds : Finds links sentinel head maxSteps ids fault)
    (agree : ∀ id ∈ ids, other[id.toNat]? = links[id.toNat]?) :
    Finds other sentinel head maxSteps ids fault := by
  obtain ⟨once, bound, stop, path, stops⟩ := finds
  exact ⟨once, bound, stop, path.transfer agree, stops.transfer size⟩

end Table

/-- Links of ids that a walk does not pass make no difference to it: in a table of the same length that
agrees on the links of the ids passed, the walk has the same answer, with the same fault or the same word on
the tail. -/
theorem walk_eq_of_agree (head tail sentinel : TaskId) (maxSteps : Nat) {links other : Array TaskId}
    (size : other.size = links.size)
    (agree : ∀ id ∈ passed (walk head tail links sentinel maxSteps), other[id.toNat]? = links[id.toNat]?) :
    walk head tail other sentinel maxSteps = walk head tail links sentinel maxSteps := by
  obtain ⟨ids, fault, finds⟩ := exists_finds links sentinel head maxSteps
  rw [passed_of_finds finds] at agree
  exact (walk_of_finds (finds.transfer size agree)).trans (walk_of_finds finds).symm

-- The links of 0, 1 and 3 are torn; the queue 2, 4 does not pass them.
theorem walk_eq_of_agree_torn :
    let links : Array TaskId := #[9, 1, 4, 77, 0]
    let torn : Array TaskId := #[2, 2, 4, 4, 0]
    torn.size = links.size ∧
      (∀ id ∈ passed (walk 2 3 links 0 5), torn[id.toNat]? = links[id.toNat]?) ∧
      walk 2 3 links 0 5 = .ok ⟨[2, 4], false⟩ ∧ walk 2 3 torn 0 5 = walk 2 3 links 0 5 := by
  intro links torn
  have walked : walk 2 3 links 0 5 = .ok ⟨[2, 4], false⟩ := by decide +kernel
  have agree : ∀ id ∈ passed (walk 2 3 links 0 5), torn[id.toNat]? = links[id.toNat]? := by
    rw [walked]
    exact List.forall_mem_cons.2 ⟨rfl, List.forall_mem_singleton.2 rfl⟩
  exact ⟨rfl, agree, walked, walk_eq_of_agree 2 3 0 5 rfl agree⟩

end SchedProbe.ReadyQueue
