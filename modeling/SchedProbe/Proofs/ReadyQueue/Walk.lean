import SchedProbe.Proofs.ReadyQueue.Chain

/-! What a walk along the link table finds: the ids of a path without repeats, and the first of four
causes to stop at the id beyond it. These two determine each other, so they describe the walk exactly. -/

set_option autoImplicit false

namespace SchedProbe.ReadyQueue

/-- Why a walk that has visited `ids` stops at the next id: it is the sentinel, or a fault stands in the
way. The step limit counts before a link out of range, and that before a repeat. -/
inductive Stops (links : Array TaskId) (sentinel : TaskId) (maxSteps : Nat) (ids : List TaskId)
    (id : TaskId) : Option Fault → Prop where
  | sentinel : id = sentinel → Stops links sentinel maxSteps ids id none
  | stepLimit : id ≠ sentinel → ids.length = maxSteps →
      Stops links sentinel maxSteps ids id (some (.stepLimit maxSteps))
  | outOfRange : id ≠ sentinel → ids.length < maxSteps → links.size ≤ id.toNat →
      Stops links sentinel maxSteps ids id (some (.linkOutOfRange ids.getLast? id))
  | repeated : id ≠ sentinel → ids.length < maxSteps → id.toNat < links.size → id ∈ ids →
      Stops links sentinel maxSteps ids id (some (.cycle id))

/-- The ids a walk visits, none of them twice and no more than it may, and the fault it stops for. -/
structure Finds (links : Array TaskId) (sentinel head : TaskId) (maxSteps : Nat) (ids : List TaskId)
    (fault : Option Fault) : Prop where
  once : ids.Nodup
  bound : ids.length ≤ maxSteps
  stopped : ∃ stop, Path links sentinel head ids stop ∧ Stops links sentinel maxSteps ids stop fault

/-- What holds whenever a walk looks at an id: the ids visited are a path without repeats to it, they
are the ids seen, and each of them took one step. -/
structure Visiting (links : Array TaskId) (sentinel head : TaskId) (maxSteps left : Nat)
    (visited : Array TaskId) (seen : Std.ExtTreeSet TaskId) (id : TaskId) : Prop where
  path : Path links sentinel head visited.toList id
  once : visited.toList.Nodup
  marked : ∀ other, other ∈ seen ↔ other ∈ visited
  steps : visited.size + left = maxSteps

variable {links : Array TaskId} {sentinel head stop id next : TaskId} {maxSteps left : Nat}
  {ids : List TaskId} {visited : Array TaskId} {seen : Std.ExtTreeSet TaskId} {fault : Option Fault}

theorem Visiting.start : Visiting links sentinel head maxSteps maxSteps #[] ∅ head :=
  ⟨.here, List.nodup_nil, by simp, by simp⟩

theorem Visiting.step (visiting : Visiting links sentinel head maxSteps (left + 1) visited seen id)
    (proper : id ≠ sentinel) (found : links[id.toNat]? = some next) (fresh : id ∉ seen) :
    Visiting links sentinel head maxSteps left (visited.push id) (seen.insert id) next where
  path := by
    rw [Array.toList_push]
    exact visiting.path.snoc proper found
  once := by
    rw [Array.toList_push, List.nodup_append]
    refine ⟨visiting.once, List.nodup_singleton id, ?_⟩
    rintro other member _ same rfl
    rw [List.mem_singleton] at same
    exact fresh ((visiting.marked id).2 (Array.mem_toList_iff.1 (same ▸ member)))
  marked other := by
    rw [Std.ExtTreeSet.mem_insert, Array.mem_push, visiting.marked,
      Std.LawfulEqCmp.compare_eq_iff_eq, or_comm, @eq_comm _ id]
  steps := by
    have steps := visiting.steps
    rw [Array.size_push]
    omega

theorem Visiting.finds (visiting : Visiting links sentinel head maxSteps left visited seen id)
    (stops : Stops links sentinel maxSteps visited.toList id fault) :
    Finds links sentinel head maxSteps visited.toList fault where
  once := visiting.once
  bound := by
    have steps := visiting.steps
    rw [Array.length_toList]
    omega
  stopped := ⟨id, visiting.path, stops⟩

-- By induction on the steps left; `Visiting` is the invariant of the recursion.
theorem follow_finds (visiting : Visiting links sentinel head maxSteps left visited seen id) :
    Finds links sentinel head maxSteps (follow links sentinel maxSteps left visited seen id).1.toList
      (follow links sentinel maxSteps left visited seen id).2 := by
  induction left generalizing visited seen id with
  | zero =>
    have taken : visited.toList.length = maxSteps := by
      rw [Array.length_toList]
      exact visiting.steps
    rw [follow]
    split
    next atEnd => exact visiting.finds (.sentinel atEnd)
    next proper => exact visiting.finds (.stepLimit proper taken)
  | succ left ih =>
    have room : visited.toList.length < maxSteps := by
      have steps := visiting.steps
      rw [Array.length_toList]
      omega
    rw [follow]
    split
    next atEnd => exact visiting.finds (.sentinel atEnd)
    next proper =>
      cases found : links[id.toNat]? with
      | none =>
        refine visiting.finds ?_
        rw [← Array.getLast?_toList]
        exact .outOfRange proper room (Array.getElem?_eq_none_iff.1 found)
      | some next =>
        obtain ⟨bound, -⟩ := Array.getElem?_eq_some_iff.1 found
        by_cases again : id ∈ seen
        · have member := Array.mem_toList_iff.2 ((visiting.marked id).1 again)
          simp only [if_pos again]
          exact visiting.finds (.repeated proper room bound member)
        · simp only [if_neg again]
          exact ih (visiting.step proper found again)

theorem Stops.eq_ite (stops : Stops links sentinel maxSteps ids id fault) :
    fault = if id = sentinel then none
      else if ids.length = maxSteps then some (.stepLimit maxSteps)
      else if links.size ≤ id.toNat then some (.linkOutOfRange ids.getLast? id)
      else some (.cycle id) := by
  cases stops with
  | sentinel same => rw [if_pos same]
  | stepLimit proper full => rw [if_neg proper, if_pos full]
  | outOfRange proper room outside =>
    rw [if_neg proper, if_neg (Nat.ne_of_lt room), if_pos outside]
  | repeated proper room inside member =>
    rw [if_neg proper, if_neg (Nat.ne_of_lt room), if_neg (Nat.not_le.2 inside)]

/-- Where a walk stops, no path without repeats goes on within the bound. -/
theorem Stops.eq_nil {more : List TaskId} {stop' : TaskId} (stops : Stops links sentinel maxSteps ids stop fault)
    (further : Path links sentinel stop more stop') (once : (ids ++ more).Nodup)
    (bound : (ids ++ more).length ≤ maxSteps) : more = [] := by
  cases further with
  | here => rfl
  | @link _ next _ rest proper found further =>
    obtain ⟨inside, -⟩ := Array.getElem?_eq_some_iff.1 found
    have fresh : stop ∉ ids := fun member =>
      (List.nodup_append.1 once).2.2 stop member stop List.mem_cons_self rfl
    rw [List.length_append, List.length_cons] at bound
    cases stops with
    | sentinel same => exact absurd same proper
    | stepLimit _ full => omega
    | outOfRange _ _ outside => omega
    | repeated _ _ _ member => exact absurd member fresh

/-- Two walks of which one goes on from where the other stops are the same walk. -/
theorem Stops.same {more : List TaskId} {stop' : TaskId} {fault' : Option Fault}
    (stops : Stops links sentinel maxSteps ids stop fault) (further : Path links sentinel stop more stop')
    (once : (ids ++ more).Nodup) (bound : (ids ++ more).length ≤ maxSteps)
    (stops' : Stops links sentinel maxSteps (ids ++ more) stop' fault') : more = [] ∧ fault = fault' := by
  obtain rfl := stops.eq_nil further once bound
  cases path_nil.1 further
  rw [List.append_nil] at stops'
  exact ⟨rfl, stops.eq_ite.trans stops'.eq_ite.symm⟩

theorem Finds.unique {ids' : List TaskId} {fault' : Option Fault}
    (finds : Finds links sentinel head maxSteps ids fault)
    (finds' : Finds links sentinel head maxSteps ids' fault') : ids = ids' ∧ fault = fault' := by
  obtain ⟨once, bound, stop, path, stops⟩ := finds
  obtain ⟨once', bound', stop', path', stops'⟩ := finds'
  -- Both follow the same links, so one of them is a beginning of the other.
  rcases path.continues path' with ⟨more, rfl, further⟩ | ⟨more, rfl, further⟩
  · obtain ⟨rfl, same⟩ := stops.same further once' bound' stops'
    exact ⟨(List.append_nil ids).symm, same⟩
  · obtain ⟨rfl, same⟩ := stops'.same further once bound stops
    exact ⟨List.append_nil ids', same.symm⟩

variable {tail : TaskId}

theorem exists_finds (links : Array TaskId) (sentinel head : TaskId) (maxSteps : Nat) :
    ∃ ids fault, Finds links sentinel head maxSteps ids fault :=
  ⟨_, _, follow_finds .start⟩

/-- What a walk finds determines its answer. -/
theorem walk_of_finds (finds : Finds links sentinel head maxSteps ids fault) :
    walk head tail links sentinel maxSteps =
      fault.elim (.ok ⟨ids, endsIn ids sentinel tail⟩) fun fault => .error ⟨head, tail, fault, ids⟩ := by
  obtain ⟨rfl, rfl⟩ := (follow_finds .start).unique finds
  rw [walk]
  cases follow links sentinel maxSteps maxSteps #[] ∅ head with
  | mk visited fault => cases fault <;> rfl

theorem walk_ok_iff {walked : Walk} : walk head tail links sentinel maxSteps = .ok walked ↔
    Finds links sentinel head maxSteps walked.order none ∧
      walked.tailMatches = endsIn walked.order sentinel tail := by
  constructor
  · intro succeeded
    obtain ⟨ids, fault, finds⟩ := exists_finds links sentinel head maxSteps
    rw [walk_of_finds finds] at succeeded
    cases fault with
    | none =>
      cases succeeded
      exact ⟨finds, rfl⟩
    | some fault => cases succeeded
  · intro ⟨finds, matched⟩
    rw [walk_of_finds finds, Option.elim_none, ← matched]

theorem walk_error_iff {report : Corrupted} : walk head tail links sentinel maxSteps = .error report ↔
    report.head = head ∧ report.tail = tail ∧
      Finds links sentinel head maxSteps report.visited (some report.fault) := by
  constructor
  · intro failed
    obtain ⟨ids, fault, finds⟩ := exists_finds links sentinel head maxSteps
    rw [walk_of_finds finds] at failed
    cases fault with
    | none => cases failed
    | some fault =>
      cases failed
      exact ⟨rfl, rfl, finds⟩
  · intro ⟨sameHead, sameTail, finds⟩
    rw [walk_of_finds finds, Option.elim_some, ← sameHead, ← sameTail]

/-- An id is visited if the links lead to it within the steps, and it has a link itself. -/
theorem Finds.visits {before : List TaskId} (finds : Finds links sentinel head maxSteps ids fault)
    (path : Path links sentinel head before id) (early : before.length < maxSteps)
    (proper : id ≠ sentinel) (inside : id.toNat < links.size) : id ∈ ids := by
  obtain ⟨-, -, stop, visited, stops⟩ := finds
  rcases path.continues visited with ⟨more, rfl, further⟩ | ⟨more, rfl, further⟩
  · cases further with
    | here =>
      cases stops with
      | sentinel same => exact absurd same proper
      | stepLimit _ full =>
        rw [List.append_nil] at full
        omega
      | outOfRange _ _ outside => omega
      | repeated _ _ _ member => exact member
    | link => exact List.mem_append_right before List.mem_cons_self
  -- The walk stopped on the way to the id, which only a repeat can have made it do.
  · cases stops with
    | sentinel same =>
      subst same
      obtain rfl := further.eq_nil_of_sentinel
      exact absurd (path_nil.1 further).symm proper
    | stepLimit _ full =>
      rw [List.length_append] at early
      omega
    | outOfRange _ _ outside =>
      cases further with
      | here => omega
      | link properStop found =>
        obtain ⟨bound, -⟩ := Array.getElem?_eq_some_iff.1 found
        omega
    | repeated _ _ _ member => exact visited.mem_of_again member further member

end SchedProbe.ReadyQueue
