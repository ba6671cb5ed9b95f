import SchedProbe.Proofs.ReadyQueue.Walk

/-! When a walk of the ready queue succeeds and what it reports when it fails, said of the link table
alone: the queues that come out whole are the chains to the sentinel, and a report names the first fault. -/

set_option autoImplicit false

namespace SchedProbe.ReadyQueue

variable {links : Array TaskId} {sentinel head tail id : TaskId} {maxSteps : Nat} {ids : List TaskId}

theorem finds_none_iff : Finds links sentinel head maxSteps ids none ↔
    ids.length ≤ maxSteps ∧ Path links sentinel head ids sentinel := by
  constructor
  · rintro ⟨-, bound, stop, path, ⟨rfl⟩⟩
    exact ⟨bound, path⟩
  · intro ⟨bound, path⟩
    exact ⟨path.nodup, bound, sentinel, path, .sentinel rfl⟩

theorem endsIn_iff {order : List TaskId} : endsIn order sentinel tail = true ↔
    order.getLast? = some tail ∨ order = [] ∧ tail = sentinel := by
  unfold endsIn
  cases last : order.getLast? with
  | none =>
    have empty := List.getLast?_eq_none_iff.1 last
    simp only [Option.getD_none, beq_iff_eq, empty, reduceCtorEq, false_or, true_and]
    exact eq_comm
  | some id =>
    have filled : order ≠ [] := by
      rintro rfl
      cases last
    simp only [Option.getD_some, beq_iff_eq, Option.some.injEq, filled, false_and, or_false]

/-- A walk succeeds on the chains that reach the sentinel within the bound, and on nothing else. From
one head there is no second such chain, and no id stands in it twice. -/
theorem walk_eq_ok_iff (head tail : TaskId) (links : Array TaskId) (sentinel : TaskId) (maxSteps : Nat) :
    (∀ walked : Walk, walk head tail links sentinel maxSteps = .ok walked ↔
      walked.order.length ≤ maxSteps ∧ Chain links sentinel head walked.order ∧
        beyond links head walked.order = some sentinel ∧
        (walked.tailMatches = true ↔
          walked.order.getLast? = some tail ∨ walked.order = [] ∧ tail = sentinel)) ∧
    ∀ order, Chain links sentinel head order → beyond links head order = some sentinel →
      order.Nodup ∧ ∀ other, Chain links sentinel head other →
        beyond links head other = some sentinel → other = order := by
  constructor
  · intro walked
    rw [walk_ok_iff, finds_none_iff, path_iff_chain, ← endsIn_iff, Bool.eq_iff_iff, and_assoc, and_assoc]
  · intro order chain leads
    have path := path_iff_chain.2 ⟨chain, leads⟩
    exact ⟨path.nodup, fun other chain' leads' => path.unique (path_iff_chain.2 ⟨chain', leads'⟩)⟩

theorem walk_past_wild_links :
    Chain #[9, 1, 4, 77, 0] 0 2 [2, 4] ∧ beyond #[9, 1, 4, 77, 0] 2 [2, 4] = some 0 ∧
      walk 2 4 #[9, 1, 4, 77, 0] 0 2 = .ok ⟨[2, 4], true⟩ ∧ ([2, 4] : List TaskId).Nodup := by
  have chain : Chain #[9, 1, 4, 77, 0] 0 2 [2, 4] := ⟨by simp, by simp, by simp⟩
  have leads : beyond #[9, 1, 4, 77, 0] 2 [2, 4] = some 0 := rfl
  obtain ⟨succeeds, unique⟩ := walk_eq_ok_iff 2 4 #[9, 1, 4, 77, 0] 0 2
  exact ⟨chain, leads, (succeeds ⟨[2, 4], true⟩).2 ⟨by decide, chain, leads, by decide⟩,
    (unique [2, 4] chain leads).1⟩

theorem stops_some_iff {fault : Fault} (bound : ids.length ≤ maxSteps) :
    Stops links sentinel maxSteps ids id (some fault) ↔
      id ≠ sentinel ∧
        fault = (if ids.length = maxSteps then .stepLimit maxSteps
          else if links.size ≤ id.toNat then .linkOutOfRange ids.getLast? id
          else .cycle id) ∧
        (ids.length < maxSteps → id.toNat < links.size → id ∈ ids) := by
  constructor
  · rintro (_ | ⟨proper, full⟩ | ⟨proper, room, outside⟩ | ⟨proper, room, inside, member⟩)
    · exact ⟨proper, (if_pos full).symm, fun room => by omega⟩
    · refine ⟨proper, ?_, fun _ inside => by omega⟩
      rw [if_neg (by omega), if_pos outside]
    · refine ⟨proper, ?_, fun _ _ => member⟩
      rw [if_neg (by omega), if_neg (by omega)]
  · rintro ⟨proper, rfl, repeated⟩
    split
    next full => exact .stepLimit proper full
    next short =>
      have room : ids.length < maxSteps := by omega
      split
      next outside => exact .outOfRange proper room outside
      next inside => exact .repeated proper room (by omega) (repeated room (by omega))

/-- A walk fails with one report, and that tells where and why it stopped: the ids visited are a chain
without repeats, and the fault is the first that applies at the id they lead to. -/
theorem walk_eq_error_iff (head tail : TaskId) (links : Array TaskId) (sentinel : TaskId)
    (maxSteps : Nat) (report : Corrupted) :
    walk head tail links sentinel maxSteps = .error report ↔
      report.head = head ∧ report.tail = tail ∧ report.visited.Nodup ∧
      report.visited.length ≤ min maxSteps links.size ∧
      Chain links sentinel head report.visited ∧
      ∃ id, beyond links head report.visited = some id ∧ id ≠ sentinel ∧
        report.fault = (if report.visited.length = maxSteps then .stepLimit maxSteps
          else if links.size ≤ id.toNat then .linkOutOfRange report.visited.getLast? id
          else .cycle id) ∧
        (report.visited.length < maxSteps → id.toNat < links.size → id ∈ report.visited) := by
  rw [walk_error_iff]
  constructor
  · intro ⟨sameHead, sameTail, once, bound, id, path, stops⟩
    obtain ⟨chain, leads⟩ := path_iff_chain.1 path
    exact ⟨sameHead, sameTail, once, Nat.le_min.2 ⟨bound, path.length_le once⟩, chain, id, leads,
      (stops_some_iff bound).1 stops⟩
  · intro ⟨sameHead, sameTail, once, bound, chain, id, leads, reason⟩
    have bound := (Nat.le_min.1 bound).1
    exact ⟨sameHead, sameTail, once, bound, id, path_iff_chain.2 ⟨chain, leads⟩,
      (stops_some_iff bound).2 reason⟩

end SchedProbe.ReadyQueue
