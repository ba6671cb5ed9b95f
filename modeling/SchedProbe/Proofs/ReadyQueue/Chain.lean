import Mathlib.Data.List.Chain
import Mathlib.Data.List.Nodup
import SchedProbe.ReadyQueue.Walk

/-! Chains along the link table. A chain that reaches the sentinel is determined by its head, so no id
stands in it twice; any other chain may run into a cycle. -/

set_option autoImplicit false

namespace SchedProbe.ReadyQueue

/-- Ids queued from a head: each is an index of the link table and not the sentinel, and its link is
the id after it. -/
structure Chain (links : Array TaskId) (sentinel head : TaskId) (ids : List TaskId) : Prop where
  starts : ∀ first ∈ ids.head?, first = head
  inside : ∀ id ∈ ids, id ≠ sentinel ∧ id.toNat < links.size
  linked : ids.IsChain fun id next => links[id.toNat]? = some next

/-- The id a chain leads to: the link of its last id, or the head if it has none. -/
def beyond (links : Array TaskId) (head : TaskId) (ids : List TaskId) : Option TaskId :=
  match ids.getLast? with
  | none => some head
  | some last => links[last.toNat]?

/-- Links followed from an id over `ids`, none of them the sentinel, to the id `stop`. -/
inductive Path (links : Array TaskId) (sentinel : TaskId) : TaskId → List TaskId → TaskId → Prop where
  | here {id : TaskId} : Path links sentinel id [] id
  | link {id next stop : TaskId} {ids : List TaskId} : id ≠ sentinel → links[id.toNat]? = some next →
      Path links sentinel next ids stop → Path links sentinel id (id :: ids) stop

variable {links : Array TaskId} {sentinel head stop id next : TaskId} {ids rest : List TaskId}

theorem path_nil : Path links sentinel head [] stop ↔ head = stop := by
  constructor
  · rintro ⟨⟩
    rfl
  · rintro rfl
    exact .here

theorem path_cons : Path links sentinel head (id :: rest) stop ↔
    id = head ∧ id ≠ sentinel ∧ ∃ next, links[id.toNat]? = some next ∧ Path links sentinel next rest stop := by
  constructor
  · rintro (_ | ⟨proper, linked, path⟩)
    exact ⟨rfl, proper, _, linked, path⟩
  · rintro ⟨rfl, proper, next, linked, path⟩
    exact .link proper linked path

theorem chain_cons : Chain links sentinel head (id :: rest) ↔
    id = head ∧ id ≠ sentinel ∧ ∃ next, links[id.toNat]? = some next ∧ Chain links sentinel next rest := by
  constructor
  · intro ⟨starts, inside, linked⟩
    obtain ⟨proper, bound⟩ := inside id List.mem_cons_self
    obtain ⟨ahead, linked⟩ := List.isChain_cons.1 linked
    refine ⟨starts id rfl, proper, links[id.toNat], Array.getElem?_eq_getElem bound, ?_, ?_, linked⟩
    · intro first member
      have same := ahead first member
      rw [Array.getElem?_eq_getElem bound] at same
      exact (Option.some.inj same).symm
    · exact fun other member => inside other (List.mem_cons_of_mem id member)
  · rintro ⟨rfl, proper, next, found, starts, inside, linked⟩
    obtain ⟨bound, -⟩ := Array.getElem?_eq_some_iff.1 found
    refine ⟨fun first member => (Option.some.inj member).symm, ?_, List.isChain_cons.2 ⟨?_, linked⟩⟩
    · intro other member
      rcases List.mem_cons.1 member with rfl | member
      · exact ⟨proper, bound⟩
      · exact inside other member
    · intro first member
      rw [starts first member]
      exact found

theorem beyond_cons (found : links[id.toNat]? = some next) :
    beyond links head (id :: rest) = beyond links next rest := by
  cases rest with
  | nil => exact found
  | cons other rest => simp only [beyond, List.getLast?_cons, Option.getD_some]

/-- A path is a chain together with the id it leads to. -/
theorem path_iff_chain : Path links sentinel head ids stop ↔
    Chain links sentinel head ids ∧ beyond links head ids = some stop := by
  induction ids generalizing head with
  | nil =>
    have empty : Chain links sentinel head [] := ⟨by simp, by simp, .nil⟩
    simp only [path_nil, empty, true_and, beyond, List.getLast?_nil, Option.some.injEq]
  | cons id rest ih =>
    rw [path_cons, chain_cons]
    constructor
    · intro ⟨first, proper, next, found, path⟩
      obtain ⟨chain, leads⟩ := ih.1 path
      exact ⟨⟨first, proper, next, found, chain⟩, (beyond_cons found).trans leads⟩
    · intro ⟨⟨first, proper, next, found, chain⟩, leads⟩
      rw [beyond_cons found] at leads
      exact ⟨first, proper, next, found, ih.2 ⟨chain, leads⟩⟩

theorem Path.snoc (path : Path links sentinel head ids id) (proper : id ≠ sentinel)
    (found : links[id.toNat]? = some next) : Path links sentinel head (ids ++ [id]) next := by
  induction path with
  | here => exact .link proper found .here
  | link properHead foundHead _ ih => exact .link properHead foundHead (ih proper found)

theorem Path.from_mem (path : Path links sentinel head ids stop) (member : id ∈ ids) :
    ∃ before after, ids = before ++ id :: after ∧ Path links sentinel id (id :: after) stop := by
  induction path with
  | here => cases member
  | @link first next stop ids proper found path ih =>
    rcases List.mem_cons.1 member with rfl | member
    · exact ⟨[], ids, rfl, .link proper found path⟩
    · obtain ⟨before, after, rfl, later⟩ := ih member
      exact ⟨first :: before, after, rfl, later⟩

theorem Path.proper (path : Path links sentinel head ids stop) (member : id ∈ ids) :
    id ≠ sentinel ∧ id.toNat < links.size :=
  (path_iff_chain.1 path).1.inside id member

/-- Of two paths from one id the longer goes on from where the shorter ends. -/
theorem Path.continues {other : List TaskId} {stop' : TaskId} (path : Path links sentinel head ids stop)
    (path' : Path links sentinel head other stop') :
    (∃ more, other = ids ++ more ∧ Path links sentinel stop more stop') ∨
      ∃ more, ids = other ++ more ∧ Path links sentinel stop' more stop := by
  induction path generalizing other with
  | here => exact .inl ⟨other, rfl, path'⟩
  | @link id next stop rest proper found path ih =>
    cases path' with
    | here => exact .inr ⟨_, rfl, .link proper found path⟩
    | @link _ next' _ rest' _ found' path' =>
      cases found.symm.trans found'
      rcases ih path' with ⟨more, rfl, further⟩ | ⟨more, rfl, further⟩
      · exact .inl ⟨more, rfl, further⟩
      · exact .inr ⟨more, rfl, further⟩

theorem Path.eq_nil_of_sentinel (path : Path links sentinel sentinel ids stop) : ids = [] := by
  cases path with
  | here => rfl
  | link proper => exact absurd rfl proper

/-- From one head there is one way to the sentinel. -/
theorem Path.unique {other : List TaskId} (path : Path links sentinel head ids sentinel)
    (path' : Path links sentinel head other sentinel) : other = ids := by
  rcases path.continues path' with ⟨more, rfl, further⟩ | ⟨more, rfl, further⟩ <;>
    rw [further.eq_nil_of_sentinel, List.append_nil]

-- Were an id met again, the rest of the chain behind it would also lead from it to the sentinel.
theorem Path.nodup (path : Path links sentinel head ids sentinel) : ids.Nodup := by
  induction ids generalizing head with
  | nil => exact List.nodup_nil
  | cons id rest ih =>
    have whole := path
    obtain ⟨rfl, proper, next, found, path⟩ := path_cons.1 path
    refine List.nodup_cons.2 ⟨fun again => ?_, ih path⟩
    obtain ⟨before, after, cut, again⟩ := path.from_mem again
    have same : after = rest := (List.cons.inj (whole.unique again)).2
    have longer := congrArg List.length cut
    rw [same, List.length_append, List.length_cons] at longer
    omega

/-- A chain without repeats is no longer than the link table. -/
theorem Path.length_le (path : Path links sentinel head ids stop) (once : ids.Nodup) :
    ids.length ≤ links.size := by
  -- As numbers the ids are distinct indices of the table, of which there are `links.size`.
  have distinct : (ids.map UInt16.toNat).Nodup :=
    once.map fun _ _ same => UInt16.toNat_inj.1 same
  have within : ids.map UInt16.toNat ⊆ List.range links.size := by
    intro index member
    obtain ⟨id, visited, rfl⟩ := List.mem_map.1 member
    exact List.mem_range.2 (path.proper visited).2
  simpa only [List.length_map, List.length_range] using distinct.length_le_of_subset within

section Passing

variable {before after : List TaskId}

/-- Each beginning of a path is a path to the id behind it. -/
theorem Path.to_mem (path : Path links sentinel head (before ++ id :: after) stop) :
    Path links sentinel head before id := by
  induction before generalizing head with
  | nil =>
    obtain ⟨rfl, -⟩ := path_cons.1 path
    exact .here
  | cons first rest ih =>
    obtain ⟨rfl, proper, next, found, path⟩ := path_cons.1 path
    exact .link proper found (ih path)

/-- The link of an id on a path is the next id on it, or the one it leads to. -/
theorem Path.next_mem (path : Path links sentinel head ids stop) (member : id ∈ ids)
    (found : links[id.toNat]? = some next) : next ∈ ids ∨ next = stop := by
  obtain ⟨before, after, rfl, later⟩ := path.from_mem member
  obtain ⟨-, -, next', found', later⟩ := path_cons.1 later
  cases found.symm.trans found'
  cases later with
  | here => exact .inr rfl
  | link => exact .inl (by simp)

/-- A path that leads back to one of its ids leads nowhere else. -/
theorem Path.mem_of_again (path : Path links sentinel head ids stop) (again : stop ∈ ids)
    (further : Path links sentinel id before next) (member : id ∈ ids) : next ∈ ids := by
  induction further with
  | here => exact member
  | link _ found _ ih =>
    refine ih ?_
    obtain inside | rfl := path.next_mem member found
    · exact inside
    · exact again

/-- A path to the sentinel passes every id that the links lead to. -/
theorem Path.mem_of_proper (path : Path links sentinel head ids sentinel)
    (path' : Path links sentinel head before id) (proper : id ≠ sentinel) : id ∈ ids := by
  rcases path.continues path' with ⟨more, rfl, further⟩ | ⟨more, rfl, further⟩
  · obtain rfl := further.eq_nil_of_sentinel
    exact absurd (path_nil.1 further).symm proper
  · cases further with
    | here => exact absurd rfl proper
    | link => exact List.mem_append_right before List.mem_cons_self

end Passing

end SchedProbe.ReadyQueue
