import SchedProbe.Command
import SchedProbe.Proofs.Target.Exchange
import SchedProbe.Snapshot.Edit

/-! Memory that is edited while a command reads it. A run sees an edit only through the reads it makes after
it, so edits that change no reply the run has had, or none it is going to have, leave the outcome of an
undisturbed run: on the memory as it is in the end, or as it was at first. -/

set_option autoImplicit false

namespace SchedProbe

/-- Edits, each with the number of the read it comes before. -/
abbrev Edits := List (Nat × Edit)

namespace Edits

def schedule (edits : Edits) : Schedule :=
  edits.map fun entry => (entry.1, .edit entry.2)

def before (edits : Edits) (read : Nat) : List Edit :=
  edits.filterMap fun entry => if entry.1 = read then some entry.2 else none

/-- The memory behind all edits that come before the first `reads` reads. -/
def memory (edits : Edits) (snapshot : Snapshot) : (reads : Nat) → Snapshot
  | 0 => snapshot
  | read + 1 => (edits.before read).foldl Edit.apply (edits.memory snapshot read)

end Edits

/-- Made one after another, the edits leave every reply to some queries as it is. -/
inductive Harmless (queries : List Query) : Snapshot → List Edit → Prop where
  | none {snapshot : Snapshot} : Harmless queries snapshot []
  | next {snapshot : Snapshot} {edit : Edit} {rest : List Edit} :
      (∀ query ∈ queries, (edit.apply snapshot).reply query = snapshot.reply query) →
      Harmless queries (edit.apply snapshot) rest → Harmless queries snapshot (edit :: rest)

theorem Harmless.reply_foldl {queries : List Query} {snapshot : Snapshot} {edits : List Edit}
    (harmless : Harmless queries snapshot edits) {query : Query} (member : query ∈ queries) :
    (edits.foldl Edit.apply snapshot).reply query = snapshot.reply query := by
  induction harmless with
  | none => rfl
  | next kept _ ih => exact ih.trans (kept query member)

theorem Disturbance.applyAll_edits (snapshot : Snapshot) (edits : List Edit) :
    Disturbance.applyAll snapshot (edits.map .edit) = (edits.foldl Edit.apply snapshot, none) := by
  induction edits generalizing snapshot with
  | nil => rfl
  | cons edit rest ih => exact ih (edit.apply snapshot)

variable {α : Type} (edits : Edits) (snapshot : Snapshot)

namespace Edits

theorem schedule_before (read : Nat) : edits.schedule.before read = (edits.before read).map .edit := by
  induction edits with
  | nil => rfl
  | cons entry rest ih =>
    by_cases here : entry.1 = read
    · simpa [schedule, Schedule.before, before, here] using ih
    · simpa [schedule, Schedule.before, before, here] using ih

theorem target_memory (query : Query) (read : Nat) :
    edits.schedule.target query ⟨edits.memory snapshot read, read⟩ =
      ((edits.memory snapshot (read + 1)).reply query, ⟨edits.memory snapshot (read + 1), read + 1⟩) := by
  simp only [Schedule.target, schedule_before, Disturbance.applyAll_edits, memory]

theorem reply_exchange (probe : Probe α) (read i : Nat) (exchange : Exchange)
    (made : (probe.exchanges edits.schedule.target ⟨edits.memory snapshot read, read⟩)[i]? = some exchange) :
    exchange.reply = (edits.memory snapshot (read + i + 1)).reply exchange.query := by
  induction probe generalizing read i with
  | done value => cases made
  | note entry next ih => exact ih read i made
  | ask query next ih =>
    -- A read takes the memory behind `read` reads to the one behind the next, which answers it.
    simp only [Probe.exchanges, target_memory] at made
    cases i with
    | zero =>
      cases made
      rfl
    | succ i =>
      have later := ih _ (read + 1) i made
      rwa [Nat.add_right_comm read 1 i] at later

theorem reply_memory {query : Query} {first last : Nat} (order : first ≤ last)
    (kept : ∀ read, first ≤ read → read < last →
      (edits.memory snapshot (read + 1)).reply query = (edits.memory snapshot read).reply query) :
    (edits.memory snapshot last).reply query = (edits.memory snapshot first).reply query := by
  induction order with
  | refl => rfl
  | @step last order ih =>
    exact (kept last order (Nat.lt_succ_self last)).trans
      (ih fun read above below => kept read above (Nat.lt_succ_of_lt below))

/-- Edits are invisible if the memory replies to each read as a still memory does. -/
theorem run_of_still {probe : Probe α} {still : Snapshot}
    (same : ∀ i query, (probe.queries edits.schedule.target (.start snapshot))[i]? = some query →
      (edits.memory snapshot (i + 1)).reply query = still.reply query) :
    probe.result edits.schedule.target (.start snapshot) = probe.result Snapshot.target still ∧
      probe.queries edits.schedule.target (.start snapshot) = probe.queries Snapshot.target still := by
  refine Probe.run_of_replies fun exchange member => ?_
  obtain ⟨i, made⟩ := List.mem_iff_getElem?.1 member
  have reply := reply_exchange edits snapshot probe 0 i exchange made
  rw [Nat.zero_add] at reply
  refine reply.trans (same i exchange.query ?_)
  rw [← Probe.map_query_exchanges, List.getElem?_map, made]
  rfl

end Edits

/-- Harmless edits between the reads of a command are invisible. If each of them leaves the replies to the
reads made before it, the run is the one on the memory behind the edits; if each leaves the replies to the
reads made after it, the run is the one on the memory at first. -/
theorem tearing_invisible (config : Config) (name : String) (snapshot : Snapshot) (edits : Edits) :
    let probe := ((Registry.standard config).invoke name).run
    let reads := probe.queries edits.schedule.target (.start snapshot)
    let outcome := probe.result edits.schedule.target (.start snapshot)
    ((∀ read < reads.length,
        Harmless (reads.take read) (edits.memory snapshot read) (edits.before read)) →
      outcome = probe.result Snapshot.target (edits.memory snapshot reads.length) ∧
        reads = probe.queries Snapshot.target (edits.memory snapshot reads.length)) ∧
    ((∀ read < reads.length,
        Harmless (reads.drop read) (edits.memory snapshot read) (edits.before read)) →
      outcome = probe.result Snapshot.target snapshot ∧
        reads = probe.queries Snapshot.target snapshot) := by
  intro probe reads outcome
  constructor
  · intro harmless
    refine edits.run_of_still snapshot fun i query made => ?_
    obtain ⟨bound, -⟩ := List.getElem?_eq_some_iff.1 made
    -- Edits behind read `i` leave its reply, so the last memory gives it as well.
    refine (edits.reply_memory snapshot bound fun read above below => ?_).symm
    refine (harmless read below).reply_foldl (List.mem_of_getElem? (i := i) ?_)
    rw [List.getElem?_take_of_lt above]
    exact made
  · intro harmless
    refine edits.run_of_still snapshot fun i query made => ?_
    obtain ⟨bound, -⟩ := List.getElem?_eq_some_iff.1 made
    -- Edits up to read `i` leave its reply, so the first memory gives it as well.
    refine edits.reply_memory snapshot (Nat.zero_le _) fun read _ below => ?_
    have inside : read ≤ i := Nat.lt_succ_iff.1 below
    have ahead : (reads.drop read)[i - read]? = some query := by
      rw [List.getElem?_drop, Nat.add_sub_cancel' inside]
      exact made
    exact (harmless read (Nat.lt_of_le_of_lt inside bound)).reply_foldl (List.mem_of_getElem? ahead)

def periodic (period : Int64) : Fields :=
  .ofNumbers [("t0", 7), ("dt", period), ("fired_max_us", 0), ("isoneshot", 0), ("isrunning", 1)]

def twoTimers : Snapshot :=
  (Snapshot.empty.withScalar "count" 1).withArray "timers" #[periodic 8, periodic 9]

/-- Edits to what is still to be read. -/
def early : Edits :=
  [(1, .setArray "timers" #[periodic 4]), (2, .setField "timers" 0 "dt" 5)]

def late : Edits :=
  [(1, .setScalar "count" 2), (2, .setArray "timers" #[periodic 8])]

theorem tearing_invisible_twoTimers :
    let config : Config := { symbols := { timers := { numTimers := "count", descriptors := "timers" } } }
    let probe := ((Registry.standard config).invoke "timer-dump").run
    let reads : List Query := [.scalar "count", .length "timers", .element "timers" 0]
    let torn (edits : Edits) := probe.result edits.schedule.target (.start twoTimers)
    (∀ read < reads.length, Harmless (reads.take read) (early.memory twoTimers read) (early.before read)) ∧
      torn early = probe.result Snapshot.target (early.memory twoTimers reads.length) ∧
    (∀ read < reads.length, Harmless (reads.drop read) (late.memory twoTimers read) (late.before read)) ∧
      torn late = probe.result Snapshot.target twoTimers := by
  intro config probe reads torn
  have made : probe.queries early.schedule.target (.start twoTimers) = reads := by decide +kernel
  have made' : probe.queries late.schedule.target (.start twoTimers) = reads := by decide +kernel
  have behind : ∀ read < reads.length,
      Harmless (reads.take read) (early.memory twoTimers read) (early.before read) := by
    intro read (below : read < 3)
    match read with
    | 0 => exact .none
    | 1 =>
      have count : (early.memory twoTimers 1).reply (.scalar "count") = .ok (1 : Int64) := rfl
      refine .next (List.forall_mem_singleton.2 ?_) .none
      rw [count]
      rfl
    | 2 =>
      have count : (early.memory twoTimers 2).reply (.scalar "count") = .ok (1 : Int64) := rfl
      have length : (early.memory twoTimers 2).reply (.length "timers") = .ok (1 : Nat) := rfl
      refine .next (List.forall_mem_cons.2 ⟨?_, List.forall_mem_singleton.2 ?_⟩) .none
      · rw [count]
        rfl
      · rw [length]
        rfl
  have ahead : ∀ read < reads.length,
      Harmless (reads.drop read) (late.memory twoTimers read) (late.before read) := by
    intro read (below : read < 3)
    match read with
    | 0 => exact .none
    | 1 =>
      have length : (late.memory twoTimers 1).reply (.length "timers") = .ok (2 : Nat) := rfl
      have first : (late.memory twoTimers 1).reply (.element "timers" 0) =
        .ok (⟨"timers", 0, periodic 8⟩ : Element) := rfl
      refine .next (List.forall_mem_cons.2 ⟨?_, List.forall_mem_singleton.2 ?_⟩) .none
      · rw [length]
        rfl
      · rw [first]
        rfl
    | 2 => exact .next (List.forall_mem_singleton.2 rfl) .none
  obtain ⟨last, -⟩ := tearing_invisible config "timer-dump" twoTimers early
  obtain ⟨-, first⟩ := tearing_invisible config "timer-dump" twoTimers late
  rw [made] at last
  rw [made'] at first
  exact ⟨behind, (last behind).1, ahead, (first ahead).1⟩

end SchedProbe
