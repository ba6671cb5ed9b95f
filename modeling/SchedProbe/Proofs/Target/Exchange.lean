import SchedProbe.Snapshot.Basic
import SchedProbe.Target.Inspection

/-! What passes between an inspection and the target. An inspection goes on by the replies alone, so it is
known on every target once it is known what it does with each reply. -/

set_option autoImplicit false

namespace SchedProbe

structure Exchange where
  query : Query
  reply : query.Reply

variable {α β σ : Type}

namespace Probe

def exchanges (target : Target σ) : Probe α → σ → List Exchange
  | done _, _ => []
  | note _ next, state => next.exchanges target state
  | ask query next, state =>
    let answered := target query state
    ⟨query, answered.1⟩ :: (next answered.1).exchanges target answered.2

theorem map_query_exchanges (target : Target σ) (probe : Probe α) (state : σ) :
    (probe.exchanges target state).map Exchange.query = probe.queries target state := by
  induction probe generalizing state with
  | done value => rfl
  | note entry next ih => exact ih state
  | ask query next ih => exact congrArg (query :: ·) (ih _ _)

/-- Replies that a snapshot would give as well make the run the one on that snapshot. -/
theorem run_of_replies {target : Target σ} {snapshot : Snapshot} {probe : Probe α} {state : σ}
    (same : ∀ exchange ∈ probe.exchanges target state, exchange.reply = snapshot.reply exchange.query) :
    probe.result target state = probe.result Snapshot.target snapshot ∧
      probe.queries target state = probe.queries Snapshot.target snapshot := by
  induction probe generalizing state with
  | done value => exact ⟨rfl, rfl⟩
  | note entry next ih => exact ih same
  | ask query next ih =>
    have first : (target query state).1 = snapshot.reply query := same _ List.mem_cons_self
    obtain ⟨result, queries⟩ := ih _ fun exchange member => same exchange (List.mem_cons_of_mem _ member)
    rw [first] at result queries
    simp only [Probe.result, Probe.queries, first, result, queries, Snapshot.target, and_self]

end Probe

namespace Inspection

def ask (fail : AccessError → Failure) (query : Query) (take : query.Answer → Except AccessError α) :
    Inspection α :=
  ExceptT.mk (.ask query fun reply => .done ((reply.bind take).mapError fail))

theorem scalar_eq_ask (symbol : Symbol) : scalar symbol = ask .access (.scalar symbol) .ok := by
  unfold scalar ask
  congr 2
  funext reply
  cases reply <;> rfl

theorem length_eq_ask (symbol : Symbol) : length symbol = ask .access (.length symbol) .ok := by
  unfold length ask
  congr 2
  funext reply
  cases reply <;> rfl

theorem scalarAs_eq_ask (kind : IntKind) (symbol : Symbol) :
    scalarAs kind symbol = ask .access (.scalar symbol) (narrow kind symbol) := by
  rw [scalarAs, scalar_eq_ask]
  refine congrArg (Probe.ask _) (funext fun reply => ?_)
  cases reply <;> rfl

theorem exchanges_ask_bind {fail : AccessError → Failure} {query : Query}
    {take : query.Answer → Except AccessError α} {f : α → Inspection β} (target : Target σ) (state : σ) :
    (ask fail query take >>= f).run.exchanges target state =
      ⟨query, (target query state).1⟩ ::
        match (target query state).1.bind take with
        | .ok value => (f value).run.exchanges target (target query state).2
        | .error _ => [] := by
  change _ :: Probe.exchanges target
    (ExceptT.bindCont f (((target query state).1.bind take).mapError fail)) _ = _
  cases (target query state).1.bind take <;> rfl

end Inspection

end SchedProbe
