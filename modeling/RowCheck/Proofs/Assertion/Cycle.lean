import RowCheck.Proofs.Assertion.Outcome

/-!
# Connection cycles

A call that runs a query goes through one cycle: it calls the factory that the query is bound to,
runs the query on the connection that it gets, and closes that connection. Builders and queries can
be derived from each other and called in any order; what is logged is the cycles of the calls, one
after the other, and a derivation leaves no trace.
-/

namespace RowCheck

/-! ## One cycle -/

/-- What happens after a query was run, until the call returns. -/
def Expectation.ending (factory : Nat) : Expectation → Except Failure Results → List Event
  | .fails _, _ => [.judged factory, .closed factory]
  | .rows _, .ok _ => [.closed factory, .judged factory]
  | .rows _, .error _ | .runs, _ => [.closed factory]

namespace Query

/-- What a call judges the query by. -/
def Call.expectation? : Call → Option Expectation
  | .returns expected => some (.rows (Expectation.exactText expected))
  | .returnsWith check => some (.rows check)
  | .throws expected => some (.fails (Expectation.failureWith expected))
  | .runs => some .runs
  | .fetch => none

/-- What a call makes of the outcome of a query. -/
def Call.ruling (sql : String) (call : Call) (outcome : Except Failure Results) :
    Except AssertionError Unit :=
  match call.expectation? with
  | some e => e.ruling sql outcome
  | none => (report sql outcome).map fun _ => ()

/-- What a call does after the query was run. -/
def Call.ending (factory : Nat) (call : Call) (outcome : Except Failure Results) : List Event :=
  match call.expectation? with
  | some e => e.ending factory outcome
  | none => [.closed factory]

end Query

/-- One call on a query, with what its factory gives it. -/
structure Cycle where
  query : Query
  call : Query.Call
  opening : Opening

namespace Cycle

/-- What the call does, in order. -/
def events (c : Cycle) : List Event :=
  .called c.query.factory ::
    match c.opening.2 with
    | .error _ => []
    | .ok connection => .executed c.query.factory c.query.sql ::
      c.call.ending c.query.factory (connection.execute c.query.sql).1

/-- What reaches the server meanwhile. -/
def traffic (c : Cycle) : Server.Traffic :=
  match c.opening.2 with
  | .error _ => c.opening.1
  | .ok connection => c.opening.1.append (connection.execute c.query.sql).2.traffic

/-- What the call reports. -/
def report (c : Cycle) : Except AssertionError Unit :=
  match c.opening.2 with
  | .error source => .error (.setup c.query.sql source)
  | .ok connection => c.call.ruling c.query.sql (connection.execute c.query.sql).1

/-- Whether the call got a connection of a factory. -/
def Opens (c : Cycle) (factory : Nat) : Prop := c.query.factory = factory ∧ c.opening.2.isOk

instance (c : Cycle) (factory : Nat) : Decidable (c.Opens factory) :=
  inferInstanceAs (Decidable (_ ∧ _))

variable (c : Cycle) (cs : List Cycle) (factory : Nat)

theorem count_ending (call : Query.Call) (outcome : Except Failure Results) (e : Event)
    (other : ∀ g, e ≠ .judged g) :
    (call.ending factory outcome).count e = [Event.closed factory].count e := by
  have skip (l : List Event) : (.judged factory :: l).count e = l.count e :=
    List.count_cons_of_ne (Ne.symm (other factory))
  have skip' : [Event.closed factory, .judged factory].count e
      = [Event.closed factory].count e := by
    rw [List.count_cons, skip, List.count_cons]
  cases call with
  | returns | returnsWith =>
    cases outcome with
    | error failure => rfl
    | ok results => exact skip'
  | throws expected => exact skip _
  | runs | fetch => cases outcome <;> rfl

/-- Apart from judging, a cycle calls its factory, and if it got a connection then it runs the query
once and closes the connection once. -/
theorem count_events {e : Event} (other : ∀ g, e ≠ .judged g) :
    c.events.count e = [Event.called c.query.factory].count e
      + if c.opening.2.isOk then
          [Event.executed c.query.factory c.query.sql, .closed c.query.factory].count e
        else 0 := by
  rw [events]
  cases c.opening.2 with
  | error source => rfl
  | ok connection =>
    have opened : (Except.ok connection : Except SetupError Connection).isOk = true := rfl
    rw [if_pos opened, List.count_cons, List.count_cons, count_ending _ _ _ e other]
    simp only [List.count_cons, List.count_nil]
    omega

theorem count_called :
    c.events.count (.called factory) = [c].countP (·.query.factory = factory) := by
  rw [count_events c (by simp)]
  simp [List.count_cons, List.countP_cons]

theorem count_closed : c.events.count (.closed factory) = [c].countP (·.Opens factory) := by
  rw [count_events c (by simp)]
  by_cases opened : c.opening.2.isOk <;> simp [Opens, opened, List.count_cons, List.countP_cons]

theorem count_executed (sql : String) : c.events.count (.executed factory sql)
    = [c].countP fun c => c.Opens factory ∧ c.query.sql = sql := by
  rw [count_events c (by simp)]
  by_cases opened : c.opening.2.isOk <;> simp [Opens, opened, List.count_cons, List.countP_cons]

theorem count_flatMap_events {e : Event} {p : Cycle → Bool}
    (each : ∀ c : Cycle, c.events.count e = [c].countP p) :
    (cs.flatMap events).count e = cs.countP p := by
  induction cs with
  | nil => rfl
  | cons c cs ih =>
    rw [List.flatMap_cons, List.count_append, each c, ih, ← List.countP_append,
      List.singleton_append]

end Cycle

namespace World

/-- The world after a cycle. -/
def after (w : World) (c : Cycle) : World :=
  ⟨w.factories, w.log ++ c.events, w.traffic.append c.traffic⟩

/-- The cycle of a call. -/
def cycle? (w : World) (q : Query) (call : Query.Call) : Option Cycle :=
  w.factories[q.factory]?.map fun f => ⟨q, call, f.openNth (w.calls q.factory)⟩

end World

theorem World.pure_act {α : Type} (a : α) (w : World) : (pure a : Act α) w = (a, w) := rfl

namespace Query

variable {q : Query} {f : Factory} {w : World}

theorem openConnection_of_error (bound : w.factories[q.factory]? = some f) {source : SetupError}
    (opened : (f.openNth (w.calls q.factory)).2 = .error source) :
    q.openConnection w = (.error (.setup q.sql source),
      (w.note (.called q.factory)).sent (f.openNth (w.calls q.factory)).1) := by
  rw [openConnection_eq bound, opened]
  rfl

theorem openConnection_of_ok (bound : w.factories[q.factory]? = some f) {c : Connection}
    (opened : (f.openNth (w.calls q.factory)).2 = .ok c) :
    q.openConnection w
      = (.ok c, (w.note (.called q.factory)).sent (f.openNth (w.calls q.factory)).1) := by
  rw [openConnection_eq bound, opened]
  rfl

theorem judgeOn_eq (e : Expectation) (c : Connection) (w : World) :
    q.judgeOn e c w = (e.ruling q.sql (c.execute q.sql).1,
      ⟨w.factories, w.log ++ .executed q.factory q.sql :: e.ending q.factory (c.execute q.sql).1,
        w.traffic.append (c.execute q.sql).2.traffic⟩) := by
  refine Prod.ext (judgeOn_fst e c w) ?_
  rcases answered : c.execute q.sql with ⟨outcome, c'⟩
  have executed : q.execute c w = ((outcome, c'), w.note (.executed q.factory q.sql)) := by
    rw [execute, answered]
  cases outcome with
  | error failure =>
    cases e with
    | runs | rows check | fails check =>
      simp only [judgeOn, bind, StateT.bind, executed]
      simp [judge, close, World.note, World.sent, World.pure_act, Expectation.ending]
  | ok results =>
    cases e with
    | runs | rows check | fails check =>
      simp only [judgeOn, bind, StateT.bind, executed]
      simp [judge, close, World.note, World.sent, World.pure_act, Expectation.ending]

theorem check_eq (bound : w.factories[q.factory]? = some f) {e : Expectation} {call : Call}
    (judges : call.expectation? = some e) :
    let cycle : Cycle := ⟨q, call, f.openNth (w.calls q.factory)⟩
    q.check e w = (cycle.report, w.after cycle) := by
  intro cycle
  cases opened : (f.openNth (w.calls q.factory)).2 with
  | error source =>
    simp only [check, bind, StateT.bind, openConnection_of_error bound opened]
    simp [cycle, Cycle.report, World.after, Cycle.events, Cycle.traffic, opened, World.note,
      World.sent, World.pure_act]
  | ok c =>
    have ruled : cycle.report = e.ruling q.sql (c.execute q.sql).1 := by
      simp [cycle, Cycle.report, opened, Call.ruling, judges]
    simp only [check, bind, StateT.bind, openConnection_of_ok bound opened]
    rw [ruled, judgeOn_eq]
    simp [cycle, World.after, Cycle.events, Cycle.traffic, opened, World.note, World.sent,
      Call.ending, judges, Server.Traffic.append]

theorem fetch_snd (bound : w.factories[q.factory]? = some f) :
    (q.fetch w).2 = w.after ⟨q, .fetch, f.openNth (w.calls q.factory)⟩ := by
  cases opened : (f.openNth (w.calls q.factory)).2 with
  | error source =>
    simp only [fetch, bind, StateT.bind, openConnection_of_error bound opened]
    simp [World.after, Cycle.events, Cycle.traffic, opened, World.note, World.sent, World.pure_act]
  | ok c =>
    rcases answered : c.execute q.sql with ⟨outcome, c'⟩
    simp only [fetch, bind, StateT.bind, openConnection_of_ok bound opened, execute, answered]
    cases outcome with
    | error failure | ok results =>
      simp [World.after, Cycle.events, Cycle.traffic, opened, World.note, World.sent, close,
        World.pure_act, Call.ending, Call.expectation?, answered, Server.Traffic.append]

/-- A call is one cycle: the cycle says what it reports, and what the world is after it. -/
theorem perform_eq {call : Call} {cycle : Cycle} (h : w.cycle? q call = some cycle) :
    q.perform call w = (cycle.report, w.after cycle) := by
  obtain ⟨f, bound, rfl⟩ := Option.map_eq_some_iff.mp h
  cases call with
  | returns | returnsWith | throws | runs => exact check_eq bound rfl
  | fetch =>
    refine Prod.ext ?_ (fetch_snd bound)
    rw [perform_fetch_fst, fetch_fst bound, Factory.answer, Cycle.report]
    cases (f.openNth (w.calls q.factory)).2 with
    | error source => rfl
    | ok c => rfl

end Query

/-! ## Runs -/

/-- What is done with builders and queries, which are named by their place in the order in which
they were made. -/
inductive Step where
  | withBackend (builder : Nat) (s : Surroundings) (b : Backend)
  | withFactory (builder : Nat) (f : Factory)
  | copyBuilder (builder : Nat)
  | bind (builder : Nat) (sql : String)
  | copyQuery (query : Nat)
  | call (query : Nat) (call : Query.Call)

/-- Builders and queries that were made so far, in a world. -/
structure Bench where
  builders : List Builder
  queries : List Query
  world : World

namespace Bench

/-- A bench with one builder, which is bound to the fixture data. -/
def start (s : Surroundings) : Bench :=
  let (builder, w) := Builder.initial s .empty
  ⟨[builder], [], w⟩

/-- Adds a builder that is made from another one. -/
def derive (b : Bench) (parent : Nat) (make : Builder → Act Builder) : Bench :=
  match b.builders[parent]? with
  | none => b
  | some builder =>
    let (derived, w) := make builder b.world
    { b with builders := b.builders ++ [derived], world := w }

/-- Does one thing; what names no builder or query does nothing. -/
def step (b : Bench) : Step → Bench
  | .withBackend i s backend => b.derive i fun _ => Builder.withBackend s backend
  | .withFactory i f => b.derive i fun _ => Builder.withFactory f
  | .copyBuilder i => b.derive i pure
  | .bind i sql => { b with queries := b.queries ++ (b.builders[i]?.map (·.query sql)).toList }
  | .copyQuery i => { b with queries := b.queries ++ b.queries[i]?.toList }
  | .call i call =>
    match b.queries[i]? with
    | none => b
    | some q => { b with world := (q.perform call b.world).2 }

/-- Does some things, one after the other. -/
def run (b : Bench) : List Step → Bench
  | [] => b
  | s :: steps => (b.step s).run steps

/-- The cycle that a step is, if it is a call. -/
def cycle? (b : Bench) : Step → Option Cycle
  | .call i call => b.queries[i]?.bind fun q => b.world.cycle? q call
  | _ => none

/-- The cycles of a run. -/
def cycles (b : Bench) : List Step → List Cycle
  | [] => []
  | s :: steps => (b.cycle? s).toList ++ (b.step s).cycles steps

/-- Builders and queries are bound to factories that are there. -/
structure Bound (b : Bench) : Prop where
  builders : ∀ x ∈ b.builders, x.factory < b.world.factories.length
  queries : ∀ q ∈ b.queries, q.factory < b.world.factories.length

/-- All builders, queries and factories stay as they are. -/
structure Kept (b b' : Bench) : Prop where
  builders : b.builders <+: b'.builders
  queries : b.queries <+: b'.queries
  factories : b.world.factories <+: b'.world.factories

/-- Nothing happens but that a builder or a query may be added. -/
structure Derived (b b' : Bench) : Prop extends b.Kept b' where
  log : b'.world.log = b.world.log
  traffic : b'.world.traffic = b.world.traffic

variable {b : Bench}

theorem Kept.refl (b : Bench) : b.Kept b :=
  ⟨List.prefix_rfl, List.prefix_rfl, List.prefix_rfl⟩

theorem Kept.trans {b₁ b₂ b₃ : Bench} (h : b₁.Kept b₂) (h' : b₂.Kept b₃) : b₁.Kept b₃ :=
  ⟨h.builders.trans h'.builders, h.queries.trans h'.queries, h.factories.trans h'.factories⟩

theorem Derived.refl (b : Bench) : b.Derived b := ⟨.refl b, rfl, rfl⟩

/-! Steps. -/

theorem derive_withFactory (b : Bench) (i : Nat) (f : Factory) :
    b.derive i (fun _ => Builder.withFactory f) = match b.builders[i]? with
      | none => b
      | some _ => ⟨b.builders ++ [⟨b.world.factories.length⟩], b.queries,
        { b.world with factories := b.world.factories ++ [f] }⟩ := by
  rw [derive]
  cases b.builders[i]? with
  | none => rfl
  | some builder => rfl

theorem Bound.withFactory (bound : b.Bound) (i : Nat) (f : Factory) :
    (b.step (.withFactory i f)).Bound ∧ b.Derived (b.step (.withFactory i f)) := by
  rw [step, derive_withFactory]
  cases b.builders[i]? with
  | none => exact ⟨bound, .refl b⟩
  | some builder =>
    refine ⟨⟨?_, ?_⟩, ⟨List.prefix_append .., List.prefix_rfl, List.prefix_append ..⟩, rfl, rfl⟩
    · intro x mem
      rw [List.length_append, List.length_singleton]
      rcases List.mem_append.mp mem with old | new
      · exact Nat.lt_succ_of_lt (bound.builders x old)
      · rw [List.mem_singleton.mp new]
        exact Nat.lt_succ_self _
    · intro q mem
      rw [List.length_append, List.length_singleton]
      exact Nat.lt_succ_of_lt (bound.queries q mem)

theorem Bound.addQueries (bound : b.Bound) {queries : List Query}
    (new : ∀ q ∈ queries, q.factory < b.world.factories.length) :
    ({ b with queries := b.queries ++ queries } : Bench).Bound
      ∧ b.Derived { b with queries := b.queries ++ queries } := by
  refine ⟨⟨bound.builders, ?_⟩, ⟨List.prefix_rfl, List.prefix_append .., List.prefix_rfl⟩,
    rfl, rfl⟩
  intro q mem
  rcases List.mem_append.mp mem with made | added
  · exact bound.queries q made
  · exact new q added

/-- A query on the bench can be called, and the call is one cycle. -/
theorem Bound.cycle (bound : b.Bound) {i : Nat} {q : Query} (made : b.queries[i]? = some q) :
    ∃ f, b.world.factories[q.factory]? = some f ∧ ∀ call,
      let cycle : Cycle := ⟨q, call, f.openNth (b.world.calls q.factory)⟩
      b.cycle? (.call i call) = some cycle
        ∧ q.perform call b.world = (cycle.report, b.world.after cycle)
        ∧ b.step (.call i call) = { b with world := b.world.after cycle } := by
  have here : q.factory < b.world.factories.length :=
    bound.queries q (List.mem_of_getElem? made)
  refine ⟨_, List.getElem?_eq_getElem here, fun call => ?_⟩
  have found : b.world.cycle? q call
      = some ⟨q, call, b.world.factories[q.factory].openNth (b.world.calls q.factory)⟩ := by
    rw [World.cycle?, List.getElem?_eq_getElem here]
    rfl
  refine ⟨?_, Query.perform_eq found, ?_⟩
  · rw [cycle?, made]
    exact found
  · rw [step, made]
    simp only [Query.perform_eq found]

/-- What a step can do: it is a derivation, or it is the cycle of a call. -/
theorem Bound.step_cases (bound : b.Bound) (s : Step) :
    (b.step s).Bound ∧ (b.cycle? s = none ∧ b.Derived (b.step s)
      ∨ ∃ cycle, b.cycle? s = some cycle ∧ b.step s = { b with world := b.world.after cycle }) := by
  cases s with
  | withFactory i f =>
    obtain ⟨kept, derived⟩ := bound.withFactory i f
    exact ⟨kept, .inl ⟨rfl, derived⟩⟩
  | withBackend i s backend =>
    obtain ⟨kept, derived⟩ := bound.withFactory i (s.factory backend)
    exact ⟨kept, .inl ⟨rfl, derived⟩⟩
  | copyBuilder i =>
    rw [step, derive]
    cases made : b.builders[i]? with
    | none => exact ⟨bound, .inl ⟨rfl, .refl b⟩⟩
    | some builder =>
      refine ⟨⟨?_, bound.queries⟩, .inl ⟨rfl, ⟨List.prefix_append .., List.prefix_rfl,
        List.prefix_rfl⟩, rfl, rfl⟩⟩
      intro x mem
      rcases List.mem_append.mp mem with old | new
      · exact bound.builders x old
      · rw [List.mem_singleton.mp new]
        exact bound.builders builder (List.mem_of_getElem? made)
  | bind i sql =>
    have new : ∀ q ∈ (b.builders[i]?.map (·.query sql)).toList,
        q.factory < b.world.factories.length := by
      intro q mem
      obtain ⟨builder, made, rfl⟩ := Option.map_eq_some_iff.mp (Option.mem_toList.mp mem)
      exact bound.builders builder (List.mem_of_getElem? made)
    obtain ⟨kept, derived⟩ := bound.addQueries new
    exact ⟨kept, .inl ⟨rfl, derived⟩⟩
  | copyQuery i =>
    have new : ∀ q ∈ b.queries[i]?.toList, q.factory < b.world.factories.length := by
      intro q mem
      exact bound.queries q (List.mem_of_getElem? (Option.mem_toList.mp mem))
    obtain ⟨kept, derived⟩ := bound.addQueries new
    exact ⟨kept, .inl ⟨rfl, derived⟩⟩
  | call i call =>
    cases made : b.queries[i]? with
    | none =>
      have idle : b.step (.call i call) = b := by rw [step, made]
      rw [idle]
      exact ⟨bound, .inl ⟨by rw [cycle?, made]; rfl, .refl b⟩⟩
    | some q =>
      obtain ⟨f, -, called⟩ := bound.cycle made
      obtain ⟨cycle, -, next⟩ := called call
      rw [next]
      exact ⟨⟨bound.builders, bound.queries⟩, .inr ⟨_, cycle, rfl⟩⟩

/-! Runs. -/

theorem bound_start (s : Surroundings) : (start s).Bound := by
  refine ⟨?_, fun q mem => nomatch mem⟩
  intro x mem
  rw [List.mem_singleton.mp mem]
  exact Nat.zero_lt_one

/-- Along a run nothing that is there changes, and the log grows by the cycles of the calls. -/
theorem Bound.run (bound : b.Bound) (steps : List Step) :
    (b.run steps).Bound ∧ b.Kept (b.run steps)
      ∧ (b.run steps).world.log = b.world.log ++ (b.cycles steps).flatMap Cycle.events
      ∧ (b.run steps).world.traffic
        = (b.cycles steps).foldl (fun t c => t.append c.traffic) b.world.traffic := by
  induction steps generalizing b with
  | nil => exact ⟨bound, .refl b, (List.append_nil _).symm, rfl⟩
  | cons s steps ih =>
    obtain ⟨next, does⟩ := bound.step_cases s
    obtain ⟨last, kept, log, traffic⟩ := ih next
    rw [Bench.run, cycles]
    refine ⟨last, ?_⟩
    rcases does with ⟨none, derived⟩ | ⟨cycle, some, called⟩
    · rw [none]
      refine ⟨derived.toKept.trans kept, ?_, ?_⟩
      · rw [log, derived.log]
        rfl
      · rw [traffic, derived.traffic]
        rfl
    · -- A call changes the log and the traffic, and neither builders nor queries nor factories.
      rw [some]
      have same : b.Kept (b.step s) := by
        rw [called]
        exact ⟨List.prefix_rfl, List.prefix_rfl, List.prefix_rfl⟩
      refine ⟨same.trans kept, ?_, ?_⟩
      · rw [log, called]
        simp [World.after]
      · rw [traffic, called]
        rfl

/-- A run in which the factory of a query is not called leaves it as it is. -/
theorem Bound.untouched (bound : b.Bound) {i : Nat} {q : Query} (made : b.queries[i]? = some q)
    {more : List Step} (apart : ∀ c ∈ b.cycles more, c.query.factory ≠ q.factory) :
    ∃ f, b.world.factories[q.factory]? = some f
      ∧ (b.run more).world.factories[q.factory]? = some f
      ∧ (b.run more).world.calls q.factory = b.world.calls q.factory := by
  obtain ⟨f, found, -⟩ := bound.cycle made
  obtain ⟨-, kept, log, -⟩ := bound.run more
  refine ⟨f, found, ?_, ?_⟩
  · obtain ⟨others, same⟩ := kept.factories
    rw [← same, List.getElem?_append_left (List.getElem?_eq_some_iff.mp found).1]
    exact found
  · -- The number of calls is counted in the log, which has grown by cycles of other factories only.
    have uncalled : ((b.cycles more).flatMap Cycle.events).count (.called q.factory) = 0 := by
      rw [Cycle.count_flatMap_events _ (Cycle.count_called · q.factory), List.countP_eq_zero]
      simpa using apart
    rw [World.calls, log, List.count_append, uncalled, Nat.add_zero]
    rfl

theorem Bound.derived (bound : b.Bound) {step : Step} (building : ∀ i call, step ≠ .call i call) :
    b.cycle? step = none ∧ b.Derived (b.step step) := by
  have none : b.cycle? step = none := by
    cases step with
    | call i call => exact absurd rfl (building i call)
    | withBackend | withFactory | copyBuilder | bind | copyQuery => rfl
  obtain ⟨-, ⟨-, derived⟩ | ⟨cycle, some, -⟩⟩ := bound.step_cases step
  · exact ⟨none, derived⟩
  · rw [none] at some
    cases some

/-- A builder that is derived with a factory has it for itself. -/
theorem Bound.own_factory (bound : b.Bound) {i : Nat} (f : Factory) (here : i < b.builders.length) :
    ∃ new, (b.step (.withFactory i f)).builders = b.builders ++ [new]
      ∧ (b.step (.withFactory i f)).world.factories[new.factory]? = some f
      ∧ (∀ x ∈ b.builders, x.factory ≠ new.factory)
      ∧ ∀ q ∈ b.queries, q.factory ≠ new.factory := by
  refine ⟨⟨b.world.factories.length⟩, ?_, ?_, ?_, ?_⟩
  · rw [step, derive_withFactory, List.getElem?_eq_getElem here]
  · rw [step, derive_withFactory, List.getElem?_eq_getElem here]
    exact List.getElem?_concat_length
  · intro x mem
    exact Nat.ne_of_lt (bound.builders x mem)
  · intro q mem
    exact Nat.ne_of_lt (bound.queries q mem)

/-- A call does the same after a run in which its factory was not called. -/
theorem Bound.independent (bound : b.Bound) {i : Nat} {q : Query} (made : b.queries[i]? = some q)
    {more : List Step} (apart : ∀ c ∈ b.cycles more, c.query.factory ≠ q.factory) :
    (q.fetch (b.run more).world).1 = (q.fetch b.world).1
      ∧ ∀ call, (b.run more).world.cycle? q call = b.world.cycle? q call
        ∧ (q.perform call (b.run more).world).1 = (q.perform call b.world).1 := by
  obtain ⟨f, found, found', calls⟩ := bound.untouched made apart
  refine ⟨?_, fun call => ?_⟩
  · rw [Query.fetch_fst found', Query.fetch_fst found, calls]
  · have before : b.world.cycle? q call
        = some ⟨q, call, f.openNth (b.world.calls q.factory)⟩ := by
      rw [World.cycle?, found]
      rfl
    have after : (b.run more).world.cycle? q call = b.world.cycle? q call := by
      rw [World.cycle?, World.cycle?, found, found', calls]
    refine ⟨after, ?_⟩
    rw [Query.perform_eq before, Query.perform_eq (after.trans before)]

/-- Every call is one cycle on the factory that its query is bound to, and the log is that of the
cycles. Derivations log nothing; a builder that is derived with a factory has it for itself; and
as long as the factory of a query is not called, nothing else changes what its calls do. -/
theorem calls_are_cycles (s : Surroundings) (steps : List Step) :
    let b := (start s).run steps
    let cycles := (start s).cycles steps
    (b.world.log = cycles.flatMap Cycle.events
      ∧ b.world.traffic = cycles.foldl (fun t c => t.append c.traffic) .empty
      ∧ ∀ factory, b.world.calls factory = cycles.countP (·.query.factory = factory)
        ∧ b.world.closings factory = cycles.countP (·.Opens factory)
        ∧ ∀ sql, b.world.log.count (.executed factory sql)
          = cycles.countP fun c => c.Opens factory ∧ c.query.sql = sql)
    ∧ (∀ step, (∀ i call, step ≠ .call i call) → b.cycle? step = none ∧ b.Derived (b.step step))
    ∧ (∀ i f, i < b.builders.length →
      ∃ new, (b.step (.withFactory i f)).builders = b.builders ++ [new]
        ∧ (b.step (.withFactory i f)).world.factories[new.factory]? = some f
        ∧ (∀ x ∈ b.builders, x.factory ≠ new.factory) ∧ ∀ q ∈ b.queries, q.factory ≠ new.factory)
    ∧ (∀ i q, b.queries[i]? = some q → ∃ f, b.world.factories[q.factory]? = some f ∧ ∀ call,
      let cycle : Cycle := ⟨q, call, f.openNth (b.world.calls q.factory)⟩
      b.cycle? (.call i call) = some cycle
        ∧ q.perform call b.world = (cycle.report, b.world.after cycle)
        ∧ b.step (.call i call) = { b with world := b.world.after cycle })
    ∧ ∀ more, b.Kept (b.run more) ∧ ∀ (i : Nat) (q : Query), b.queries[i]? = some q →
      (∀ c ∈ b.cycles more, c.query.factory ≠ q.factory) →
        (q.fetch (b.run more).world).1 = (q.fetch b.world).1
          ∧ ∀ call, (b.run more).world.cycle? q call = b.world.cycle? q call
            ∧ (q.perform call (b.run more).world).1 = (q.perform call b.world).1 := by
  intro b cycles
  obtain ⟨bound, -, log, traffic⟩ := (bound_start s).run steps
  have logged : b.world.log = cycles.flatMap Cycle.events := log
  refine ⟨⟨logged, traffic, fun factory => ⟨?_, ?_, fun sql => ?_⟩⟩,
    fun step building => bound.derived building, fun i f here => bound.own_factory f here,
    fun i q made => bound.cycle made,
    fun more => ⟨(bound.run more).2.1, fun i q made apart => bound.independent made apart⟩⟩
  · rw [World.calls, logged, Cycle.count_flatMap_events _ (Cycle.count_called · factory)]
  · rw [World.closings, logged, Cycle.count_flatMap_events _ (Cycle.count_closed · factory)]
  · rw [logged, Cycle.count_flatMap_events _ (Cycle.count_executed · factory sql)]

/-- Two builders that are derived from the first one, with a factory whose connections break down
and with one that never opens a connection, and calls on queries of both. -/
def sampleSteps : List Step :=
  [.withFactory 0 Query.breakingFactory, .withFactory 0 (.failing (.system "no")),
    .bind 1 "select 1", .bind 2 "select 2", .copyQuery 0,
    .call 0 (.throws "boom"), .call 1 .runs, .call 2 .fetch]

theorem sampleSteps_cycles :
    let s : Surroundings := ⟨⟨.absent, .absent, none⟩, none⟩
    let b := (start s).run sampleSteps
    b.world.log = [.called 1, .executed 1 "select 1", .judged 1, .closed 1, .called 2,
        .called 1, .executed 1 "select 1", .closed 1]
      ∧ b.world.calls 1 = 2 ∧ b.world.closings 1 = 2 ∧ b.world.closings 2 = 0 := by
  intro s b
  obtain ⟨⟨log, -, counts⟩, -⟩ := calls_are_cycles s sampleSteps
  obtain ⟨calls, closings, -⟩ := counts 1
  obtain ⟨-, none, -⟩ := counts 2
  refine ⟨log.trans ?_, calls.trans ?_, closings.trans ?_, none.trans ?_⟩
  all_goals decide +kernel

end Bench

end RowCheck
