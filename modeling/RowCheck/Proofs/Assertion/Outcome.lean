import RowCheck.Assertion

/-!
# What the calls report

Every call that runs a query reports on one thing: what the connection that its factory opens
answers. The calls that judge a query and the one that fetches its rows do different things with
the connection, but what they return depends on that answer alone. So they never disagree about a
factory whose connections answer the same way each time.
-/

namespace RowCheck

namespace Factory

/-- What the connection answers that the factory's call with number `n` opens. -/
def answer (f : Factory) (n : Nat) (sql : String) : Except SetupError (Except Failure Results) :=
  (f.openNth n).2.map fun c => (c.execute sql).1

end Factory

/-- What an expectation makes of the outcome of a query. -/
def Expectation.ruling (sql : String) :
    Expectation → Except Failure Results → Except AssertionError Unit
  | .fails check, .ok _ => (check none).mapError (.rejected sql)
  | .fails check, .error failure => (check (some failure)).mapError (.rejected sql)
  | .rows check, .ok results => (check results.canonical).mapError (.rejected sql)
  | .runs, .ok _ => .ok ()
  | .rows _, .error failure | .runs, .error failure => .error (.execution sql failure.trace)

namespace Query

variable {q : Query} {f : Factory} {w w' : World}

theorem judge_fst (verdict : Verdict) (w : World) :
    (q.judge verdict w).1 = verdict.mapError (.rejected q.sql) := by
  cases verdict with
  | error e => rfl
  | ok u => rfl

/-- On an open connection a judgement depends on nothing but the outcome of the query. -/
theorem judgeOn_fst (e : Expectation) (c : Connection) (w : World) :
    (q.judgeOn e c w).1 = e.ruling q.sql (c.execute q.sql).1 := by
  -- What is done first in every case: the query is run, and this is noted in the world.
  rcases answered : c.execute q.sql with ⟨outcome, c'⟩
  let w₁ := w.note (.executed q.factory q.sql)
  have executed : q.execute c w = ((outcome, c'), w₁) := by rw [execute, answered]
  cases outcome with
  | error failure =>
    cases e with
    | runs | rows check =>
      simp only [judgeOn, bind, StateT.bind, executed]
      rfl
    | fails check =>
      simp only [judgeOn, bind, StateT.bind, executed]
      exact judge_fst (check (some failure)) w₁
  | ok results =>
    cases e with
    | runs =>
      simp only [judgeOn, bind, StateT.bind, executed]
      rfl
    | rows check =>
      -- The connection is closed before the rows are judged.
      simp only [judgeOn, bind, StateT.bind, executed]
      exact judge_fst (check results.canonical) (q.close c' w₁).2
    | fails check =>
      simp only [judgeOn, bind, StateT.bind, executed]
      exact judge_fst (check none) w₁

theorem openConnection_eq (bound : w.factories[q.factory]? = some f) :
    q.openConnection w
      = ((f.openNth (w.calls q.factory)).2.mapError (.setup q.sql),
        (w.note (.called q.factory)).sent (f.openNth (w.calls q.factory)).1) := by
  rw [openConnection, bound]
  cases (f.openNth (w.calls q.factory)).2 with
  | error source => rfl
  | ok c => rfl

/-- A call that judges a query reports that no connection could be opened, or rules on the answer
of the one that was opened. -/
theorem check_fst (bound : w.factories[q.factory]? = some f) (e : Expectation) :
    (q.check e w).1
      = ((f.answer (w.calls q.factory) q.sql).mapError (.setup q.sql)).bind (e.ruling q.sql) := by
  rw [Factory.answer]
  cases opened : (f.openNth (w.calls q.factory)).2 with
  | error source =>
    simp only [check, bind, StateT.bind, openConnection_eq bound, opened]
    rfl
  | ok c =>
    simp only [check, bind, StateT.bind, openConnection_eq bound, opened]
    exact judgeOn_fst e c _

/-- What the call that fetches the rows makes of the outcome of a query. -/
def report (sql : String) : Except Failure Results → Except AssertionError String
  | .ok results => .ok results.canonical
  | .error failure => .error (.execution sql failure.trace)

theorem fetch_fst (bound : w.factories[q.factory]? = some f) :
    (q.fetch w).1
      = ((f.answer (w.calls q.factory) q.sql).mapError (.setup q.sql)).bind (report q.sql) := by
  rw [Factory.answer]
  cases opened : (f.openNth (w.calls q.factory)).2 with
  | error source =>
    simp only [fetch, bind, StateT.bind, openConnection_eq bound, opened]
    rfl
  | ok c =>
    obtain ⟨w₁, opening⟩ : ∃ w₁, q.openConnection w = (.ok c, w₁) :=
      ⟨_, by rw [openConnection_eq bound, opened]; rfl⟩
    change (q.fetch w).1 = report q.sql (c.execute q.sql).1
    rcases answered : c.execute q.sql with ⟨outcome, c'⟩
    simp only [fetch, bind, StateT.bind, opening, execute, answered]
    cases outcome with
    | error failure => rfl
    | ok results => rfl

/-! ## Calls of all kinds -/

/-- The calls that run a query. -/
inductive Call where
  | returns (expected : String)
  | returnsWith (check : String → Verdict)
  | throws (expected : String)
  | runs
  | fetch

/-- Makes a call. Of the rows that are fetched nothing is kept. -/
def perform (q : Query) : Call → Act (Except AssertionError Unit)
  | .returns expected => q.returns expected
  | .returnsWith check => q.returnsWith check
  | .throws expected => q.throws expected
  | .runs => q.runs
  | .fetch => do return (← q.fetch).map fun _ => ()

theorem perform_fetch_fst : (q.perform .fetch w).1 = (q.fetch w).1.map fun _ => () := rfl

/-- If no connection can be opened, that is what every call reports. -/
theorem perform_fst_of_setup (bound : w.factories[q.factory]? = some f) {source : SetupError}
    (refused : f.answer (w.calls q.factory) q.sql = .error source) (call : Call) :
    (q.perform call w).1 = .error (.setup q.sql source) := by
  have judged (e : Expectation) : (q.check e w).1 = .error (.setup q.sql source) := by
    rw [check_fst bound, refused]
    rfl
  cases call with
  | returns | returnsWith | throws | runs => exact judged _
  | fetch =>
    rw [perform_fetch_fst, fetch_fst bound, refused]
    rfl

/-- The calls that judge a query in one world agree with the one that fetches its rows in
another. -/
structure Consistent (q : Query) (w w' : World) : Prop where
  returns_iff : ∀ s, (q.returns s w).1 = .ok () ↔ (q.fetch w').1 = .ok s
  mismatch : ∀ s t, (q.fetch w').1 = .ok t → t ≠ s →
    (q.returns s w).1 = .error (.rejected q.sql (.mismatch s t))
  runs_iff : (q.runs w).1 = .ok () ↔ ∃ t, (q.fetch w').1 = .ok t
  throws_iff : ∀ s, (q.throws s w).1 = .ok () ↔
    ∃ trace, (q.fetch w').1 = .error (.execution q.sql trace) ∧ s.toList <:+: trace.toList
  unexpectedSuccess_iff : ∀ s,
    (q.throws s w).1 = .error (.rejected q.sql (.unexpectedSuccess s)) ↔
      ∃ t, (q.fetch w').1 = .ok t
  missingSubstring : ∀ s trace, (q.fetch w').1 = .error (.execution q.sql trace) →
    ¬ s.toList <:+: trace.toList →
    (q.throws s w).1 = .error (.rejected q.sql (.missingSubstring s trace))
  returns_failure : ∀ s trace, (q.fetch w').1 = .error (.execution q.sql trace) →
    (q.returns s w).1 = .error (.execution q.sql trace)
  returnsWith_failure : ∀ check trace, (q.fetch w').1 = .error (.execution q.sql trace) →
    (q.returnsWith check w).1 = .error (.execution q.sql trace)
  runs_failure : ∀ trace, (q.fetch w').1 = .error (.execution q.sql trace) →
    (q.runs w).1 = .error (.execution q.sql trace)

theorem consistent_of_setup {source : SetupError}
    (judged : ∀ e, (q.check e w).1 = .error (.setup q.sql source))
    (fetched : (q.fetch w').1 = .error (.setup q.sql source)) : q.Consistent w w' := by
  constructor
  all_goals simp [returns, returnsWith, throws, runs, judged, fetched]

theorem consistent_of_failure {failure : Failure}
    (judged : ∀ e, (q.check e w).1 = e.ruling q.sql (.error failure))
    (fetched : (q.fetch w').1 = .error (.execution q.sql failure.trace)) : q.Consistent w w' := by
  have thrown (s : String) : (q.throws s w).1
      = if s.toList <:+: failure.trace.toList then .ok ()
        else .error (.rejected q.sql (.missingSubstring s failure.trace)) := by
    rw [throws, judged, Expectation.ruling, Expectation.failureWith]
    by_cases found : s.toList <:+: failure.trace.toList
    · rw [if_pos (Text.occurs_iff.mpr found), if_pos found]
      rfl
    · rw [if_neg (mt Text.occurs_iff.mp found), if_neg found]
      rfl
  constructor
  case throws_iff => simp [thrown, fetched]
  case unexpectedSuccess_iff =>
    intro s
    rw [thrown, fetched]
    split <;> simp
  case missingSubstring =>
    intro s trace traced missing
    rw [fetched] at traced
    cases traced
    rw [thrown, if_neg missing]
  all_goals simp [returns, returnsWith, runs, judged, fetched, Expectation.ruling]

theorem consistent_of_results {results : Results}
    (judged : ∀ e, (q.check e w).1 = e.ruling q.sql (.ok results))
    (fetched : (q.fetch w').1 = .ok results.canonical) : q.Consistent w w' := by
  have returned (s : String) : (q.returns s w).1
      = if results.canonical = s then .ok ()
        else .error (.rejected q.sql (.mismatch s results.canonical)) := by
    rw [returns, judged, Expectation.ruling, Expectation.exactText]
    split <;> rfl
  have thrown (s : String) :
      (q.throws s w).1 = .error (.rejected q.sql (.unexpectedSuccess s)) := by
    rw [throws, judged]
    rfl
  have ran : (q.runs w).1 = .ok () := by
    rw [runs, judged]
    rfl
  constructor
  case returns_iff => simp [returned, fetched]
  case mismatch =>
    intro s t read different
    rw [fetched] at read
    cases read
    rw [returned, if_neg different]
  all_goals simp [ran, thrown, fetched]

/-- A factory whose connections break down in every query. -/
def breakingFactory : Factory :=
  .ofConnection (.scripted ⟨"scripted", fun _ _ => .error (.panicked "boom"), []⟩)

end Query

end RowCheck
