import RowCheck.Server.Session
import RowCheck.Proofs.Server.Exchange

/-!
# Loss of a connection

Runs of queries on one connection. Until the connection is lost every query gets the server's reply
to it; the first query after the loss reports the loss, and every later one finds the connection
closed.
-/

namespace RowCheck.Server

namespace Session

/-- What a query returns. -/
abbrev Outcome := Except Failure Results

/-- What a query returns that finds the connection lost, for a reason not reported so far. -/
def lossReport (reason : String) : Outcome := .error (.error (.connectionLost reason))

/-- What a query returns that finds the connection closed. -/
def closedReport : Outcome := .error (.error (.server .closed))

/-- Runs some queries, one after the other. -/
def run (s : Session) : List String → List Outcome × Session
  | [] => ([], s)
  | sql :: queries =>
    let (outcome, s) := s.execute sql
    let (outcomes, s) := s.run queries
    (outcome :: outcomes, s)

/-- The server's own reply to a query. -/
def own (s : Session) (sql : String) : Outcome := (s.mode.execute s.script sql).outcome

/-- The session after statements have reached the server. -/
def reached (s : Session) (statements : List String) : Session :=
  { s with traffic := s.traffic.append ⟨[], statements⟩ }

/-- The session after its connection is lost. -/
def broken (s : Session) (reason : String) : Session := { s with link := .lost (some reason) }

/-- None of the queries costs the connection. -/
def Intact (s : Session) (queries : List String) : Prop :=
  ∀ sql ∈ queries, ∀ reason, ¬ BreaksOff s.script sql s.mode reason

/-- The query with number `i` is the first one that costs the connection, for a reason. -/
def LosesAt (s : Session) (queries : List String) (i : Nat) (reason : String) : Prop :=
  s.Intact (queries.take i) ∧
    ∃ sql, queries[i]? = some sql ∧ BreaksOff s.script sql s.mode reason

variable {s : Session} {sql reason : String} {queries : List String}

/-! ## Steps -/

/-- A query on a connection that stays up. -/
theorem execute_of_intact (up : s.link = .up) (sendable : Text.hasNul sql = false)
    (stays : ∀ reason, ¬ BreaksOff s.script sql s.mode reason) :
    s.execute sql = (s.own sql, s.reached [sql]) := by
  have kept : (s.mode.execute s.script sql).lost? = none := by
    rw [Option.eq_none_iff_forall_ne_some]
    exact fun reason lost => stays reason (breaksOff_iff.mpr lost)
  simp [execute, up, sendable, kept, own, reached]

/-- The query that costs the connection. -/
theorem execute_of_breaksOff (up : s.link = .up) (sendable : Text.hasNul sql = false)
    (breaks : BreaksOff s.script sql s.mode reason) :
    s.execute sql = (s.own sql, (s.reached [sql]).broken reason) := by
  have lost := breaksOff_iff.mp breaks
  simp [execute, up, sendable, lost, own, reached, broken]

/-- The query that reports the loss. -/
theorem execute_of_lost (lost : s.link = .lost (some reason)) :
    s.execute sql = (lossReport reason, { s with link := .lost none }) := by
  rw [execute, lost]
  rfl

/-- A query after the report. -/
theorem execute_of_closed (closed : s.link = .lost none) (sendable : Text.hasNul sql = false) :
    s.execute sql = (closedReport, s) := by
  simp [execute, closed, sendable, closedReport]

/-! ## Runs -/

theorem run_cons (s : Session) (sql : String) (queries : List String) :
    s.run (sql :: queries)
      = ((s.execute sql).1 :: ((s.execute sql).2.run queries).1,
        ((s.execute sql).2.run queries).2) :=
  rfl

theorem length_run (s : Session) (queries : List String) :
    (s.run queries).1.length = queries.length := by
  induction queries generalizing s with
  | nil => rfl
  | cons sql queries ih => rw [run_cons, List.length_cons, List.length_cons, ih]

theorem reached_nil (s : Session) : s.reached [] = s := by
  simp [reached, Traffic.append]

theorem reached_reached (s : Session) (a b : List String) :
    (s.reached a).reached b = s.reached (a ++ b) := by
  simp [reached, Traffic.append]

/-- As long as no query costs the connection, every query gets the server's reply to it. -/
theorem run_of_intact (up : s.link = .up) (sendable : ∀ sql ∈ queries, Text.hasNul sql = false)
    (stays : s.Intact queries) : s.run queries = (queries.map s.own, s.reached queries) := by
  induction queries generalizing s with
  | nil => rw [reached_nil]; rfl
  | cons sql queries ih =>
    rw [List.forall_mem_cons] at sendable
    obtain ⟨first, others⟩ := List.forall_mem_cons.mp stays
    have rest : (s.reached [sql]).run queries
        = (queries.map s.own, (s.reached [sql]).reached queries) := ih up sendable.2 others
    rw [run_cons, execute_of_intact up sendable.1 first, rest, reached_reached]
    rfl

/-- Once the loss is reported, every query finds the connection closed. -/
theorem run_of_closed (closed : s.link = .lost none)
    (sendable : ∀ sql ∈ queries, Text.hasNul sql = false) :
    s.run queries = (queries.map fun _ => closedReport, s) := by
  induction queries with
  | nil => rfl
  | cons sql queries ih =>
    rw [List.forall_mem_cons] at sendable
    rw [run_cons, execute_of_closed closed sendable.1, ih sendable.2]
    rfl

/-- What the queries after a loss return. -/
def afterLoss (reason : String) : List String → List Outcome
  | [] => []
  | _ :: queries => lossReport reason :: queries.map fun _ => closedReport

/-- After a loss nothing reaches the server. -/
theorem run_of_lost (lost : s.link = .lost (some reason))
    (sendable : ∀ sql ∈ queries, Text.hasNul sql = false) :
    (s.run queries).1 = afterLoss reason queries ∧ (s.run queries).2.traffic = s.traffic := by
  cases queries with
  | nil => exact ⟨rfl, rfl⟩
  | cons sql queries =>
    rw [List.forall_mem_cons] at sendable
    rw [run_cons, execute_of_lost lost, run_of_closed rfl sendable.2]
    exact ⟨rfl, rfl⟩

theorem losesAt_cons_zero :
    s.LosesAt (sql :: queries) 0 reason ↔ BreaksOff s.script sql s.mode reason := by
  simp [LosesAt, Intact]

theorem losesAt_cons_succ {i : Nat} :
    s.LosesAt (sql :: queries) (i + 1) reason ↔
      (∀ reason, ¬ BreaksOff s.script sql s.mode reason) ∧ s.LosesAt queries i reason := by
  rw [LosesAt, LosesAt, List.take_succ_cons, Intact, List.forall_mem_cons, List.getElem?_cons_succ,
    and_assoc]
  rfl

/-- A run on which the connection is lost: the server's replies up to the loss, then what follows
it. No statement reaches the server after the one that costs the connection. -/
theorem run_of_losesAt {i : Nat} (up : s.link = .up)
    (sendable : ∀ sql ∈ queries, Text.hasNul sql = false) (loses : s.LosesAt queries i reason) :
    (s.run queries).1
        = (queries.take (i + 1)).map s.own ++ afterLoss reason (queries.drop (i + 1)) ∧
      (s.run queries).2.traffic = (s.reached (queries.take (i + 1))).traffic := by
  induction queries generalizing s i with
  | nil =>
    obtain ⟨-, sql, found, -⟩ := loses
    cases found
  | cons sql queries ih =>
    rw [List.forall_mem_cons] at sendable
    -- The induction follows the run: the first query either costs the connection or leaves a
    -- session of the same script that loses it one query earlier.
    cases i with
    | zero =>
      have breaks := losesAt_cons_zero.mp loses
      have rest : (((s.reached [sql]).broken reason).run queries).1 = afterLoss reason queries ∧
          (((s.reached [sql]).broken reason).run queries).2.traffic = (s.reached [sql]).traffic :=
        run_of_lost rfl sendable.2
      rw [run_cons, execute_of_breaksOff up sendable.1 breaks, rest.1]
      exact ⟨rfl, rest.2⟩
    | succ i =>
      obtain ⟨stays, loses⟩ := losesAt_cons_succ.mp loses
      have rest := ih (s := s.reached [sql]) up sendable.2 loses
      rw [reached_reached] at rest
      rw [run_cons, execute_of_intact up sendable.1 stays, rest.1]
      exact ⟨rfl, rest.2⟩

theorem LosesAt.le_of_intact {i k : Nat} (loses : s.LosesAt queries k reason)
    (stays : s.Intact (queries.take i)) : i ≤ k := by
  obtain ⟨-, sql, found, breaks⟩ := loses
  refine Nat.le_of_not_lt fun before => ?_
  have front : (queries.take i)[k]? = some sql := by
    rw [List.getElem?_take_of_lt before, found]
  exact stays sql (List.mem_of_getElem? front) reason breaks

/-- Either the connection survives all queries, or some query is the first that costs it. -/
theorem intact_or_losesAt (s : Session) (queries : List String) :
    s.Intact queries ∨ ∃ i reason, s.LosesAt queries i reason := by
  induction queries with
  | nil => exact .inl (List.forall_mem_nil _)
  | cons sql queries ih =>
    by_cases breaks : ∃ reason, BreaksOff s.script sql s.mode reason
    · obtain ⟨reason, breaks⟩ := breaks
      exact .inr ⟨0, reason, losesAt_cons_zero.mpr breaks⟩
    · have stays := not_exists.mp breaks
      rcases ih with others | ⟨i, reason, loses⟩
      · exact .inl (List.forall_mem_cons.mpr ⟨stays, others⟩)
      · exact .inr ⟨i + 1, reason, losesAt_cons_succ.mpr ⟨stays, loses⟩⟩

/-! ## Single queries of a run -/

theorem getElem?_run_of_intact {i : Nat} (up : s.link = .up)
    (sendable : ∀ sql ∈ queries, Text.hasNul sql = false) (stays : s.Intact (queries.take i))
    (found : queries[i]? = some sql) : (s.run queries).1[i]? = some (s.own sql) := by
  rcases intact_or_losesAt s queries with stays | ⟨k, reason, loses⟩
  · rw [run_of_intact up sendable stays, List.getElem?_map, found]
    rfl
  · have le : i ≤ k := loses.le_of_intact stays
    have short : i < ((queries.take (k + 1)).map s.own).length := by
      have := (List.getElem?_eq_some_iff.mp found).1
      simp
      omega
    rw [(run_of_losesAt up sendable loses).1, List.getElem?_append_left short, List.getElem?_map,
      List.getElem?_take_of_lt (by omega), found]
    rfl

theorem getElem?_afterLoss {k : Nat} (h : k < queries.length) :
    (afterLoss reason queries)[k]? = some (if k = 0 then lossReport reason else closedReport) := by
  cases queries with
  | nil => cases h
  | cons sql queries =>
    cases k with
    | zero => rfl
    | succ k =>
      rw [List.length_cons] at h
      rw [afterLoss, List.getElem?_cons_succ, List.getElem?_map,
        List.getElem?_eq_getElem (by omega)]
      rfl

theorem getElem?_run_of_losesAt {i j : Nat} (up : s.link = .up)
    (sendable : ∀ sql ∈ queries, Text.hasNul sql = false) (loses : s.LosesAt queries i reason)
    (later : i < j) (h : j < queries.length) :
    (s.run queries).1[j]? = some (if j = i + 1 then lossReport reason else closedReport) := by
  have front : ((queries.take (i + 1)).map s.own).length = i + 1 := by
    simp
    omega
  rw [(run_of_losesAt up sendable loses).1, List.getElem?_append_right (by omega), front,
    getElem?_afterLoss (by simp; omega)]
  by_cases next : j = i + 1
  · rw [if_pos next, if_pos (by omega)]
  · rw [if_neg next, if_neg (by omega)]

theorem own_ne_lossReport (s : Session) (sql reason : String) : s.own sql ≠ lossReport reason :=
  s.mode.outcome_ne_connectionLost s.script sql reason

/-- The only query that reports a loss is the one right after the loss. -/
theorem getElem?_run_eq_lossReport {j : Nat} (up : s.link = .up)
    (sendable : ∀ sql ∈ queries, Text.hasNul sql = false) :
    (s.run queries).1[j]? = some (lossReport reason) ↔
      j < queries.length ∧ ∃ i, j = i + 1 ∧ s.LosesAt queries i reason := by
  constructor
  · intro reported
    have h : j < queries.length := by
      rw [← length_run s queries]
      exact (List.getElem?_eq_some_iff.mp reported).1
    refine ⟨h, ?_⟩
    -- Up to the loss the outcomes are the server's own, and these never report a loss.
    have early (stays : s.Intact (queries.take j)) : False := by
      rw [getElem?_run_of_intact up sendable stays (List.getElem?_eq_getElem h)] at reported
      exact own_ne_lossReport s _ reason (Option.some.inj reported)
    rcases intact_or_losesAt s queries with stays | ⟨i, reason', loses⟩
    · exact (early fun sql hq => stays sql (List.mem_of_mem_take hq)).elim
    · have later : i < j := Nat.lt_of_not_le fun le =>
        early fun sql hq => loses.1 sql (List.take_subset_take_left queries le hq)
      rw [getElem?_run_of_losesAt up sendable loses later h] at reported
      by_cases next : j = i + 1
      · rw [if_pos next] at reported
        cases reported
        exact ⟨i, next, loses⟩
      · rw [if_neg next] at reported
        cases reported
  · rintro ⟨h, i, rfl, loses⟩
    rw [getElem?_run_of_losesAt up sendable loses (by omega) h, if_pos rfl]

/-- The loss of a connection is reported once and is final. Until it happens a query returns what
any server would make it return that has the same types and the same reply to it. Once it has
happened no statement reaches the server; the next query reports the loss with its reason, and all
queries after that one find the connection closed. -/
theorem loss_reported_once (s : Session) (queries : List String) (up : s.link = .up)
    (sendable : ∀ sql ∈ queries, Text.hasNul sql = false) :
    (∀ (i : Nat) (sql : String) (script : Script), queries[i]? = some sql →
      s.Intact (queries.take i) → script.types = s.script.types →
      script.reply sql = s.script.reply sql →
      (s.run queries).1[i]? = some (s.mode.execute script sql).outcome) ∧
    (s.Intact queries → (s.run queries).2.link = .up ∧
      (s.run queries).2.traffic.statements = s.traffic.statements ++ queries) ∧
    (∀ (i : Nat) (reason : String), s.LosesAt queries i reason →
      (s.run queries).2.traffic.statements = s.traffic.statements ++ queries.take (i + 1) ∧
      ∀ j, i < j → j < queries.length →
        (s.run queries).1[j]? = some (if j = i + 1 then lossReport reason else closedReport)) ∧
    (∀ (j : Nat) (reason : String), (s.run queries).1[j]? = some (lossReport reason) ↔
      j < queries.length ∧ ∃ i, j = i + 1 ∧ s.LosesAt queries i reason) ∧
    ∀ (j j' : Nat) (reason reason' : String), (s.run queries).1[j]? = some (lossReport reason) →
      (s.run queries).1[j']? = some (lossReport reason') → j = j' := by
  refine ⟨?_, ?_, ?_, ?_, ?_⟩
  · intro i sql script found stays types reply
    rw [s.mode.execute_congr types reply]
    exact getElem?_run_of_intact up sendable stays found
  · intro stays
    rw [run_of_intact up sendable stays]
    exact ⟨up, rfl⟩
  · intro i reason loses
    refine ⟨?_, fun j later h => getElem?_run_of_losesAt up sendable loses later h⟩
    rw [(run_of_losesAt up sendable loses).2]
    rfl
  · intro j reason
    exact getElem?_run_eq_lossReport up sendable
  · intro j j' reason reason' first second
    obtain ⟨-, i, rfl, loses⟩ := (getElem?_run_eq_lossReport up sendable).mp first
    obtain ⟨-, i', rfl, loses'⟩ := (getElem?_run_eq_lossReport up sendable).mp second
    rw [Nat.le_antisymm (loses'.le_of_intact loses.1) (loses.le_of_intact loses'.1)]

/-- A server that rejects one query, answers another one and then shuts down. -/
def leavingScript : Script :=
  let shutdown : Report := ⟨"FATAL", "57P01", "shutdown", none, none, none⟩
  ⟨.trust, [], [⟨"last", [], [], 0, none, none, none, [.complete], some shutdown⟩]⟩

/-- A session with that server, of which it has not heard yet. -/
def leavingSession : Session := ⟨leavingScript, .native, .up, .empty⟩

theorem loss_of_leavingSession :
    leavingSession.link = .up ∧
      (∀ sql ∈ ["typo", "last", "x", "y"], Text.hasNul sql = false) ∧
      leavingSession.LosesAt ["typo", "last", "x", "y"] 1 "db error" ∧
      (leavingSession.run ["typo", "last", "x", "y"]).2.traffic.statements = ["typo", "last"] ∧
      (leavingSession.run ["typo", "last", "x", "y"]).1[2]? = some (lossReport "db error") ∧
      (leavingSession.run ["typo", "last", "x", "y"]).1[3]? = some closedReport := by
  have sendable : ∀ sql ∈ ["typo", "last", "x", "y"], Text.hasNul sql = false := by decide
  have loses : leavingSession.LosesAt ["typo", "last", "x", "y"] 1 "db error" := by
    refine losesAt_cons_succ.mpr ⟨fun reason breaks => ?_, losesAt_cons_zero.mpr ?_⟩
    · cases breaksOff_iff.mp breaks
    · exact breaksOff_iff.mpr rfl
  obtain ⟨-, -, final, -⟩ := loss_reported_once leavingSession _ rfl sendable
  obtain ⟨reached, later⟩ := final 1 "db error" loses
  exact ⟨rfl, sendable, loses, reached, later 2 (by decide) (by decide),
    later 3 (by decide) (by decide)⟩

end Session

end RowCheck.Server
