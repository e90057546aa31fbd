import RowCheck.Proofs.Assertion.Outcome

/-!
# Traces and what they contain

The trace of an error goes through all errors behind it: their messages stand in it one by one, the
nearest first, between the message and the record of the error itself. A query that is expected to
fail with a text is judged by the trace alone, so the text may be a part of any of these, however
deep the chain is.
-/

namespace RowCheck

/-! ## Chains of errors -/

namespace Fault

/-- The error that is reached by going on to the cause so many times. -/
def behind : Nat → Fault → Option Fault
  | 0, e => some e
  | n + 1, e => e.source?.bind (behind n)

/-- That some texts are the messages of all errors behind one: each of them once, the nearest one
first, and none beyond the last. -/
def Tells (e : Fault) (causes : List String) : Prop :=
  ∀ n, causes[n]? = (e.behind (n + 1)).map message

theorem tells_causes (e : Fault) : e.Tells e.causes := by
  induction e with
  | root message record =>
    intro n
    rfl
  | caused message record source ih =>
    intro n
    cases n with
    | zero => rfl
    | succ n => exact ih n

theorem mem_causes {e cause : Fault} {n : Nat} (h : e.behind (n + 1) = some cause) :
    cause.message ∈ e.causes := by
  have listed := e.tells_causes n
  rw [h] at listed
  exact List.mem_of_getElem? listed

@[simp] theorem source?_of (message record : String) (source? : Option Fault) :
    (of message record source?).source? = source? := by
  cases source? <;> rfl

/-- Every chain is behind some error of a backend. -/
theorem exists_backendError (chain : Fault) :
    ∃ e : BackendError, e.fault.behind 2 = some chain := by
  refine ⟨.engine (.unconvertible chain), ?_⟩
  simp [behind, BackendError.fault, BackendError.source?, Sql.Error.fault, Sql.Error.source?]

end Fault

/-! ## Traces -/

/-- That a text stands somewhere inside another. -/
def OccursIn (s t : String) : Prop := s.toList <:+: t.toList

instance (s t : String) : Decidable (OccursIn s t) :=
  inferInstanceAs (Decidable (s.toList <:+: t.toList))

theorem OccursIn.trans {s t u : String} (h : OccursIn s t) (h' : OccursIn t u) : OccursIn s u :=
  List.IsInfix.trans h h'

theorem occursIn_append_right (s t : String) : OccursIn t (s ++ t) := by
  rw [OccursIn, String.toList_append]
  exact (List.suffix_append ..).isInfix

theorem occursIn_empty (t : String) : OccursIn "" t := List.nil_infix

namespace Failure

variable {f : Failure} {e : BackendError}

/-- A trace is its lines, each with a line feed behind it. -/
theorem trace_eq (f : Failure) : f.trace = String.join (f.traceLines.map (· ++ "\n")) := by
  rw [trace, ← String.toList_inj, String.toList_ofList, String.toList_join, List.flatMap_map]
  simp

theorem occursIn_trace {line s : String} (mem : line ∈ f.traceLines) (h : OccursIn s line) :
    OccursIn s f.trace := by
  refine h.trans ?_
  have whole : line.toList ++ ['\n']
      <:+: f.traceLines.flatMap fun line => line.toList ++ ['\n'] :=
    List.infix_of_mem_flatten (List.mem_map_of_mem mem)
  rw [OccursIn, trace, String.toList_ofList]
  exact (List.prefix_append ..).isInfix.trans whole

/-- What the trace of an error shows: its message, those of the errors behind it, and its record. -/
inductive Shows (e : BackendError) : String → Prop
  | message : Shows e e.message
  | cause (n : Nat) (cause : Fault) : e.fault.behind (n + 1) = some cause → Shows e cause.message
  | record : Shows e e.record

theorem Shows.occursIn_trace {part s : String} (shown : Shows e part) (h : OccursIn s part) :
    OccursIn s (error e).trace := by
  cases shown with
  | message => exact Failure.occursIn_trace (by simp [traceLines]) h
  | cause n cause reached =>
    have listed : s!"Caused by: {cause.message}" ∈ (error e).traceLines := by
      have mem := Fault.mem_causes reached
      simp only [traceLines, List.cons_append, List.mem_cons, List.mem_append, List.mem_map]
      exact .inr (.inl ⟨_, mem, rfl⟩)
    exact Failure.occursIn_trace listed (h.trans (occursIn_append_right "Caused by: " _))
  | record => exact Failure.occursIn_trace (by simp [traceLines]) h

end Failure

/-! ## Expecting a failure -/

namespace Query

variable {q : Query} {f : Factory} {w : World} {failure : Failure}

/-- A query that fails is judged by its trace. -/
theorem throws_fst (bound : w.factories[q.factory]? = some f)
    (answered : f.answer (w.calls q.factory) q.sql = .ok (.error failure)) (s : String) :
    (OccursIn s failure.trace → (q.throws s w).1 = .ok ()) ∧
      (¬OccursIn s failure.trace →
        (q.throws s w).1 = .error (.rejected q.sql (.missingSubstring s failure.trace))) := by
  have judged : (q.throws s w).1
      = (Expectation.failureWith s (some failure)).mapError (.rejected q.sql) := by
    rw [throws, check_fst bound, answered]
    rfl
  rw [judged, Expectation.failureWith]
  constructor
  · intro found
    rw [if_pos (Text.occurs_iff.mpr found)]
    rfl
  · intro missing
    rw [if_neg (mt Text.occurs_iff.mp missing)]
    rfl

theorem throws_iff (bound : w.factories[q.factory]? = some f)
    (answered : f.answer (w.calls q.factory) q.sql = .ok (.error failure)) (s : String) :
    (q.throws s w).1 = .ok () ↔ OccursIn s failure.trace := by
  obtain ⟨passes, fails⟩ := throws_fst bound answered s
  refine ⟨fun passed => Classical.byContradiction fun missing => ?_, passes⟩
  rw [fails missing] at passed
  cases passed

/-- The trace of an error has a line for its message, one for each error behind it, in order, and
one for its record. If a query fails with that error, it passes as failing with any text that occurs
in one of those, with every part of a text that it passes with, and with nothing that does not occur
in the trace. -/
theorem throws_sees_all_causes (q : Query) (f : Factory) (w : World) (failure : Failure)
    (bound : w.factories[q.factory]? = some f)
    (answered : f.answer (w.calls q.factory) q.sql = .ok (.error failure)) :
    (∀ e, failure = .error e →
      (∃ causes, e.fault.Tells causes ∧ failure.trace = String.join
        ((e.message :: causes.map ("Caused by: " ++ ·) ++ [e.record]).map (· ++ "\n"))) ∧
      ∀ part s, Failure.Shows e part → OccursIn s part → (q.throws s w).1 = .ok ()) ∧
    (∀ message, failure = .panicked message →
      failure.trace = "panicked: " ++ message ++ "\n" ∧
      ∀ s, OccursIn s failure.message → (q.throws s w).1 = .ok ()) ∧
    (∀ s, (q.throws s w).1 = .ok () ↔ OccursIn s failure.trace) ∧
    (∀ s, ¬OccursIn s failure.trace →
      (q.throws s w).1 = .error (.rejected q.sql (.missingSubstring s failure.trace))) ∧
    (∀ s t, (q.throws s w).1 = .ok () → OccursIn t s → (q.throws t w).1 = .ok ()) ∧
    (q.throws "" w).1 = .ok () := by
  have passes (s : String) : (q.throws s w).1 = .ok () ↔ OccursIn s failure.trace :=
    throws_iff bound answered s
  refine ⟨?_, ?_, passes, fun s => (throws_fst bound answered s).2, ?_,
    (passes "").mpr (occursIn_empty _)⟩
  · rintro e rfl
    refine ⟨⟨e.causes, e.fault.tells_causes, Failure.trace_eq _⟩, fun part s shown occurs => ?_⟩
    exact (passes s).mpr (shown.occursIn_trace occurs)
  · rintro message rfl
    have trace : (Failure.panicked message).trace = "panicked: " ++ message ++ "\n" := by
      rw [Failure.trace_eq, Failure.traceLines, List.map_singleton, String.join_cons,
        String.join_nil, String.append_empty]
      rfl
    refine ⟨trace, fun s occurs => (passes s).mpr ?_⟩
    exact Failure.occursIn_trace (List.mem_singleton.mpr rfl) occurs
  · intro s t passed occurs
    exact (passes t).mpr (occurs.trans ((passes s).mp passed))

/-- An error with a chain of errors behind it. -/
def chainedError : BackendError :=
  .engine (.unconvertible (.caused "outer" "Outer" (.caused "in\nbetween" "Between"
    (.root "inner" "Inner"))))

/-- A factory whose connections fail with that error in every query. -/
def chainedFactory : Factory :=
  .ofConnection (.scripted ⟨"scripted", fun _ _ => .error (.error chainedError), []⟩)

theorem throws_of_chainedError :
    let q : Query := ⟨0, "select 1"⟩
    let w : World := ⟨[chainedFactory], [], .empty⟩
    w.factories[q.factory]? = some chainedFactory ∧
      chainedFactory.answer (w.calls q.factory) q.sql = .ok (.error (.error chainedError)) ∧
      (q.throws "between\nCaused by: inner\nSqlite(" w).1 = .ok () ∧
      (q.throws "n\nb" w).1 = .ok () ∧
      (q.throws "Outer" w).1 = .ok () ∧
      (q.throws "innerm" w).1 = .error (.rejected "select 1" (.missingSubstring "innerm"
        ("Query execution failed: outer\nCaused by: outer\nCaused by: outer\n"
          ++ "Caused by: in\nbetween\nCaused by: inner\n"
          ++ "Sqlite(ToSqlConversionFailure(Outer))\n"))) := by
  intro q w
  have trace : (Failure.error chainedError).trace
      = "Query execution failed: outer\nCaused by: outer\nCaused by: outer\n"
        ++ "Caused by: in\nbetween\nCaused by: inner\n"
        ++ "Sqlite(ToSqlConversionFailure(Outer))\n" := by
    decide +kernel
  obtain ⟨chain, -, passes, fails, smaller, -⟩ :=
    throws_sees_all_causes q chainedFactory w (.error chainedError) rfl rfl
  obtain ⟨-, shown⟩ := chain chainedError rfl
  have between : Failure.Shows chainedError "in\nbetween" :=
    .cause 2 (.caused "in\nbetween" "Between" (.root "inner" "Inner")) rfl
  have deep : (q.throws "between\nCaused by: inner\nSqlite(" w).1 = .ok () := by
    rw [passes, trace]
    decide +kernel
  refine ⟨rfl, rfl, deep, shown _ "n\nb" between ⟨['i'], "etween".toList, by decide⟩,
    shown _ "Outer" .record (by decide +kernel), ?_⟩
  rw [← trace]
  refine fails "innerm" ?_
  rw [trace]
  decide +kernel

end Query

end RowCheck
