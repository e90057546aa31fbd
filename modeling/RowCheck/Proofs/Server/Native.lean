import RowCheck.Server.Execution

/-!
# The last statement of a text

A text that is sent as it is may hold several statements. What is kept of the reply is what the
last statement gave; after each statement the collected rows are those of that statement alone.
-/

namespace RowCheck.Server

/-- A message that the client takes no notice of. -/
def Message.isIgnored : Message → Bool
  | .notice report => report.fault?.isNone
  | _ => false

namespace Native

/-- How the server answers one statement of a text: with rows under labels, or without any. -/
inductive Statement where
  | described (labels : List String) (rows : List (List (Option String)))
      (width : ∀ row ∈ rows, row.length = labels.length)
  | command
  | emptyQuery

namespace Statement

/-- A row as it is sent. -/
def rawRow (row : List (Option String)) : List RawValue := row.map (Option.map Text.Utf8.ofString)

/-- The messages by which a statement is answered. -/
def messages : Statement → List Message
  | .described labels rows _ =>
    .description labels :: ((rows.map fun row => .row (rawRow row)) ++ [.complete])
  | .command => [.complete]
  | .emptyQuery => [.emptyQuery]

/-- A value is kept as its text. -/
def cell : Option String → Cell
  | none => .null
  | some s => .text s

/-- What a statement returns. -/
def result : Statement → Results
  | .described labels rows _ => ⟨labels.map textColumn, rows.map (·.map cell)⟩
  | .command | .emptyQuery => .empty

/-- What the last one of some statements returns. -/
def lastResult (statements : List Statement) : Results :=
  (statements.getLast?.map result).getD .empty

/-- What the client hands on of the messages of a statement. -/
def events : Statement → List Event
  | .described labels rows _ =>
    .description labels :: ((rows.map fun row => .row labels (rawRow row)) ++ [.complete])
  | .command | .emptyQuery => [.complete]

/-- The labels of the latest description after a statement. -/
def labelsAfter (labels? : Option (List String)) : Statement → Option (List String)
  | .described labels _ _ => some labels
  | .command | .emptyQuery => labels?

end Statement

/-! ## What the client hands on -/

theorem receive_rows (labels : List String) (rows : List (List (Option String)))
    (width : ∀ row ∈ rows, row.length = labels.length) (ms : List Message) :
    receive (some labels) ((rows.map fun row => .row (Statement.rawRow row)) ++ ms)
      = (receive (some labels) ms).map
        ((rows.map fun row => .row labels (Statement.rawRow row)) ++ ·) := by
  induction rows with
  | nil => cases h : receive (some labels) ms <;> simp [h, Except.map]
  | cons row rows ih =>
    have fits : ¬ (Statement.rawRow row).length ≠ labels.length := by
      simpa [Statement.rawRow] using width row (by simp)
    have others := ih fun r hr => width r (by simp [hr])
    rw [List.map_cons, List.cons_append, receive, if_neg fits, others]
    cases receive (some labels) ms <;> rfl

theorem receive_messages (labels? : Option (List String)) (s : Statement) (ms : List Message) :
    receive labels? (s.messages ++ ms)
      = (receive (s.labelsAfter labels?) ms).map (s.events ++ ·) := by
  cases s with
  | described labels rows width =>
    rw [Statement.messages, List.cons_append, List.append_assoc, receive,
      receive_rows labels rows width, List.singleton_append, receive, Statement.labelsAfter,
      Statement.events]
    cases receive (some labels) ms with
    | error e => rfl
    | ok es => simp [Except.map, bind, Except.bind, pure, Except.pure]
  | command | emptyQuery =>
    change receive labels? (_ :: ms) = (receive labels? ms).map (.complete :: ·)
    rw [receive]
    cases receive labels? ms with
    | error e => rfl
    | ok es => rfl

/-- The messages of statements are handed on statement by statement. -/
theorem receive_statements (labels? : Option (List String)) (ss : List Statement) :
    receive labels? (ss.flatMap Statement.messages) = .ok (ss.flatMap Statement.events) := by
  induction ss generalizing labels? with
  | nil => rfl
  | cons s ss ih =>
    rw [List.flatMap_cons, receive_messages, ih]
    rfl

/-- A message that is ignored leads to an event that is ignored. -/
def Event.isIgnored : Event → Bool
  | .ignored => true
  | _ => false

theorem cons_filter {e : Event} (kept : e.isIgnored = false) (x : Except Error (List Event)) :
    (do return e :: (← x.map (·.filter (!·.isIgnored))))
      = (do return e :: (← x) : Except Error (List Event)).map (·.filter (!·.isIgnored)) := by
  cases x with
  | error fault => rfl
  | ok es => simp [Except.map, bind, Except.bind, pure, Except.pure, kept]

theorem receive_filter (labels? : Option (List String)) (ms : List Message) :
    receive labels? (ms.filter (!·.isIgnored))
      = (receive labels? ms).map (·.filter (!·.isIgnored)) := by
  induction ms generalizing labels? with
  | nil => rfl
  | cons m ms ih =>
    cases m with
    | description | complete | emptyQuery =>
      rw [List.filter_cons_of_pos (by rfl), receive, receive, ih]
      exact cons_filter rfl _
    | row values =>
      rw [List.filter_cons_of_pos (by rfl)]
      cases labels? with
      | none => rfl
      | some labels =>
        rw [receive, receive, ih]
        split
        · rfl
        · exact cons_filter rfl _
    | notice report =>
      by_cases sound : report.fault?.isSome = true
      · rw [List.filter_cons_of_pos (by simp [Message.isIgnored, sound]), receive, receive,
          if_pos sound, if_pos sound]
        rfl
      · rw [List.filter_cons_of_neg (by simpa [Message.isIgnored] using sound), receive,
          if_neg sound, ih]
        cases receive labels? ms with
        | error e => rfl
        | ok es => rfl
    | error report => rfl
    | unexpected => rfl
    | close => rfl

/-! ## What is kept -/

/-- Between two statements what is kept is a result, and no rows are announced. -/
def settled (r : Results) : Collected := ⟨r.columns, r.rows, false⟩

theorem row_rawRow (index : Nat) (values : List (Option String)) :
    row index (Statement.rawRow values) = .ok (values.map Statement.cell) := by
  induction values generalizing index with
  | nil => rfl
  | cons value values ih =>
    have value : cell index (value.map Text.Utf8.ofString) = .ok (Statement.cell value) := by
      cases value with
      | none => rfl
      | some s =>
        simp [cell, Text.Utf8.toString, Text.Utf8.ofString, Text.Utf8.decode_encode, Except.map,
          Statement.cell]
    rw [Statement.rawRow, List.map_cons, row, value, ← Statement.rawRow, ih]
    rfl

/-- The rows of a statement are collected under its labels. -/
theorem foldlM_step_rows (labels : List String) (rows : List (List (Option String)))
    (kept : List (List Cell)) :
    (rows.map fun row => Event.row labels (Statement.rawRow row)).foldlM step
        ⟨labels.map textColumn, kept, true⟩
      = .ok ⟨labels.map textColumn, kept ++ rows.map (·.map Statement.cell), true⟩ := by
  induction rows generalizing kept with
  | nil => simp [pure, Except.pure]
  | cons values rows ih =>
    have columns : (if (labels.map textColumn).isEmpty then labels.map textColumn
        else labels.map textColumn) = labels.map textColumn := by split <;> rfl
    have first : step ⟨labels.map textColumn, kept, true⟩ (.row labels (Statement.rawRow values))
        = .ok ⟨labels.map textColumn, kept ++ [values.map Statement.cell], true⟩ := by
      simp only [step, row_rawRow, columns]
      rfl
    rw [List.map_cons, List.foldlM_cons, first]
    simpa [bind, Except.bind] using ih (kept ++ [values.map Statement.cell])

/-- A statement replaces what the one before it left. -/
theorem foldlM_step_events (r : Results) (s : Statement) :
    s.events.foldlM step (settled r) = .ok (settled s.result) := by
  cases s with
  | described labels rows width =>
    have rows := foldlM_step_rows labels rows []
    have description : step (settled r) (.description labels)
        = .ok ⟨labels.map textColumn, [], true⟩ := rfl
    rw [Statement.events, List.foldlM_cons, description]
    change List.foldlM step ⟨labels.map textColumn, [], true⟩ _ = _
    rw [List.foldlM_append, rows]
    rfl
  | command => rfl
  | emptyQuery => rfl

/-- After any number of statements only what the last one gave is kept. -/
theorem foldlM_step_statements (r : Results) (ss : List Statement) :
    (ss.flatMap Statement.events).foldlM step (settled r)
      = .ok (settled ((ss.getLast?.map Statement.result).getD r)) := by
  induction ss generalizing r with
  | nil => rfl
  | cons s ss ih =>
    rw [List.flatMap_cons, List.foldlM_append, foldlM_step_events]
    change List.foldlM step (settled s.result) _ = _
    rw [ih, List.getLast?_cons]
    cases ss.getLast? <;> rfl

theorem foldlM_step_filter (c : Collected) (es : List Event) :
    (es.filter (!·.isIgnored)).foldlM step c = es.foldlM step c := by
  rw [List.foldlM_filter]
  congr
  funext c e
  cases e <;> rfl

theorem results_filter (es : List Event) : results (es.filter (!·.isIgnored)) = results es := by
  rw [results, results, foldlM_step_filter]

theorem results_statements (ss : List Statement) :
    results (ss.flatMap Statement.events) = .ok (Statement.lastResult ss) := by
  have kept := foldlM_step_statements .empty ss
  rw [results]
  change (List.foldlM step (settled .empty) _ >>= _) = _
  rw [kept]
  rfl

theorem outcome_execute {script : Script} {sql : String} {es : List Event}
    (h : receive none (script.reply sql).messages = .ok es) :
    (execute script sql).outcome = results es := by
  rw [execute, h]

/-- A text of any number of statements returns what its last statement returns, whichever ignored
messages stand between the messages of the statements. -/
theorem outcome_of_last_statement (script : Script) (sql : String) (statements : List Statement)
    (answered : (script.reply sql).messages.filter (!·.isIgnored)
      = statements.flatMap Statement.messages) :
    (Mode.native.execute script sql).outcome = .ok (Statement.lastResult statements) := by
  have filtered := receive_filter none (script.reply sql).messages
  rw [answered, receive_statements] at filtered
  cases received : receive none (script.reply sql).messages with
  | error e =>
    rw [received] at filtered
    simp [Except.map] at filtered
  | ok es =>
    rw [received] at filtered
    simp only [Except.map, Except.ok.injEq] at filtered
    rw [Mode.execute, outcome_execute received, ← results_filter, ← filtered, results_statements]

/-- Statements with rows, without rows, and last of all with rows that have no columns. -/
def statementsOfEachKind : List Statement :=
  [.described ["a", "b"] [[some "1", none], [some "2", some "x"]] (by simp), .command,
    .described [] [[], []] (by simp)]

/-- A server that sends a notice after every message. -/
def noticingScript : Script :=
  let notice : Message := .notice ⟨"NOTICE", "00000", "hint", none, none, none⟩
  let messages := (statementsOfEachKind.flatMap Statement.messages).flatMap fun m => [m, notice]
  ⟨.trust, [], [⟨"q", [], [], 0, none, none, none, messages, none⟩]⟩

theorem outcome_of_noticingScript :
    (noticingScript.reply "q").messages.filter (!·.isIgnored)
        = statementsOfEachKind.flatMap Statement.messages ∧
      (Mode.native.execute noticingScript "q").outcome = .ok ⟨[], [[], []]⟩ :=
  ⟨rfl, outcome_of_last_statement noticingScript "q" statementsOfEachKind rfl⟩

end Native

end RowCheck.Server
