import RowCheck.Proofs.Except
import RowCheck.Proofs.Sql.Token
import Mathlib.Tactic.Choose

/-!
# Reading the statements of a copy

The statement that reads a whole table is read as a query of nothing but that table, whatever the
names in it are. The statement that makes a table cannot be read if a name has a NUL in it: what is
left of it ends inside the quotes of that name, so that it makes no table.
-/

namespace RowCheck.Sql

open Token (byteLength)

/-! ## Cutting at a NUL -/

/-- What is read of a statement: the text before the first NUL. -/
def beforeNul (s : List Char) : List Char := s.takeWhile (· ≠ '\x00')

theorem beforeNul_append {s : List Char} (h : '\x00' ∉ s) (rest : List Char) :
    beforeNul (s ++ rest) = s ++ beforeNul rest := by
  refine List.takeWhile_append_of_pos fun c hc => ?_
  simp only [ne_eq, decide_eq_true_eq]
  rintro rfl
  exact h hc

theorem beforeNul_eq_self {s : List Char} (h : '\x00' ∉ s) : beforeNul s = s := by
  have := beforeNul_append h []
  rwa [List.append_nil, show beforeNul [] = [] from rfl, List.append_nil] at this

namespace Identifier

theorem not_mem_doubled {name : List Char} (h : '\x00' ∉ name) : '\x00' ∉ doubled name := by
  induction name with
  | nil => exact List.not_mem_nil
  | cons c cs ih =>
    simp only [List.mem_cons, not_or] at h
    have rest := ih h.2
    unfold doubled
    split <;> simp [h.1, rest]

theorem not_mem_quotedChars {name : List Char} (h : '\x00' ∉ name) :
    '\x00' ∉ quotedChars name := by
  simp [quotedChars, not_mem_doubled h]

theorem beforeNul_doubled {name : List Char} (h : '\x00' ∈ name) (rest : List Char) :
    beforeNul (doubled name ++ rest) = doubled (beforeNul name) := by
  induction name with
  | nil => cases h
  | cons c cs ih =>
    by_cases nul : c = '\x00'
    · subst nul
      rfl
    · have further : '\x00' ∈ cs := by
        rcases List.mem_cons.mp h with e | h
        · exact absurd e.symm nul
        · exact h
      have kept : beforeNul (c :: cs) = c :: beforeNul cs := by simp [beforeNul, nul]
      have others := ih further
      rw [kept]
      by_cases quote : c = '"'
      · subst quote
        simpa [doubled, beforeNul] using others
      · simpa [doubled, beforeNul, nul, quote] using others

/-- A name with a NUL is cut short behind its opening quote. -/
theorem beforeNul_quotedChars {name : List Char} (h : '\x00' ∈ name) (rest : List Char) :
    beforeNul (quotedChars name ++ rest) = '"' :: doubled (beforeNul name) := by
  have inner := beforeNul_doubled h ('"' :: rest)
  simpa [quotedChars, beforeNul] using inner

end Identifier

/-! ## Reading a whole table -/

/-- The tokens of the statement that reads a whole table. -/
def IsSelection (schema table : String) (ts : List Token) : Prop :=
  ∃ a b c d e f g, ts =
    [Token.word "SELECT" [] a, Token.sign '*' [' '] b, Token.word "FROM" [' '] c,
      Token.quoted schema [' '] d, Token.sign '.' [] e, Token.quoted table [] f,
      ⟨.finish, [], [], g⟩]

theorem ofText_selectText {schema table : String} (hs : '\x00' ∉ schema.toList)
    (ht : '\x00' ∉ table.toList) :
    IsSelection schema table (Token.ofText (selectText schema table)) := by
  let text := "SELECT".toList ++ ' ' :: '*' :: ' ' :: ("FROM".toList ++ ' ' ::
    (Identifier.quotedChars schema.toList ++ '.' :: (Identifier.quotedChars table.toList ++ [])))
  have spelt : (selectText schema table).toList = text := by
    unfold selectText targetText
    simp [text, Identifier.quoted]
  have whole : '\x00' ∉ (selectText schema table).toList := by
    rw [spelt]
    simp [text, Identifier.not_mem_quotedChars hs, Identifier.not_mem_quotedChars ht]
  obtain ⟨ts, ⟨a, b, c, d, e, f, g, rfl⟩, read⟩ :
      ∃ ts, IsSelection schema table ts ∧ Reads 0 text ts :=
    ⟨_, ⟨_, _, _, _, _, _, _, rfl⟩,
      .word [] rfl "SELECT" rfl rfl (.sign [' '] rfl '*' (by decide)
        (.word [' '] rfl "FROM" rfl rfl (.quoted [' '] rfl schema (by simp)
          (.point rfl (.quoted [] rfl table (by simp) (.nil _))))))⟩
  exact ⟨a, b, c, d, e, f, g, ofText_of_reads ((beforeNul_eq_self whole).trans spelt) read⟩

/-- The query that the statement is read as. -/
theorem parse_selectText {schema table : String} (hs : '\x00' ∉ schema.toList)
    (ht : '\x00' ∉ table.toList) :
    ∃ n m, parse (selectText schema table)
        = .ok (.query (.ofCompound (Parser.allOf [⟨.table ⟨some n, m⟩ none, false, none⟩])))
      ∧ n.text = schema ∧ m.text = table := by
  obtain ⟨a, b, c, d, e, f, g, tokens⟩ := ofText_selectText hs ht
  refine ⟨Parser.nameOf (Token.quoted schema [' '] d), Parser.nameOf (Token.quoted table [] f),
    ?_, String.ofList_toList, String.ofList_toList⟩
  rw [parse, tokens]
  rfl

theorem parameterCount_selectText {schema table : String} (hs : '\x00' ∉ schema.toList)
    (ht : '\x00' ∉ table.toList) : parameterCount (selectText schema table) = 0 := by
  obtain ⟨a, b, c, d, e, f, g, tokens⟩ := ofText_selectText hs ht
  rw [parameterCount, tokens]
  rfl

/-- The table of a name in the schemas of a name, with the name of its schema. -/
def Database.tableAt? (db : Database) (schema table : String) : Option (String × Table) :=
  (db.schemas.filter fun s => sameName s.name schema).findSome? fun s =>
    (s.table? table).map fun t => (s.name, t)

theorem Database.locate_qualified (db : Database) {n m : Name} {schema table : String}
    (hn : n.text = schema) (hm : m.text = table) {found : String × Table}
    (h : db.tableAt? schema table = some found) : db.locate ⟨some n, m⟩ = .ok found := by
  subst hn hm
  have find : db.find? ⟨some n, m⟩ = some found := h
  rw [Database.locate, find]

/-- The statement returns all of the table, and changes nothing. -/
theorem execute_selectText {db : Database} {schema table name : String} {t : Table}
    (hs : '\x00' ∉ schema.toList) (ht : '\x00' ∉ table.toList)
    (found : db.tableAt? schema table = some (name, t)) :
    db.execute (selectText schema table) = (Database.results t.whole, db) := by
  obtain ⟨n, m, parsed, hn, hm⟩ := parse_selectText hs ht
  have located := db.locate_qualified hn hm found
  let target : Target := ⟨some n, m⟩
  have whole : (Query.ofCompound (Parser.allOf [⟨.table target none, false, none⟩])).wholeTable?
      = some target := rfl
  have run : db.run (selectText schema table) = .ok (t.whole, db) := by
    simp only [Database.run, parsed, parameterCount_selectText hs ht, Database.prepare,
      Database.query, whole, located, target]
    rfl
  rw [Database.execute, run]

/-! ## Making a table -/

namespace Parser

/-- The tokens of a column and of the comma behind it, and those that follow. -/
def columnTokens (name : String) (a : Affinity) (gap : List Char) (i j k : Nat)
    (ts : List Token) : List Token :=
  Token.quoted name gap i :: Token.word a.name [' '] j :: Token.sign ',' [] k :: ts

section Column

variable (name : String) (a : Affinity) (gap : List Char) (i j k : Nat) (ts : List Token)

theorem typeText?_run {c : Char} (stop : c = ',' ∨ c = ')') :
    typeText?.run ⟨Token.word a.name gap i :: Token.sign c [] j :: ts, none⟩
      = .ok (some a.name, ⟨Token.sign c [] j :: ts, none⟩) := by
  have words : (typeText?.words (ts.length + 1 + 1)).run
      ⟨Token.word a.name gap i :: Token.sign c [] j :: ts, none⟩
        = .ok ((), ⟨Token.sign c [] j :: ts, none⟩) := by
    cases a <;> rfl
  have opening : (optionalSign "(").run ⟨Token.sign c [] j :: ts, none⟩
      = .ok (false, ⟨Token.sign c [] j :: ts, none⟩) := by
    rcases stop with rfl | rfl <;> rfl
  have one : ts.length + 1 + 1 - (ts.length + 1) = 1 := by omega
  have written : writtenText [Token.word a.name gap i] = a.name := by
    simp [writtenText, Token.word]
  simp [typeText?, rest, words, opening, one, written, ok_bind, pure_ok]

/-- A column is read up to a comma or to the closing parenthesis. -/
theorem tablePart_column {c : Char} (stop : c = ',' ∨ c = ')') :
    (tablePart .column).run ⟨Token.quoted name gap i :: Token.word a.name [' '] j
        :: Token.sign c [] k :: ts, none⟩
      = .ok (([.column name (some a.name)], .constraint), ⟨Token.sign c [] k :: ts, none⟩) := by
  have first (ts : List Token) : Parser.name.run ⟨Token.quoted name gap i :: ts, none⟩
      = .ok (nameOf (Token.quoted name gap i), ⟨ts, none⟩) := rfl
  have text : (nameOf (Token.quoted name gap i)).text = name := String.ofList_toList
  have goes_on (clause : TableClause) : (followed columnWords clause).run
      ⟨Token.sign c [] k :: ts, none⟩ = .ok ([clause], ⟨Token.sign c [] k :: ts, none⟩) := by
    rcases stop with rfl | rfl <;> rfl
  simp [tablePart, columnClause, first, typeText?_run _ _ _ _ _ stop, text, goes_on, ok_bind]

theorem tablePart_comma (m : Nat) :
    (tablePart .constraint).run ⟨Token.sign ',' [] m :: columnTokens name a gap i j k ts, none⟩
      = .ok (([], .column), ⟨columnTokens name a gap i j k ts, none⟩) :=
  rfl

end Column

theorem tableClauses_part {stage next : Stage} {r r' : Reading} {clauses : List TableClause}
    (goes_on : stage ≠ .closed) (h : (tablePart stage).run r = .ok ((clauses, next), r'))
    (fuel : Nat) :
    tableClauses (fuel + 1) stage r
      = (clauses ++ (tableClauses fuel next r').1, (tableClauses fuel next r').2) := by
  rw [tableClauses, h]
  exact goes_on

/-- Definitions of columns that break off inside the quotes of a name. -/
inductive BreaksOff : List Token → Prop
  | here (name gap : List Char) (i : Nat) (ts : List Token) :
    BreaksOff (Token.unclosed name gap i :: ts)
  | later (name : String) (a : Affinity) (gap : List Char) (i j k : Nat) {ts : List Token} :
    BreaksOff ts → BreaksOff (columnTokens name a gap i j k ts)

/-- Where a definition breaks off, its reading fails. -/
theorem tableClauses_breaksOff {ts : List Token} (h : BreaksOff ts) (fuel : Nat) :
    ∃ clauses e, tableClauses fuel .column ⟨ts, none⟩ = (clauses, .error e) := by
  induction h generalizing fuel with
  | here name gap i ts => cases fuel <;> exact ⟨_, _, rfl⟩
  | @later name a gap i j k ts broken ih =>
    have column : (tablePart .column).run ⟨columnTokens name a gap i j k ts, none⟩
        = .ok (([.column name (some a.name)], .constraint), ⟨Token.sign ',' [] k :: ts, none⟩) :=
      tablePart_column name a gap i j k ts (.inl rfl)
    -- A column takes two steps: one for its definition and one for the comma behind it.
    match fuel with
    | 0 => exact ⟨_, _, rfl⟩
    | 1 => exact ⟨_, _, tableClauses_part (by simp) column 0⟩
    | fuel + 2 =>
      rw [tableClauses_part (by simp) column]
      cases broken with
      | here => exact ⟨_, _, rfl⟩
      | later =>
        obtain ⟨clauses, e, further⟩ := ih fuel
        rw [tableClauses_part (by simp) (tablePart_comma ..), further]
        exact ⟨_, _, rfl⟩

/-- What is wrong with a definition behind its clauses. -/
def definitionFault? : Except SyntaxFault Reading → Option SyntaxFault
  | .error e => some e
  | .ok r =>
    match tableOptions.run r with
    | .error e => some e
    | .ok _ => none

/-- A table is read with the clauses of its definition and with what is wrong behind them. -/
theorem createTable_run {ts : List Token} {clauses : List TableClause}
    {outcome : Except SyntaxFault Reading}
    (read : tableClauses (2 * ts.length + 2) .column ⟨ts, none⟩ = (clauses, outcome))
    (temporary ifNotExists : Bool) (target : Target) (gap : List Char) (i : Nat) :
    (Parser.createTable temporary ifNotExists target).run ⟨Token.sign '(' gap i :: ts, none⟩
      = .ok (.createTable temporary ifNotExists target clauses (definitionFault? outcome),
          ⟨ts, none⟩) := by
  have first : (optional "as").run ⟨Token.sign '(' gap i :: ts, none⟩
      = .ok (false, ⟨Token.sign '(' gap i :: ts, none⟩) := rfl
  have opening : (sign "(").run ⟨Token.sign '(' gap i :: ts, none⟩ = .ok ((), ⟨ts, none⟩) := rfl
  cases outcome with
  | error e => simp [createTable, first, opening, read, definitionFault?, ok_bind, pure_ok]
  | ok r =>
    cases options : tableOptions.run r <;>
      simp [createTable, first, opening, read, definitionFault?, options, ok_bind, pure_ok]

/-- The statement that makes a table in a schema. -/
theorem statement_run (schema table : String) {ts : List Token} {clauses : List TableClause}
    {outcome : Except SyntaxFault Reading}
    (read : tableClauses (2 * ts.length + 2) .column ⟨ts, none⟩ = (clauses, outcome))
    (a b c d e f : Nat) :
    (statement.run ⟨Token.word "CREATE" [] a :: Token.word "TABLE" [' '] b
        :: Token.quoted schema [' '] c :: Token.sign '.' [] d :: Token.quoted table [] e
        :: Token.sign '(' [' '] f :: ts, none⟩).map (·.1)
      = .ok (.createTable false false
          ⟨some (nameOf (Token.quoted schema [' '] c)), nameOf (Token.quoted table [] e)⟩ clauses
          (definitionFault? outcome)) :=
  congrArg (Except.map (·.1)) (createTable_run read false false _ [' '] f)

/-- A table whose columns break off is read as one with a fault. -/
theorem statement_breaksOff (schema table : String) {ts : List Token} (h : BreaksOff ts)
    (a b c d e f : Nat) : ∃ target clauses fault, (statement.run ⟨Token.word "CREATE" [] a
      :: Token.word "TABLE" [' '] b :: Token.quoted schema [' '] c :: Token.sign '.' [] d
      :: Token.quoted table [] e :: Token.sign '(' [' '] f :: ts, none⟩).map (·.1)
        = .ok (.createTable false false target clauses (some fault)) := by
  obtain ⟨clauses, fault, broken⟩ := tableClauses_breaksOff h (2 * ts.length + 2)
  exact ⟨_, clauses, fault, statement_run schema table broken a b c d e f⟩

end Parser

/-- The text of the definitions of columns, up to the end of the statement. -/
def definitionChars (columns : List Column) : List Char :=
  ", ".toList.intercalate (columns.map fun c => (columnText c).toList) ++ ");".toList

theorem toList_columnText (c : Column) : (columnText c).toList
    = Identifier.quotedChars c.label.toList ++ ' ' :: c.type.affinity.name.toList := by
  simp [columnText, Identifier.quoted]

theorem definitionChars_cons (c : Column) (cs : List Column) :
    ∃ rest, definitionChars (c :: cs) = Identifier.quotedChars c.label.toList ++ rest := by
  cases cs with
  | nil => exact ⟨_, by simp [definitionChars, toList_columnText]; rfl⟩
  | cons d ds => exact ⟨_, by simp [definitionChars, toList_columnText]; rfl⟩

theorem definitionChars_cons_cons (c d : Column) (cs : List Column) :
    definitionChars (c :: d :: cs) = Identifier.quotedChars c.label.toList
      ++ ' ' :: (c.type.affinity.name.toList ++ ',' :: ' ' :: definitionChars (d :: cs)) := by
  simp [definitionChars, toList_columnText]

/-- Definitions with a NUL in a label break off. -/
theorem reads_definitionChars {columns : List Column} (nul : ∃ c ∈ columns, '\x00' ∈ c.label.toList)
    (gap : List Char) (spaces : Token.isSpaces gap = true) (offset : Nat) :
    ∃ ts, Parser.BreaksOff ts ∧ Reads offset (gap ++ beforeNul (definitionChars columns)) ts := by
  induction columns generalizing gap offset with
  | nil =>
    obtain ⟨_, h, -⟩ := nul
    cases h
  | cons c cs ih =>
    by_cases here : '\x00' ∈ c.label.toList
    · obtain ⟨rest, spelt⟩ := definitionChars_cons c cs
      rw [spelt, Identifier.beforeNul_quotedChars here]
      exact ⟨_, .here .., .unclosed gap spaces (beforeNul c.label.toList) offset⟩
    have later : ∃ d ∈ cs, '\x00' ∈ d.label.toList := by
      obtain ⟨d, mem, h⟩ := nul
      rcases List.mem_cons.mp mem with rfl | mem
      · exact absurd h here
      · exact ⟨d, mem, h⟩
    obtain ⟨d, ds, rfl⟩ : ∃ d ds, cs = d :: ds := by
      obtain ⟨d, mem, -⟩ := later
      exact List.exists_cons_of_ne_nil (List.ne_nil_of_mem mem)
    have word : '\x00' ∉ c.type.affinity.name.toList := by cases c.type.affinity <;> decide
    have plain : Token.isPlainWord c.type.affinity.name.toList = true := by
      cases c.type.affinity <;> rfl
    have cut : beforeNul (definitionChars (c :: d :: ds)) = Identifier.quotedChars c.label.toList
        ++ ' ' :: (c.type.affinity.name.toList
          ++ ',' :: (' ' :: beforeNul (definitionChars (d :: ds)))) := by
      have front : '\x00' ∉ Identifier.quotedChars c.label.toList
          ++ ' ' :: (c.type.affinity.name.toList ++ [',', ' ']) := by
        simp [Identifier.not_mem_quotedChars here, word]
      have := beforeNul_append front (definitionChars (d :: ds))
      simpa [definitionChars_cons_cons] using this
    rw [cut]
    choose ts broken read using ih later [' '] rfl
    exact ⟨_, .later c.label c.type.affinity gap _ _ _ (broken _), .quoted gap spaces c.label
      (by simp) (.word [' '] rfl _ plain rfl (.sign [] rfl ',' (by decide) (read _)))⟩

theorem toList_createText (schema table : String) (columns : List Column) :
    (createText schema table columns).toList = "CREATE".toList ++ ' ' :: ("TABLE".toList
      ++ ' ' :: (Identifier.quotedChars schema.toList ++ '.' :: (Identifier.quotedChars table.toList
        ++ ' ' :: '(' :: definitionChars columns))) := by
  unfold createText targetText definitionChars
  simp only [Identifier.quoted, String.toList_append, String.toList_intercalate,
    String.toList_ofList, List.map_map, Function.comp_def, List.append_assoc]
  rfl

theorem parse_createText_schema {schema : String} (table : String) (columns : List Column)
    (nul : '\x00' ∈ schema.toList) :
    ∃ fault, parse (createText schema table columns) = .error fault := by
  have front : '\x00' ∉ "CREATE".toList ++ ' ' :: ("TABLE".toList ++ [' ']) := by decide
  have left : beforeNul (createText schema table columns).toList
      = "CREATE".toList ++ ' ' :: ("TABLE".toList
        ++ ' ' :: '"' :: Identifier.doubled (beforeNul schema.toList)) := by
    have := beforeNul_append front (Identifier.quotedChars schema.toList ++ '.' ::
      (Identifier.quotedChars table.toList ++ ' ' :: '(' :: definitionChars columns))
    rw [Identifier.beforeNul_quotedChars nul] at this
    rw [toList_createText]
    simpa using this
  have tokens := ofText_of_reads left (.word [] rfl "CREATE" rfl rfl
    (.word [' '] rfl "TABLE" rfl rfl (.unclosed [' '] rfl _ _)))
  rw [parse, tokens]
  exact ⟨_, rfl⟩

theorem parse_createText_table {schema table : String} (columns : List Column)
    (clean : '\x00' ∉ schema.toList) (nul : '\x00' ∈ table.toList) :
    ∃ fault, parse (createText schema table columns) = .error fault := by
  have front : '\x00' ∉ "CREATE".toList ++ ' ' :: ("TABLE".toList
      ++ ' ' :: (Identifier.quotedChars schema.toList ++ ['.'])) := by
    simp [Identifier.not_mem_quotedChars clean]
  have left : beforeNul (createText schema table columns).toList
      = "CREATE".toList ++ ' ' :: ("TABLE".toList ++ ' ' :: (Identifier.quotedChars schema.toList
        ++ '.' :: '"' :: Identifier.doubled (beforeNul table.toList))) := by
    have := beforeNul_append front (Identifier.quotedChars table.toList
      ++ ' ' :: '(' :: definitionChars columns)
    rw [Identifier.beforeNul_quotedChars nul] at this
    rw [toList_createText]
    simpa using this
  have tokens := ofText_of_reads left (.word [] rfl "CREATE" rfl rfl
    (.word [' '] rfl "TABLE" rfl rfl (.quoted [' '] rfl schema (by simp)
      (.point rfl (.unclosed [] rfl _ _)))))
  rw [parse, tokens]
  exact ⟨_, rfl⟩

theorem parse_createText_column {schema table : String} {columns : List Column}
    (cleanSchema : '\x00' ∉ schema.toList) (cleanTable : '\x00' ∉ table.toList)
    (nul : ∃ c ∈ columns, '\x00' ∈ c.label.toList) :
    ∃ target clauses fault, parse (createText schema table columns)
      = .ok (.createTable false false target clauses (some fault)) := by
  have front : '\x00' ∉ "CREATE".toList ++ ' ' :: ("TABLE".toList
      ++ ' ' :: (Identifier.quotedChars schema.toList ++ '.' ::
        (Identifier.quotedChars table.toList ++ [' ', '(']))) := by
    simp [Identifier.not_mem_quotedChars cleanSchema, Identifier.not_mem_quotedChars cleanTable]
  have left : beforeNul (createText schema table columns).toList
      = "CREATE".toList ++ ' ' :: ("TABLE".toList ++ ' ' :: (Identifier.quotedChars schema.toList
        ++ '.' :: (Identifier.quotedChars table.toList
          ++ ' ' :: '(' :: beforeNul (definitionChars columns)))) := by
    have := beforeNul_append front (definitionChars columns)
    rw [toList_createText]
    simpa using this
  choose ts broken read using reads_definitionChars nul [] rfl
  have tokens := ofText_of_reads left (.word [] rfl "CREATE" rfl rfl
    (.word [' '] rfl "TABLE" rfl rfl (.quoted [' '] rfl schema (by simp)
      (.point rfl (.quoted [] rfl table (by simp) (.sign [' '] rfl '(' (by decide) (read _)))))))
  rw [parse, tokens]
  exact Parser.statement_breaksOff schema table (broken _) _ _ _ _ _ _

/-- A table with a fault in its definition is not made. -/
theorem Database.createTable_fault (db : Database) (sql : String) (temporary ifNotExists : Bool)
    (target : Target) (clauses : List TableClause) (fault : SyntaxFault) :
    ∃ e, db.createTable sql temporary ifNotExists target clauses (some fault) = .error e := by
  unfold Database.createTable
  cases db.newTableSchema sql temporary ifNotExists target with
  | error e => exact ⟨e, rfl⟩
  | ok schema? =>
    cases schema? with
    | none => exact ⟨_, rfl⟩
    | some schema =>
      cases read : clauses.foldlM (Draft.add sql target.table.text) .empty with
      | error e => exact ⟨e, by simp [read]; rfl⟩
      | ok draft => exact ⟨_, by simp [read]; rfl⟩

/-- With a NUL in one of its names, the statement that makes a table cannot be carried out. -/
theorem run_createText_nul (db : Database) {schema table : String} {columns : List Column}
    (nul : (schema :: table :: columns.map Column.label).any Text.hasNul = true) :
    ∃ e, db.run (createText schema table columns) = .error e := by
  by_cases inSchema : '\x00' ∈ schema.toList
  · obtain ⟨fault, parsed⟩ := parse_createText_schema table columns inSchema
    exact ⟨fault.error _, by rw [Database.run, parsed]⟩
  by_cases inTable : '\x00' ∈ table.toList
  · obtain ⟨fault, parsed⟩ := parse_createText_table columns inSchema inTable
    exact ⟨fault.error _, by rw [Database.run, parsed]⟩
  have inColumn : ∃ c ∈ columns, '\x00' ∈ c.label.toList := by
    simpa [Text.hasNul, inSchema, inTable] using nul
  obtain ⟨target, clauses, fault, parsed⟩ := parse_createText_column inSchema inTable inColumn
  obtain ⟨e, failed⟩ := db.createTable_fault (createText schema table columns) false false target
    clauses fault
  refine ⟨e, ?_⟩
  rw [Database.run, parsed]
  simp only [Database.prepare, Database.prepare.silently, Database.prepare.beforehand, failed]
  rfl

end RowCheck.Sql
