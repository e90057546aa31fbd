import RowCheck.Proofs.Sql.CopyText

/-!
# Reading the statement that makes a table

The statement that makes the table of a copy is read back as the definition of just that table: its
names, its columns in order and the affinities of their types, with nothing wrong behind them unless
there is no column. Main statement: what is done for a copy is what its statement does, whatever the
names in it are.
-/

namespace RowCheck.Sql

open Token (byteLength)

/-! ## Numbers of bytes -/

theorem length_encodeNat (c : Char) : (Text.Utf8.encodeNat c.toNat).length = c.utf8Size := by
  have small : c.toNat = c.val.toNat := rfl
  unfold Text.Utf8.encodeNat Char.utf8Size
  simp only [UInt32.le_iff_toNat_le, small, UInt32.toNat_ofNatLT]
  split_ifs <;> first | rfl | omega

theorem byteLength_eq (s : List Char) : byteLength s = (String.ofList s).utf8ByteSize := by
  induction s with
  | nil => rfl
  | cons c s ih =>
    rw [String.ofList_cons, String.utf8ByteSize_append, String.utf8ByteSize_singleton, ← ih]
    simp [byteLength, Text.Utf8.encode, length_encodeNat]

theorem byteLength_quotedChars (name : String) :
    byteLength (Identifier.quotedChars name.toList) = (Identifier.quoted name).utf8ByteSize :=
  byteLength_eq _

namespace Parser

/-! ## Columns -/

/-- The tokens of the definitions of some columns, up to the end of the statement. -/
inductive Defines : List Column → List Token → Prop
  | last (c : Column) (gap : List Char) (i j k l m : Nat) :
    Defines [c] [Token.quoted c.label gap i, Token.word c.type.affinity.name [' '] j,
      Token.sign ')' [] k, Token.sign ';' [] l, ⟨.finish, [], [], m⟩]
  | more (c : Column) (gap : List Char) (i j k : Nat) {cs : List Column} {ts : List Token} :
    Defines cs ts → Defines (c :: cs) (columnTokens c.label c.type.affinity gap i j k ts)

/-- What is read of a definition: its clauses, and the tokens behind it. -/
theorem tableClauses_defines {columns : List Column} {ts : List Token} (h : Defines columns ts)
    (fuel : Nat) (enough : 2 * columns.length + 1 ≤ fuel) :
    ∃ l m, tableClauses fuel .column ⟨ts, none⟩
      = (columns.map copiedColumn, .ok ⟨[Token.sign ';' [] l, ⟨.finish, [], [], m⟩], none⟩) := by
  induction h generalizing fuel with
  | last c gap i j k l m =>
    obtain ⟨fuel, rfl⟩ : ∃ n, fuel = n + 3 := ⟨fuel - 3, by simp at enough; omega⟩
    have column := tablePart_column c.label c.type.affinity gap i j k
      [Token.sign ';' [] l, ⟨.finish, [], [], m⟩] (.inr rfl)
    refine ⟨l, m, ?_⟩
    rw [tableClauses_part (by simp) column]
    rfl
  | @more c gap i j k cs ts later ih =>
    obtain ⟨fuel, rfl⟩ : ∃ n, fuel = n + 2 := ⟨fuel - 2, by simp at enough; omega⟩
    have column : (tablePart .column).run ⟨columnTokens c.label c.type.affinity gap i j k ts, none⟩
        = .ok (([copiedColumn c], .constraint), ⟨Token.sign ',' [] k :: ts, none⟩) :=
      tablePart_column c.label c.type.affinity gap i j k ts (.inl rfl)
    obtain ⟨l, m, further⟩ := ih fuel (by simp at enough; omega)
    have comma : (tablePart .constraint).run ⟨Token.sign ',' [] k :: ts, none⟩
        = .ok (([], .column), ⟨ts, none⟩) := by
      cases later <;> rfl
    refine ⟨l, m, ?_⟩
    rw [tableClauses_part (by simp) column, tableClauses_part (by simp) comma, further]
    rfl

theorem Defines.length_le {columns : List Column} {ts : List Token} (h : Defines columns ts) :
    columns.length ≤ ts.length := by
  induction h with
  | last => simp
  | more =>
    simp only [columnTokens, List.length_cons]
    omega

theorem Defines.kind_ne {columns : List Column} {ts : List Token} (h : Defines columns ts) :
    ∀ t ∈ ts, t.kind ≠ .parameter := by
  induction h with
  | last => simp [Token.quoted, Token.word, Token.sign]
  | more c gap i j k later ih => simpa [columnTokens, Token.quoted, Token.word, Token.sign] using ih

theorem nameOf_quoted (name : String) (gap : List Char) (offset : Nat) :
    nameOf (Token.quoted name gap offset) = nameAt name offset := by
  simp [nameOf, nameAt, Token.quoted, Token.nameText, Identifier.quoted]

end Parser

theorem definitionChars_singleton (c : Column) :
    definitionChars [c] = Identifier.quotedChars c.label.toList
      ++ ' ' :: (c.type.affinity.name.toList ++ ')' :: ';' :: []) := by
  simp [definitionChars, toList_columnText]

/-- Definitions of columns are read one by one. -/
theorem reads_defines {columns : List Column} (filled : columns ≠ []) (gap : List Char)
    (spaces : Token.isSpaces gap = true) (offset : Nat) :
    ∃ ts, Parser.Defines columns ts ∧ Reads offset (gap ++ definitionChars columns) ts := by
  induction columns generalizing gap offset with
  | nil => exact absurd rfl filled
  | cons c cs ih =>
    have plain : Token.isPlainWord c.type.affinity.name.toList = true := by
      cases c.type.affinity <;> rfl
    cases cs with
    | nil =>
      rw [definitionChars_singleton]
      exact ⟨_, .last c gap _ _ _ _ _, .quoted gap spaces c.label (by simp)
        (.word [' '] rfl _ plain rfl (.sign [] rfl ')' (by decide)
          (.sign [] rfl ';' (by decide) (.nil _))))⟩
    | cons d ds =>
      choose ts defined read using ih (List.cons_ne_nil d ds) [' '] rfl
      rw [definitionChars_cons_cons]
      exact ⟨_, .more c gap _ _ _ (defined _), .quoted gap spaces c.label (by simp)
        (.word [' '] rfl _ plain rfl (.sign [] rfl ',' (by decide) (read _)))⟩

theorem not_mem_definitionChars {columns : List Column}
    (clean : ∀ c ∈ columns, '\x00' ∉ c.label.toList) : '\x00' ∉ definitionChars columns := by
  induction columns with
  | nil => decide
  | cons c cs ih =>
    rw [List.forall_mem_cons] at clean
    have label := Identifier.not_mem_quotedChars clean.1
    have word : '\x00' ∉ c.type.affinity.name.toList := by cases c.type.affinity <;> decide
    cases cs with
    | nil => simp [definitionChars_singleton, label, word]
    | cons d ds => simp [definitionChars_cons_cons, label, word, ih clean.2]

/-- What a definition of columns goes wrong at, if it does: without a column, at the closing
parenthesis. -/
def missingColumn? (columns : List Column) (offset : Nat) : Option SyntaxFault :=
  if columns.isEmpty then some (.unexpected ⟨.sign, [')'], [], offset⟩) else none

/-- The definition of columns as it is read from an offset on. -/
structure IsDefinition (columns : List Column) (offset : Nat) (ts : List Token) : Prop where
  reads : Reads offset (definitionChars columns) ts
  clauses : ∃ outcome,
    Parser.tableClauses (2 * ts.length + 2) .column ⟨ts, none⟩ = (columns.map copiedColumn, outcome)
      ∧ Parser.definitionFault? outcome = missingColumn? columns offset
  kind_ne : ∀ t ∈ ts, t.kind ≠ .parameter

theorem exists_isDefinition (columns : List Column) (offset : Nat) :
    ∃ ts, IsDefinition columns offset ts := by
  cases columns with
  | nil =>
    have read : Reads offset (definitionChars []) _ :=
      .sign [] rfl ')' (by decide) (.sign [] rfl ';' (by decide) (.nil _))
    exact ⟨_, read, ⟨_, rfl, rfl⟩, by simp [Token.sign]⟩
  | cons c cs =>
    obtain ⟨ts, defined, read⟩ := reads_defines (List.cons_ne_nil c cs) [] rfl offset
    have length := defined.length_le
    obtain ⟨l, m, clauses⟩ := Parser.tableClauses_defines defined (2 * ts.length + 2) (by omega)
    exact ⟨ts, read, ⟨_, clauses, rfl⟩, defined.kind_ne⟩

section Statement

variable {schema table : String} {columns : List Column}

theorem not_mem_createText
    (clean : (schema :: table :: columns.map Column.label).any Text.hasNul = false) :
    '\x00' ∉ (createText schema table columns).toList := by
  have clean : '\x00' ∉ schema.toList ∧ '\x00' ∉ table.toList ∧
      ∀ c ∈ columns, '\x00' ∉ c.label.toList := by
    simpa [Text.hasNul] using clean
  obtain ⟨inSchema, inTable, inColumns⟩ := clean
  rw [toList_createText]
  simp [Identifier.not_mem_quotedChars inSchema, Identifier.not_mem_quotedChars inTable,
    not_mem_definitionChars inColumns]

/-- Where the name of the table stands in the statement that makes it. -/
def tableOffset (schema : String) : Nat :=
  "CREATE TABLE ".length + (Identifier.quoted schema).utf8ByteSize + 1

/-- Where the definition of the columns stands. -/
def definitionOffset (schema table : String) : Nat :=
  tableOffset schema + (Identifier.quoted table).utf8ByteSize + 2

/-- The tokens of the statement, with those of the definition of its columns. -/
theorem ofText_createText
    (clean : (schema :: table :: columns.map Column.label).any Text.hasNul = false) :
    ∃ a b d f ts, IsDefinition columns (definitionOffset schema table) ts ∧
      Token.ofText (createText schema table columns) =
        Token.word "CREATE" [] a :: Token.word "TABLE" [' '] b
          :: Token.quoted schema [' '] "CREATE TABLE ".length :: Token.sign '.' [] d
          :: Token.quoted table [] (tableOffset schema) :: Token.sign '(' [' '] f :: ts := by
  choose ts defined using exists_isDefinition columns
  have tokens := ofText_of_reads
    ((beforeNul_eq_self (not_mem_createText clean)).trans (toList_createText ..))
    (.word [] rfl "CREATE" rfl rfl (.word [' '] rfl "TABLE" rfl rfl
      (.quoted [' '] rfl schema (by simp) (.point rfl (.quoted [] rfl table (by simp)
        (.sign [' '] rfl '(' (by decide) (defined _).reads))))))
  have create : byteLength "CREATE".toList = 6 := rfl
  have table : byteLength "TABLE".toList = 5 := rfl
  have start : "CREATE TABLE ".length = 13 := rfl
  have empty : byteLength [] = 0 := rfl
  have space : byteLength [' '] = 1 := rfl
  have point : byteLength ['.'] = 1 := rfl
  have opening : byteLength ['('] = 1 := rfl
  simp only [create, table, empty, space, point, opening, byteLength_quotedChars, Nat.add_zero,
    Nat.zero_add, Nat.reduceAdd] at tokens
  rw [tokens, definitionOffset, tableOffset, start]
  exact ⟨_, _, _, _, _, defined _, rfl⟩

/-- The statement is read as the definition of just the table of the copy. -/
theorem parse_createText
    (clean : (schema :: table :: columns.map Column.label).any Text.hasNul = false) :
    parse (createText schema table columns) =
      .ok (.createTable false false
        ⟨some (nameAt schema "CREATE TABLE ".length), nameAt table (tableOffset schema)⟩
        (columns.map copiedColumn) (missingColumn? columns (definitionOffset schema table))) := by
  obtain ⟨a, b, d, f, ts, defined, tokens⟩ := ofText_createText clean
  obtain ⟨outcome, clauses, fault⟩ := defined.clauses
  rw [parse, tokens, ← fault, ← Parser.nameOf_quoted, ← Parser.nameOf_quoted]
  exact Parser.statement_run schema table clauses a b _ d _ f

/-- Tokens among which there is no parameter. -/
theorem parameterCount_eq_zero {sql : String} (none : ∀ t ∈ Token.ofText sql, t.kind ≠ .parameter) :
    parameterCount sql = 0 := by
  unfold parameterCount
  simp only
  rw [List.foldl_ext _ (fun counted _ => counted)]
  · rw [List.foldl_fixed]
  · rintro ⟨n, seen⟩ t mem
    have among : t ∈ Token.ofText sql :=
      (List.dropWhile_sublist _).mem ((List.takeWhile_sublist _).mem mem)
    exact if_pos (none t among)

theorem parameterCount_createText
    (clean : (schema :: table :: columns.map Column.label).any Text.hasNul = false) :
    parameterCount (createText schema table columns) = 0 := by
  obtain ⟨a, b, d, f, ts, defined, tokens⟩ := ofText_createText clean
  refine parameterCount_eq_zero ?_
  rw [tokens]
  simpa [Token.word, Token.quoted, Token.sign] using defined.kind_ne

/-- What is done to make the table of a copy is what the statement for it does. -/
theorem Database.createCopy_eq_run (db : Database) (schema table : String)
    (columns : List Column) :
    db.createCopy schema table columns
      = (db.run (createText schema table columns)).map (·.2) := by
  unfold createCopy perform
  split
  · rfl
  · next clean =>
    rw [Bool.not_eq_true] at clean
    rw [run, parse_createText clean, parameterCount_createText clean]
    show db.createTable (createText schema table columns) false false
      ⟨some (nameAt schema "CREATE TABLE ".length), nameAt table (tableOffset schema)⟩
      (columns.map copiedColumn) (missingColumn? columns (definitionOffset schema table)) = _
    simp only [prepare, prepare.silently, prepare.beforehand]
    cases db.createTable _ _ _ _ _ _ <;> rfl

end Statement

end RowCheck.Sql
