import RowCheck.Proofs.Sql.TableText

/-!
# Names in statements

A name cannot leave its quotes: whatever its characters are, it is read back as one token, and what
stands behind it is read as if it stood alone. So the statements that are built for a copy are read
back as their fixed words and signs with just the given names between them, and different names make
different statements.
-/

namespace RowCheck.Sql

open Token (scan scanAll blankLength readQuoted)

/-! ## Reading on behind a token -/

namespace Token

theorem length_readQuoted {quote : Char} {s text rest : List Char}
    (h : readQuoted quote s = some (text, rest)) : rest.length < s.length := by
  fun_induction readQuoted quote s generalizing text rest with
  | case1 => cases h
  | case2 =>
    cases h
    exact Nat.zero_lt_one
  | case3 r ih =>
    obtain ⟨p, found, e⟩ := Option.map_eq_some_iff.mp h
    cases e
    exact Nat.lt_add_right 2 (ih found)
  | case4 =>
    cases h
    exact Nat.lt_succ_self _
  | case5 c r _ ih =>
    obtain ⟨p, found, e⟩ := Option.map_eq_some_iff.mp h
    cases e
    exact Nat.lt_succ_of_lt (ih found)

theorem scanNumber_decimal_pos {c : Char} {r : List Char}
    (h : (c.isDigit || (c == '.' && r.head?.any Char.isDigit)) = true) :
    0 < (scanNumber.decimal (c :: r)).1 := by
  -- Either there is a digit in front, or there is none and the point counts.
  have front : 0 < scanNumber.run (c :: r) ∨ scanNumber.run (c :: r) = 0 ∧ c = '.' := by
    rw [Bool.or_eq_true, Bool.and_eq_true, beq_iff_eq] at h
    rcases h with digit | ⟨rfl, -⟩
    · simp [scanNumber.run, digit]
    · exact .inr ⟨rfl, rfl⟩
  unfold scanNumber.decimal scanNumber.finish
  rcases front with some | ⟨none, rfl⟩
  · dsimp only
    repeat' split
    all_goals
      dsimp only
      omega
  · rw [none]
    simp only [List.drop_zero]
    repeat' split
    all_goals
      simp only
      omega

/-- A number has at least one character. -/
theorem scanNumber_pos {c : Char} {r : List Char}
    (h : (c.isDigit || (c == '.' && r.head?.any Char.isDigit)) = true) :
    0 < (scanNumber (c :: r)).1 := by
  have decimal := scanNumber_decimal_pos h
  unfold scanNumber
  split
  · split
    · exact Nat.add_pos_left Nat.two_pos _
    · next e _ => exact e ▸ decimal
  · exact decimal

theorem pos_ite {c : Prop} [Decidable c] {a b : TokenKind × Nat} (yes : c → 0 < a.2)
    (no : ¬c → 0 < b.2) : 0 < (if c then a else b).2 := by
  split
  · next h => exact yes h
  · next h => exact no h

/-- A token has at least one character. -/
theorem scan_pos {s : List Char} (h : s ≠ []) : 0 < (scan s).2 := by
  cases s with
  | nil => exact absurd rfl h
  | cons c r =>
    rw [scan]
    apply pos_ite
    · -- Behind a closing quote there is less than behind the opening one.
      intro _
      cases inner : readQuoted c r with
      | none => exact Nat.succ_pos _
      | some found =>
        have shorter : found.2.length < r.length := length_readQuoted inner
        exact Nat.sub_pos_of_lt (Nat.lt_succ_of_lt shorter)
    intro _
    apply pos_ite
    · intro _
      exact pos_ite (fun _ => Nat.succ_pos _) fun _ => Nat.succ_pos _
    intro _
    apply pos_ite
    · intro number
      exact Nat.add_pos_left (scanNumber_pos number) _
    intro _
    apply pos_ite
    · intro _
      apply pos_ite
      · exact fun _ => Nat.succ_pos _
      · exact fun _ => Nat.lt_min.mpr ⟨Nat.succ_pos _, Nat.succ_pos _⟩
    intro _
    apply pos_ite
    · exact fun _ => Nat.add_pos_left Nat.one_pos _
    intro _
    apply pos_ite
    · exact fun _ => Nat.add_pos_left Nat.one_pos _
    -- What is left are parameters and signs, whose lengths are written down.
    repeat
      intro _
      apply pos_ite
      · exact fun _ => Nat.succ_pos _
    exact fun _ => Nat.succ_pos _

/-- The fuel does not tell, as long as there is more than there are characters. -/
theorem scanAll_congr {fuel fuel' : Nat} (offset : Nat) {s : List Char} (h : s.length < fuel)
    (h' : s.length < fuel') : scanAll fuel offset s = scanAll fuel' offset s := by
  induction fuel generalizing fuel' offset s with
  | zero => cases h
  | succ fuel ih =>
    obtain ⟨fuel', rfl⟩ : ∃ n, fuel' = n + 1 := ⟨fuel' - 1, by omega⟩
    rw [scanAll, scanAll]
    generalize blankLength (s.length + 1) s = blank
    by_cases exhausted : s.drop blank = []
    · simp [exhausted, scan]
    · have shorter : ((s.drop blank).drop (scan (s.drop blank)).2).length < s.length := by
        have taken := scan_pos exhausted
        have filled := List.length_pos_of_ne_nil exhausted
        rw [List.length_drop] at filled ⊢
        rw [List.length_drop]
        omega
      dsimp only
      have enough : ((s.drop blank).drop (scan (s.drop blank)).2).length < fuel := by omega
      have enough' : ((s.drop blank).drop (scan (s.drop blank)).2).length < fuel' := by omega
      rw [ih _ enough enough']

end Token

theorem reads_scanAll (offset : Nat) (s : List Char) :
    Reads offset s (scanAll (s.length + 1) offset s) :=
  fun _ enough => Token.scanAll_congr offset enough (Nat.lt_succ_self _)

/-! ## What a token says -/

/-- What a token says, whatever its place is and whatever blanks are before it. -/
inductive Lexeme where
  | word (written : String)
  | sign (written : String)
  /-- A name in double quotes. -/
  | name (text : String)
  | string (text : String)
  | other (kind : TokenKind) (written : String)
  | finish
  deriving DecidableEq

/-- What a token says. -/
def Token.lexeme (t : Token) : Lexeme :=
  match t.kind with
  | .word => .word t.written
  | .sign => .sign t.written
  | .name text true => .name (String.ofList text)
  | .string text => .string (String.ofList text)
  | .finish => .finish
  | kind => .other kind t.written

/-- What a text says, token by token. -/
def lexemes (sql : String) : List Lexeme := (Token.ofText sql).map Token.lexeme

@[simp] theorem Token.lexeme_word (w : String) (gap : List Char) (offset : Nat) :
    (Token.word w gap offset).lexeme = .word w :=
  congrArg Lexeme.word String.ofList_toList

@[simp] theorem Token.lexeme_sign (c : Char) (gap : List Char) (offset : Nat) :
    (Token.sign c gap offset).lexeme = .sign (String.ofList [c]) :=
  rfl

@[simp] theorem Token.lexeme_quoted (name : String) (gap : List Char) (offset : Nat) :
    (Token.quoted name gap offset).lexeme = .name name :=
  congrArg Lexeme.name String.ofList_toList

@[simp] theorem Token.lexeme_finish (offset : Nat) :
    (⟨.finish, [], [], offset⟩ : Token).lexeme = .finish :=
  rfl

/-- What a text says does not depend on where it begins. -/
theorem lexemes_scanAll (fuel offset offset' : Nat) (s : List Char) :
    (scanAll fuel offset s).map Token.lexeme = (scanAll fuel offset' s).map Token.lexeme := by
  induction fuel generalizing offset offset' s with
  | zero => rfl
  | succ fuel ih =>
    rw [scanAll, scanAll]
    dsimp only
    split
    · rfl
    · rw [List.map_cons, List.map_cons, ih]
      rfl

/-- A name in quotes says just the name, and the text behind it says what it says alone. -/
theorem lexemes_quoted_append {name rest : String} (clean : '\x00' ∉ name.toList)
    (stop : rest.toList.head? ≠ some '"') :
    lexemes (Identifier.quoted name ++ rest) = .name name :: lexemes rest := by
  let further := beforeNul rest.toList
  have cut : beforeNul (Identifier.quoted name ++ rest).toList
      = [] ++ (Identifier.quotedChars name.toList ++ further) := by
    rw [String.toList_append, Identifier.quoted, String.toList_ofList,
      beforeNul_append (Identifier.not_mem_quotedChars clean)]
    rfl
  have goes_on : further.head? ≠ some '"' := by
    cases spelt : rest.toList with
    | nil => simp [further, spelt, beforeNul]
    | cons c cs =>
      have other : c ≠ '"' := by simpa [spelt] using stop
      by_cases nul : c = '\x00' <;> simp [further, spelt, beforeNul, nul, other]
  have read : Reads 0 _ _ := .quoted [] rfl name goes_on (reads_scanAll _ further)
  rw [lexemes, ofText_of_reads cut read, List.map_cons, Token.lexeme_quoted,
    lexemes_scanAll _ _ 0]
  rfl

/-! ## Statements of a copy -/

/-- What the definition of a column says. -/
def columnLexemes (c : Column) : List Lexeme := [.name c.label, .word c.type.affinity.name]

/-- What the definition of a table says. -/
def definitionLexemes (columns : List Column) : List Lexeme :=
  [Lexeme.sign ","].intercalate (columns.map columnLexemes) ++ [.sign ")", .sign ";", .finish]

theorem Parser.Defines.lexemes {columns : List Column} {ts : List Token}
    (h : Parser.Defines columns ts) : ts.map Token.lexeme = definitionLexemes columns := by
  induction h with
  | last c gap i j k l m => simp [definitionLexemes, columnLexemes]
  | @more c gap i j k cs ts later ih =>
    obtain ⟨d, ds, rfl⟩ : ∃ d ds, cs = d :: ds := by cases later <;> exact ⟨_, _, rfl⟩
    simp [Parser.columnTokens, ih, definitionLexemes, columnLexemes]

theorem Reads.definition_lexemes {columns : List Column} {offset : Nat} {ts : List Token}
    (h : Reads offset (definitionChars columns) ts) :
    ts.map Token.lexeme = definitionLexemes columns := by
  have unique {us : List Token} (h' : Reads offset (definitionChars columns) us) : ts = us :=
    (h _ (Nat.lt_succ_self _)).symm.trans (h' _ (Nat.lt_succ_self _))
  cases columns with
  | nil =>
    have read : Reads offset (definitionChars []) _ :=
      .sign [] rfl ')' (by decide) (.sign [] rfl ';' (by decide) (.nil _))
    rw [unique read]
    rfl
  | cons c cs =>
    obtain ⟨us, defined, read⟩ := reads_defines (List.cons_ne_nil c cs) [] rfl offset
    rw [unique read, defined.lexemes]

theorem lexemes_selectText {schema table : String} (hs : '\x00' ∉ schema.toList)
    (ht : '\x00' ∉ table.toList) :
    lexemes (selectText schema table)
      = [.word "SELECT", .sign "*", .word "FROM", .name schema, .sign ".", .name table,
          .finish] := by
  obtain ⟨a, b, c, d, e, f, g, tokens⟩ := ofText_selectText hs ht
  simp [lexemes, tokens]

theorem lexemes_createText {schema table : String} {columns : List Column}
    (clean : (schema :: table :: columns.map Column.label).any Text.hasNul = false) :
    lexemes (createText schema table columns)
      = [.word "CREATE", .word "TABLE", .name schema, .sign ".", .name table, .sign "("]
        ++ definitionLexemes columns := by
  obtain ⟨a, b, d, f, ts, defined, tokens⟩ := ofText_createText clean
  simp [lexemes, tokens, defined.reads.definition_lexemes]

/-! ## Attaching a schema -/

namespace Token

/-- A text without quotes in it is one token. -/
theorem scan_text {text rest : List Char} (plain : '\'' ∉ text) (stop : rest.head? ≠ some '\'') :
    scan ('\'' :: (text ++ '\'' :: rest)) = (.string text, text.length + 2) := by
  have inner : readQuoted '\'' (text ++ '\'' :: rest) = some (text, rest) := by
    induction text with
    | nil => cases rest <;> simp_all [readQuoted]
    | cons c cs ih =>
      rw [List.mem_cons, not_or] at plain
      rw [List.cons_append, readQuoted.eq_def]
      simp [Ne.symm plain.1, ih plain.2]
  rw [scan, if_pos (.inl rfl), inner]
  simp only [if_true, List.length_cons, List.length_append, Prod.mk.injEq, true_and]
  omega

/-- The token of a text in quotes. -/
def text (written : String) (gap : List Char) (offset : Nat) : Token :=
  ⟨.string written.toList, '\'' :: (written.toList ++ ['\'']), gap, offset⟩

@[simp] theorem lexeme_text (written : String) (gap : List Char) (offset : Nat) :
    (text written gap offset).lexeme = .string written :=
  congrArg Lexeme.string String.ofList_toList

end Token

theorem Reads.text {offset : Nat} {rest : List Char} {ts : List Token} (gap : List Char)
    (spaces : Token.isSpaces gap = true) (written : String) (plain : '\'' ∉ written.toList)
    (stop : rest.head? ≠ some '\'')
    (h : Reads (offset + Token.byteLength gap
      + Token.byteLength ('\'' :: (written.toList ++ ['\'']))) rest ts) :
    Reads offset (gap ++ ('\'' :: (written.toList ++ ['\'']) ++ rest))
      (Token.text written gap (offset + Token.byteLength gap) :: ts) := by
  refine Reads.cons gap spaces rfl ?_ (by simp) h
  have found := Token.scan_text plain stop
  simpa using found

/-- The tokens of the statement that attaches a schema. -/
def IsAttachment (schema : String) (ts : List Token) : Prop :=
  ∃ a b c d e f g, ts =
    [Token.word "ATTACH" [] a, Token.word "DATABASE" [' '] b, Token.text ":memory:" [' '] c,
      Token.word "AS" [' '] d, Token.quoted schema [' '] e, Token.sign ';' [] f,
      ⟨.finish, [], [], g⟩]

theorem ofText_attachText {schema : String} (clean : '\x00' ∉ schema.toList) :
    IsAttachment schema (Token.ofText (attachText schema)) := by
  let text := "ATTACH".toList ++ ' ' :: ("DATABASE".toList ++ [' '] ++
    ('\'' :: (":memory:".toList ++ ['\'']) ++ ' ' :: ("AS".toList ++ ' ' ::
      (Identifier.quotedChars schema.toList ++ [';']))))
  have spelt : (attachText schema).toList = text := by
    unfold attachText
    simp [text, Identifier.quoted]
  have whole : '\x00' ∉ (attachText schema).toList := by
    rw [spelt]
    simp [text, Identifier.not_mem_quotedChars clean]
  obtain ⟨ts, ⟨a, b, c, d, e, f, g, rfl⟩, read⟩ :
      ∃ ts, IsAttachment schema ts ∧ Reads 0 text ts :=
    ⟨_, ⟨_, _, _, _, _, _, _, rfl⟩,
      .word [] rfl "ATTACH" rfl rfl (.word [' '] rfl "DATABASE" rfl rfl
        (.text [' '] rfl ":memory:" (by decide) (by simp) (.word [' '] rfl "AS" rfl rfl
          (.quoted [' '] rfl schema (by simp) (.sign [] rfl ';' (by decide) (.nil _))))))⟩
  exact ⟨a, b, c, d, e, f, g, ofText_of_reads ((beforeNul_eq_self whole).trans spelt) read⟩

theorem lexemes_attachText {schema : String} (clean : '\x00' ∉ schema.toList) :
    lexemes (attachText schema)
      = [.word "ATTACH", .word "DATABASE", .string ":memory:", .word "AS", .name schema,
          .sign ";", .finish] := by
  obtain ⟨a, b, c, d, e, f, g, tokens⟩ := ofText_attachText clean
  simp [lexemes, tokens]

theorem parse_attachText {schema : String} (clean : '\x00' ∉ schema.toList) :
    parse (attachText schema) = .ok (.attach schema) := by
  obtain ⟨a, b, c, d, e, f, g, tokens⟩ := ofText_attachText clean
  have name : (Parser.nameOf (Token.quoted schema [' '] e)).text = schema := String.ofList_toList
  rw [parse, tokens]
  exact congrArg (fun schema => Except.ok (Statement.attach schema)) name

theorem parameterCount_attachText {schema : String} (clean : '\x00' ∉ schema.toList) :
    parameterCount (attachText schema) = 0 := by
  obtain ⟨a, b, c, d, e, f, g, tokens⟩ := ofText_attachText clean
  rw [parameterCount, tokens]
  rfl

/-- What is done to attach a schema is what the statement for it does. -/
theorem Database.attachSchema_eq_run (db : Database) (schema : String) :
    db.attachSchema schema = (db.run (attachText schema)).map (·.2) := by
  unfold attachSchema perform
  split
  · rfl
  · next clean =>
    have clean : '\x00' ∉ schema.toList := by simpa [Text.hasNul] using clean
    rw [run, parse_attachText clean]
    simp only [parameterCount_attachText clean, prepare, prepare.silently]
    cases db.attach schema <;> rfl

/-! ## Names and their quotes -/

namespace Identifier

/-- What is read behind an opening quote is a name with its quotes doubled, up to a quote that no
further one follows. -/
theorem readQuoted_eq_some_iff {s name rest : List Char} :
    readQuoted '"' s = some (name, rest) ↔
      s = doubled name ++ '"' :: rest ∧ rest.head? ≠ some '"' := by
  constructor
  · intro h
    fun_induction readQuoted '"' s generalizing name rest with
    | case1 => cases h
    | case2 =>
      cases h
      exact ⟨rfl, nofun⟩
    | case3 r ih =>
      obtain ⟨⟨text, behind⟩, found, e⟩ := Option.map_eq_some_iff.mp h
      cases e
      obtain ⟨rfl, stop⟩ := ih found
      exact ⟨by simp [doubled], stop⟩
    | case4 d r other =>
      cases h
      exact ⟨rfl, by simpa using other⟩
    | case5 c r other ih =>
      obtain ⟨⟨text, behind⟩, found, e⟩ := Option.map_eq_some_iff.mp h
      cases e
      obtain ⟨rfl, stop⟩ := ih found
      exact ⟨by simp [doubled, other], stop⟩
  · rintro ⟨rfl, stop⟩
    exact readQuoted_doubled name rest stop

/-- Two names in quotes with something behind them are the same only if the names are. -/
theorem quotedChars_append_inj {name name' rest rest' : List Char} (stop : rest.head? ≠ some '"')
    (stop' : rest'.head? ≠ some '"') (h : quotedChars name ++ rest = quotedChars name' ++ rest') :
    name = name' ∧ rest = rest' := by
  have inner : doubled name ++ '"' :: rest = doubled name' ++ '"' :: rest' := by
    simpa [quotedChars] using h
  have read := readQuoted_doubled name rest stop
  rw [inner, readQuoted_doubled name' rest' stop'] at read
  cases read
  exact ⟨rfl, rfl⟩

end Identifier

/-- The statement that reads a table tells which table it is. -/
theorem selectText_inj {schema table schema' table' : String} :
    selectText schema table = selectText schema' table' ↔ schema = schema' ∧ table = table' := by
  constructor
  · intro h
    have spelt := congrArg String.toList h
    simp only [selectText, targetText, Identifier.quoted, String.toList_append,
      String.toList_ofList, List.append_assoc, List.append_cancel_left_eq] at spelt
    obtain ⟨schemas, behind⟩ := Identifier.quotedChars_append_inj (by simp) (by simp) spelt
    rw [List.append_cancel_left_eq] at behind
    have behind : Identifier.quotedChars table.toList ++ []
        = Identifier.quotedChars table'.toList ++ [] := by
      rw [behind]
    obtain ⟨tables, -⟩ := Identifier.quotedChars_append_inj (by simp) (by simp) behind
    exact ⟨String.toList_inj.mp schemas, String.toList_inj.mp tables⟩
  · rintro ⟨rfl, rfl⟩
    rfl

/-- A name cannot leave its quotes. What is read behind an opening quote is exactly a name with its
quotes doubled, so a name in quotes is one token with just that name, and the text behind it is read
as if it stood alone. The statements of a copy are read back with exactly the names, columns and
affinities that they are built from, and different tables are read by different statements. -/
theorem quoted_names_read_back :
    (∀ s name rest : List Char, readQuoted '"' s = some (name, rest) ↔
      s = Identifier.doubled name ++ '"' :: rest ∧ rest.head? ≠ some '"') ∧
    (∀ name rest : List Char, rest.head? ≠ some '"' →
      scan (Identifier.quotedChars name ++ rest)
        = (.name name true, (Identifier.quotedChars name).length)) ∧
    (∀ name rest : String, '\x00' ∉ name.toList → rest.toList.head? ≠ some '"' →
      lexemes (Identifier.quoted name ++ rest) = .name name :: lexemes rest) ∧
    (∀ schema table : String, '\x00' ∉ schema.toList → '\x00' ∉ table.toList →
      lexemes (selectText schema table)
        = [.word "SELECT", .sign "*", .word "FROM", .name schema, .sign ".", .name table,
            .finish]) ∧
    (∀ schema : String, '\x00' ∉ schema.toList →
      lexemes (attachText schema)
        = [.word "ATTACH", .word "DATABASE", .string ":memory:", .word "AS", .name schema,
            .sign ";", .finish]) ∧
    (∀ (schema table : String) (columns : List Column),
      (∀ name ∈ schema :: table :: columns.map Column.label, '\x00' ∉ name.toList) →
      lexemes (createText schema table columns)
        = [.word "CREATE", .word "TABLE", .name schema, .sign ".", .name table, .sign "("]
          ++ [Lexeme.sign ","].intercalate
              (columns.map fun c => [.name c.label, .word c.type.affinity.name])
          ++ [.sign ")", .sign ";", .finish]) ∧
    ∀ schema table schema' table' : String,
      selectText schema table = selectText schema' table' ↔
        schema = schema' ∧ table = table' := by
  refine ⟨fun s name rest => Identifier.readQuoted_eq_some_iff, fun name rest stop =>
    Token.scan_quoted name rest stop, fun name rest clean stop => lexemes_quoted_append clean stop,
    fun schema table inSchema inTable => lexemes_selectText inSchema inTable,
    fun schema clean => lexemes_attachText clean, fun schema table columns clean => ?_,
    fun schema table schema' table' => selectText_inj⟩
  have none : (schema :: table :: columns.map Column.label).any Text.hasNul = false := by
    rw [List.any_eq_false]
    intro name mem
    simpa [Text.hasNul] using clean name mem
  rw [lexemes_createText none, List.append_assoc]
  rfl

theorem injected_names_read_back :
    lexemes (selectText "a\".\"b" "t\"; DROP TABLE x; --")
        = [.word "SELECT", .sign "*", .word "FROM", .name "a\".\"b", .sign ".",
            .name "t\"; DROP TABLE x; --", .finish] ∧
      lexemes (attachText "")
        = [.word "ATTACH", .word "DATABASE", .string ":memory:", .word "AS", .name "", .sign ";",
            .finish] ∧
      lexemes (createText "\"" "" [⟨"\"\"", .integer⟩, ⟨"c) --", .text⟩])
        = [.word "CREATE", .word "TABLE", .name "\"", .sign ".", .name "", .sign "(", .name "\"\"",
            .word "INTEGER", .sign ",", .name "c) --", .word "TEXT", .sign ")", .sign ";",
            .finish] ∧
      lexemes (Identifier.quoted "\"" ++ ".\"") = .name "\"" :: lexemes ".\"" ∧
      scan (Identifier.quotedChars ['"'] ++ ['.', '"']) = (.name ['"'] true, 4) ∧
      selectText "a\".\"b" "" ≠ selectText "a" "b" := by
  obtain ⟨-, scans, alone, select, attach, create, inj⟩ := quoted_names_read_back
  refine ⟨select _ _ (by decide) (by decide), attach _ (by decide), ?_, alone _ _ (by decide)
    (by decide), scans _ _ (by decide), fun same => ?_⟩
  · exact create "\"" "" [⟨"\"\"", .integer⟩, ⟨"c) --", .text⟩] (by decide)
  · exact absurd ((inj _ _ _ _).mp same).2 (by decide)

end RowCheck.Sql
