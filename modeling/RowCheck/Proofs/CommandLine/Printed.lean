import RowCheck.CommandLine.Run
import RowCheck.Proofs.Assertion.Outcome

/-!
# Printed rows as expectations

What is printed for a query can be expected of it. Arguments that ask for a bare run ask for
something else if an option that says what is wanted stands in front of them: reading arguments
comes down to a list of settings, and a list that sets no goal does not mind which one is set
already. Main statement: whatever the query and its backend, the exit codes of the runs that print,
that expect rows, that expect an error and that expect nothing fit together, and the printed text,
typed in shorthand, is expected with success.
-/

namespace RowCheck.CommandLine

/-! ## Shorthand -/

namespace Shorthand

/-- What was typed for a text is read as that text. -/
theorem unescape_escape (t : String) : unescape (escape t) = t := by
  rw [unescape, escape, String.toList_ofList, unescapeChars_escapeChars, String.ofList_toList]

theorem unescapeChars_of_not_mem {s : List Char} (none : '\\' ∉ s) : unescapeChars s = s := by
  induction s with
  | nil => rfl
  | cons c r ih =>
    rw [List.mem_cons, not_or] at none
    rw [unescapeChars_cons (Ne.symm none.1), ih none.2]

/-- Without a backslash a text stands for itself. -/
theorem unescape_of_not_mem {t : String} (none : '\\' ∉ t.toList) : unescape t = t := by
  rw [unescape, unescapeChars_of_not_mem none, String.ofList_toList]

end Shorthand

/-! ## Arguments as settings -/

namespace Arguments

variable {a a' : Arguments}

/-- What one or two arguments set. -/
inductive Setting where
  | option (name : OptionName) (value : String)
  | print
  | sql (text : String)

/-- How arguments end. -/
inductive Ending where
  | all
  | help
  | version
  | wrong

/-- Takes a setting, if it was not made before. -/
def set (a : Arguments) : Setting → Option Arguments
  | .option name value => a.put name value
  | .print => a.setPrint
  | .sql text => a.putSql text

/-- What is asked for at the end. -/
def close (a : Arguments) : Ending → Option Command
  | .all => a.finish
  | .help => some .help
  | .version => some .version
  | .wrong => .none

/-- That arguments come down to some settings and an ending, whatever was read before them. -/
def HasSettings (args : List String) : Prop :=
  ∃ (settings : List Setting) (ending : Ending),
    ∀ a : Arguments, a.read args = (settings.foldlM set a).bind (·.close ending)

variable {arg : String} {args rest : List String}

theorem hasSettings_of_ending (ending : Ending)
    (h : ∀ a : Arguments, a.read args = a.close ending) : HasSettings args :=
  ⟨[], ending, h⟩

/-- A setting comes before those of the other arguments. -/
theorem HasSettings.cons (later : HasSettings rest) (setting : Setting)
    (h : ∀ a : Arguments, a.read args = (a.set setting).bind (·.read rest)) :
    HasSettings args := by
  obtain ⟨settings, ending, later⟩ := later
  refine ⟨setting :: settings, ending, ?_⟩
  intro a
  rw [h, List.foldlM_cons]
  cases a.set setting with
  | none => rfl
  | some a₁ => exact later a₁

/-- An option without a value of its own takes the next argument. -/
theorem hasSettings_of_readValue (ih : ∀ later : List String, later.length ≤ rest.length →
    HasSettings later) (name : OptionName)
    (h : ∀ a : Arguments, a.read args = read.readValue a name rest) : HasSettings args := by
  cases rest with
  | nil => exact hasSettings_of_ending .wrong h
  | cons value rest =>
    by_cases plain : isValue value = true
    · apply (ih rest (by simp)).cons (.option name value)
      intro a
      rw [h, read.readValue, if_pos plain]
      rfl
    · apply hasSettings_of_ending .wrong
      intro a
      rw [h, read.readValue, if_neg plain]
      rfl

theorem hasSettings_of_short (ih : ∀ later : List String, later.length ≤ rest.length →
    HasSettings later) {letters : List Char} (looks : shape arg = .short letters) :
    HasSettings (arg :: rest) := by
  by_cases config : ∃ value, letters = 'c' :: value
  · obtain ⟨value, rfl⟩ := config
    cases value with
    | nil =>
      apply hasSettings_of_readValue ih .config
      intro a
      simp only [Arguments.read, looks]
    | cons c value =>
      by_cases sign : c = '='
      · subst sign
        apply (ih rest (Nat.le_refl _)).cons (.option .config (String.ofList value))
        intro a
        simp only [Arguments.read, looks]
        rfl
      · apply (ih rest (Nat.le_refl _)).cons (.option .config (String.ofList (c :: value)))
        intro a
        simp only [Arguments.read, looks]
        split
        · next none => cases none
        · next same => exact absurd (List.cons.inj same).1 sign
        · rfl
  · by_cases help : ∃ more, letters = 'h' :: more
    · obtain ⟨more, rfl⟩ := help
      apply hasSettings_of_ending .help
      intro a
      simp only [Arguments.read, looks]
      rfl
    · by_cases version : ∃ more, letters = 'V' :: more
      · obtain ⟨more, rfl⟩ := version
        apply hasSettings_of_ending .version
        intro a
        simp only [Arguments.read, looks]
        rfl
      · apply hasSettings_of_ending .wrong
        intro a
        simp only [not_exists] at config help version
        simp only [Arguments.read, looks]
        simp_all [close]

theorem hasSettings_of_long (ih : ∀ later : List String, later.length ≤ rest.length →
    HasSettings later) {name : String} {value? : Option String}
    (looks : shape arg = .long name value?) : HasSettings (arg :: rest) := by
  have later : HasSettings rest := ih rest (Nat.le_refl _)
  cases known : optionNamed? name with
  | some option =>
    cases value? with
    | some value =>
      apply later.cons (.option option value)
      intro a
      simp only [Arguments.read, looks, known]
      rfl
    | none =>
      apply hasSettings_of_readValue ih option
      intro a
      simp only [Arguments.read, looks, known]
  | none =>
    cases value? with
    | some value =>
      apply hasSettings_of_ending .wrong
      intro a
      simp only [Arguments.read, looks, known]
      rfl
    | none =>
      by_cases print : name = "print"
      · apply later.cons .print
        intro a
        simp only [Arguments.read, looks, known, if_pos print]
        rfl
      · by_cases help : name = "help"
        · apply hasSettings_of_ending .help
          intro a
          simp only [Arguments.read, looks, known, if_neg print, if_pos help]
          rfl
        · by_cases version : name = "version"
          · apply hasSettings_of_ending .version
            intro a
            simp only [Arguments.read, looks, known, if_neg print, if_neg help, if_pos version]
            rfl
          · apply hasSettings_of_ending .wrong
            intro a
            simp only [Arguments.read, looks, known, if_neg print, if_neg help, if_neg version]
            rfl

/-- What arguments set does not depend on what was read before them. -/
theorem hasSettings (args : List String) : HasSettings args := by
  induction length : args.length using Nat.strongRecOn generalizing args with
  | ind n ih =>
    cases args with
    | nil => exact hasSettings_of_ending .all fun _ => rfl
    | cons arg rest =>
      have shorter (later : List String) (h : later.length ≤ rest.length) : HasSettings later := by
        apply ih later.length _ later rfl
        rw [← length, List.length_cons]
        omega
      cases looks : shape arg with
      | plain =>
        apply (shorter rest (Nat.le_refl _)).cons (.sql arg)
        intro a
        simp only [Arguments.read, looks]
        rfl
      | separator =>
        refine ⟨rest.map .sql, .all, ?_⟩
        intro a
        simp only [Arguments.read, looks, List.foldlM_map]
        rfl
      | short letters => exact hasSettings_of_short shorter looks
      | long name value? => exact hasSettings_of_long shorter looks

/-! ## Goals -/

/-- Arguments of which those that say what is wanted are replaced. -/
def withGoal (expect? expectError? : Option String) (print : Bool) (a : Arguments) : Arguments :=
  { a with expect?, expectError?, print }

/-- That no argument says what is wanted. -/
def IsBare (a : Arguments) : Prop := a.expect? = .none ∧ a.expectError? = .none ∧ a.print = false

variable {expect? expectError? : Option String} {print : Bool} {setting : Setting}

/-- A setting that leaves arguments bare is made on bare arguments, and does not mind a goal. -/
theorem set_withGoal (made : a.set setting = some a') (bare : a'.IsBare) :
    a.IsBare ∧ (a.withGoal expect? expectError? print).set setting
      = some (a'.withGoal expect? expectError? print) := by
  obtain ⟨noExpect, noError, noPrint⟩ := bare
  cases setting with
  | print =>
    simp only [set, setPrint] at made
    split at made
    · cases made
    · cases made
      cases noPrint
  | sql text =>
    simp only [set, putSql] at made ⊢
    split at made
    · cases made
    · next free =>
      cases made
      exact ⟨⟨noExpect, noError, noPrint⟩, if_neg free⟩
  | option name value =>
    cases name with
    | config =>
      simp only [set, put] at made ⊢
      split at made
      · cases made
      · next free =>
        obtain ⟨b, found, rfl⟩ := Option.map_eq_some_iff.mp made
        refine ⟨⟨noExpect, noError, noPrint⟩, ?_⟩
        rw [found]
        exact if_neg free
    | expect =>
      simp only [set, put] at made
      split at made
      · cases made
      · cases made
        cases noExpect
    | expectError =>
      simp only [set, put] at made
      split at made
      · cases made
      · cases made
        cases noError

/-- Settings that leave arguments bare do not mind a goal. -/
theorem foldlM_set_withGoal {settings : List Setting} (made : settings.foldlM set a = some a')
    (bare : a'.IsBare) :
    a.IsBare ∧ settings.foldlM set (a.withGoal expect? expectError? print)
      = some (a'.withGoal expect? expectError? print) := by
  induction settings generalizing a with
  | nil =>
    cases made
    exact ⟨bare, rfl⟩
  | cons setting settings ih =>
    rw [List.foldlM_cons] at made ⊢
    obtain ⟨a₁, first, later⟩ := Option.bind_eq_some_iff.mp made
    obtain ⟨bare₁, later⟩ := ih later
    obtain ⟨bare, first⟩ := set_withGoal first bare₁
    refine ⟨bare, ?_⟩
    rw [first]
    exact later

variable {b : Backend} {sql : String}

theorem finish_eq_runs_iff :
    a.finish = some (.check ⟨b, .runs, sql⟩) ↔
      a.IsBare ∧ a.sql? = some sql ∧ a.backend?.getD .regular = b := by
  obtain ⟨backend?, expect?, expectError?, print, sql?⟩ := a
  cases sql? with
  | none => simp [finish]
  | some text =>
    cases expect? <;> cases expectError? <;> cases print <;>
      simp [finish, IsBare, and_comm]

/-- Arguments that ask for a bare run ask for what a goal says that was read before them. -/
theorem read_withGoal {goal : Goal}
    (bare : Command.ofArguments? args = some (.check ⟨b, .runs, sql⟩))
    (wanted : ∀ a : Arguments, a.sql? = some sql → a.backend?.getD .regular = b →
      (a.withGoal expect? expectError? print).finish = some (.check ⟨b, goal, sql⟩)) :
    (none.withGoal expect? expectError? print).read args = some (.check ⟨b, goal, sql⟩) := by
  obtain ⟨settings, ending, reads⟩ := hasSettings args
  rw [Command.ofArguments?, reads] at bare
  obtain ⟨a, made, closed⟩ := Option.bind_eq_some_iff.mp bare
  cases ending with
  | help | version | wrong => cases closed
  | all =>
    obtain ⟨isBare, query, backend⟩ := finish_eq_runs_iff.mp closed
    obtain ⟨-, made⟩ := foldlM_set_withGoal made isBare
    rw [reads, made]
    exact wanted a query backend

theorem shape_long {start name : String} (plain : '=' ∉ name.toList)
    (spelt : start.toList = '-' :: '-' :: name.toList ++ ['=']) (x : String) :
    shape (start ++ x) = .long name (some x) := by
  simp [shape, spelt, Text.cutFirst_append plain]

/-- That an argument asks for a goal. -/
inductive Asks : String → Goal → Prop
  | prints : Asks "--print" .prints
  | returns (x : String) : Asks ("--expect=" ++ x) (.returns (Shorthand.unescape x))
  | throws (x : String) : Asks ("--expect-error=" ++ x) (.throws x)

/-- An argument that asks for a goal is noted, and nothing else. -/
theorem Asks.read {arg : String} {goal : Goal} (h : Asks arg goal) (args : List String)
    (sql : String) :
    ∃ expect? expectError? print,
      Command.ofArguments? (arg :: args) = (none.withGoal expect? expectError? print).read args ∧
      ∀ a : Arguments, a.sql? = some sql → (a.withGoal expect? expectError? print).finish
        = some (.check ⟨a.backend?.getD .regular, goal, sql⟩) := by
  cases h with
  | prints =>
    refine ⟨.none, .none, true, rfl, fun a query => ?_⟩
    simp [finish, withGoal, query]
  | returns x =>
    have looks : shape ("--expect=" ++ x) = .long "expect" (some x) :=
      shape_long (by decide) (by decide) x
    refine ⟨some x, .none, false, ?_, fun a query => ?_⟩
    · rw [Command.ofArguments?, Arguments.read, looks]
      rfl
    · simp [finish, withGoal, query]
  | throws x =>
    have looks : shape ("--expect-error=" ++ x) = .long "expect-error" (some x) :=
      shape_long (by decide) (by decide) x
    refine ⟨.none, some x, false, ?_, fun a query => ?_⟩
    · rw [Command.ofArguments?, Arguments.read, looks]
      rfl
    · simp [finish, withGoal, query]

/-- With such an argument in front of those for a bare run, its goal is asked for. -/
theorem ofArguments?_cons {arg : String} {goal : Goal} (asks : Asks arg goal)
    (bare : Command.ofArguments? args = some (.check ⟨b, .runs, sql⟩)) :
    Command.ofArguments? (arg :: args) = some (.check ⟨b, goal, sql⟩) := by
  obtain ⟨expect?, expectError?, print, first, wanted⟩ := asks.read args sql
  rw [first]
  apply read_withGoal bare
  rintro a query rfl
  exact wanted a query

/-- Every query can be asked for, on every backend. -/
theorem ofArguments?_plain (b : Backend) (sql : String) :
    Command.ofArguments? ["--config=" ++ b.name, "--", sql] = some (.check ⟨b, .runs, sql⟩) := by
  cases b <;> rfl

end Arguments

/-! ## Runs -/

/-- The code says whether a goal was met. -/
theorem code_of_eq_zero_iff {printed : String} {met : Except AssertionError Unit} :
    (Output.of printed met).code = 0 ↔ met = .ok () := by
  cases met with
  | ok u => simp [Output.of]
  | error e => simp [Output.of]

theorem code_of_eq_one_iff {printed : String} {met : Except AssertionError Unit} :
    (Output.of printed met).code = 1 ↔ met ≠ .ok () := by
  cases met with
  | ok u => simp [Output.of]
  | error e => simp [Output.of]

/-- The world in which a query is checked. -/
def startingWorld (s : Surroundings) (b : Backend) : World := ⟨[s.factory b], [], .empty⟩

variable {s : Surroundings} {args : List String} {b : Backend} {sql : String}

/-- What is expected of a query so that a goal is met; nothing if its rows are only printed. -/
def Goal.expectation? : Goal → Option Expectation
  | .runs => some .runs
  | .returns expected => some (.rows (Expectation.exactText expected))
  | .throws expected => some (.fails (Expectation.failureWith expected))
  | .prints => none

theorem run_of_expectation? {goal : Goal} {e : Expectation}
    (asked : Command.ofArguments? args = some (.check ⟨b, goal, sql⟩))
    (expected : goal.expectation? = some e) :
    run s args = .of "ok\n" (Query.check ⟨0, sql⟩ e (startingWorld s b)).1 := by
  rw [run, asked]
  cases goal with
  | prints => cases expected
  | runs | returns | throws =>
    cases expected
    rfl

theorem run_prints (asked : Command.ofArguments? args = some (.check ⟨b, .prints, sql⟩)) :
    run s args = match (Query.fetch ⟨0, sql⟩ (startingWorld s b)).1 with
      | .ok text => .of text (.ok ())
      | .error e => .of "" (.error e) := by
  have fetches : run s args
      = ((match (Query.fetch ⟨0, sql⟩ (startingWorld s b)).1 with
          | .ok text => return .of text (.ok ())
          | .error e => return .of "" (.error e) : Act Output)
        (Query.fetch ⟨0, sql⟩ (startingWorld s b)).2).1 := by
    rw [run, asked]
    rfl
  rw [fetches]
  cases (Query.fetch ⟨0, sql⟩ (startingWorld s b)).1 with
  | ok text => rfl
  | error e => rfl

/-- The calls for a query agree on what its backend answers. -/
theorem consistent_startingWorld (s : Surroundings) (b : Backend) (sql : String) :
    Query.Consistent ⟨0, sql⟩ (startingWorld s b) (startingWorld s b) := by
  have bound : (startingWorld s b).factories[(Query.mk 0 sql).factory]? = some (s.factory b) := rfl
  have judged (e : Expectation) := Query.check_fst bound e
  have fetched := Query.fetch_fst bound
  rcases answered : (s.factory b).answer ((startingWorld s b).calls 0) sql
    with source | (failure | results)
  all_goals simp only [answered] at judged fetched
  · exact Query.consistent_of_setup judged fetched
  · exact Query.consistent_of_failure judged fetched
  · exact Query.consistent_of_results judged fetched

/-- Printing ends well exactly if the rows can be fetched, and then these are printed. -/
theorem code_run_prints (asked : Command.ofArguments? args = some (.check ⟨b, .prints, sql⟩)) :
    ((run s args).code = 0 ∧
      (Query.fetch ⟨0, sql⟩ (startingWorld s b)).1 = .ok (run s args).stdout) ∨
    ((run s args).code = 1 ∧ ∀ t, (Query.fetch ⟨0, sql⟩ (startingWorld s b)).1 ≠ .ok t) := by
  rw [run_prints asked]
  cases (Query.fetch ⟨0, sql⟩ (startingWorld s b)).1 with
  | ok text => exact .inl ⟨rfl, rfl⟩
  | error e => exact .inr ⟨rfl, by simp⟩

/-- What is printed can be expected back. Every text can be typed in shorthand, and one without a
backslash stands for itself. For every query on every backend, and arguments that ask for its bare
run: if printing ends well, exactly the texts that stand for what was printed are expected with
success, no failure is expected with success, and the bare run ends well; and if printing fails, so
do the bare run and every expectation of rows. -/
theorem printed_text_expected :
    (∀ t, Shorthand.unescape (Shorthand.escape t) = t) ∧
    (∀ t : String, '\\' ∉ t.toList → Shorthand.unescape t = t) ∧
    (∀ (b : Backend) (sql : String), Command.ofArguments? ["--config=" ++ b.name, "--", sql]
      = some (.check ⟨b, .runs, sql⟩)) ∧
    ∀ (s : Surroundings) (args : List String) (b : Backend) (sql : String),
      Command.ofArguments? args = some (.check ⟨b, .runs, sql⟩) →
      ((run s ("--print" :: args)).code = 0 ∨ (run s ("--print" :: args)).code = 1) ∧
      (∀ t, (run s ("--print" :: args)).code = 0 → (run s ("--print" :: args)).stdout = t →
        (∀ x, (run s (("--expect=" ++ x) :: args)).code = 0 ↔ Shorthand.unescape x = t) ∧
        (run s (("--expect=" ++ Shorthand.escape t) :: args)).code = 0 ∧
        (∀ x, (run s (("--expect-error=" ++ x) :: args)).code = 1) ∧
        (run s args).code = 0) ∧
      ((run s ("--print" :: args)).code = 1 →
        (run s args).code = 1 ∧ ∀ x, (run s (("--expect=" ++ x) :: args)).code = 1) := by
  refine ⟨Shorthand.unescape_escape, fun t => Shorthand.unescape_of_not_mem,
    Arguments.ofArguments?_plain, ?_⟩
  intro s args b sql bare
  have agree := consistent_startingWorld s b sql
  have ran : run s args = .of "ok\n" (Query.runs ⟨0, sql⟩ (startingWorld s b)).1 :=
    run_of_expectation? bare rfl
  have expects (x : String) : run s (("--expect=" ++ x) :: args)
      = .of "ok\n" (Query.returns ⟨0, sql⟩ (Shorthand.unescape x) (startingWorld s b)).1 :=
    run_of_expectation? (Arguments.ofArguments?_cons (.returns x) bare) rfl
  have refuses (x : String) : run s (("--expect-error=" ++ x) :: args)
      = .of "ok\n" (Query.throws ⟨0, sql⟩ x (startingWorld s b)).1 :=
    run_of_expectation? (Arguments.ofArguments?_cons (.throws x) bare) rfl
  rcases code_run_prints (s := s) (Arguments.ofArguments?_cons .prints bare) with
    ⟨code, fetched⟩ | ⟨code, failed⟩
  · refine ⟨.inl code, ?_, fun failed => absurd (code.symm.trans failed) (by decide)⟩
    rintro t - rfl
    have expected (x : String) : (run s (("--expect=" ++ x) :: args)).code = 0 ↔
        Shorthand.unescape x = (run s ("--print" :: args)).stdout := by
      rw [expects, code_of_eq_zero_iff, agree.returns_iff, fetched, Except.ok.injEq]
      exact eq_comm
    refine ⟨expected, (expected _).mpr (Shorthand.unescape_escape _), ?_, ?_⟩
    · intro x
      rw [refuses, code_of_eq_one_iff, (agree.unexpectedSuccess_iff x).mpr ⟨_, fetched⟩]
      simp
    · rw [ran, code_of_eq_zero_iff]
      exact agree.runs_iff.mpr ⟨_, fetched⟩
  · refine ⟨.inr code, fun t ok => absurd (ok.symm.trans code) (by decide), fun _ => ⟨?_, ?_⟩⟩
    · rw [ran, code_of_eq_one_iff, ne_eq, agree.runs_iff, not_exists]
      exact failed
    · intro x
      rw [expects, code_of_eq_one_iff, ne_eq, agree.returns_iff]
      exact failed _

/-- Surroundings without files, address and server. -/
def bareSurroundings : Surroundings := ⟨⟨.absent, .absent, none⟩, none⟩

/-- A query whose text holds a backslash in front of a letter that would stand for a line feed. -/
def slashedArguments : List String := ["-c", "regular", "select 'a\\n' as x"]

/-- A query that fails. -/
def brokenArguments : List String := ["selec 1"]

theorem printed_text_expected_of_slashedArguments :
    Command.ofArguments? slashedArguments = some (.check ⟨.regular, .runs, "select 'a\\n' as x"⟩) ∧
      run bareSurroundings ("--print" :: slashedArguments) = ⟨0, "x=a\\n\n", ""⟩ ∧
      (run bareSurroundings ("--expect=x=a\\\\n\\n" :: slashedArguments)).code = 0 ∧
      (run bareSurroundings ("--expect=x=a\\n\\n" :: slashedArguments)).code ≠ 0 ∧
      (run bareSurroundings ("--expect-error=" :: slashedArguments)).code = 1 ∧
      (run bareSurroundings ("--print" :: brokenArguments)).code = 1 ∧
      (run bareSurroundings ("--expect=" :: brokenArguments)).code = 1 := by
  obtain ⟨-, -, -, fits⟩ := printed_text_expected
  have bare : Command.ofArguments? slashedArguments
      = some (.check ⟨.regular, .runs, "select 'a\\n' as x"⟩) := by decide +kernel
  have printed : run bareSurroundings ("--print" :: slashedArguments)
      = ⟨0, "x=a\\n\n", ""⟩ := by decide +kernel
  have broken : (run bareSurroundings ("--print" :: brokenArguments)).code = 1 := by decide +kernel
  obtain ⟨-, met, -⟩ := fits bareSurroundings slashedArguments _ _ bare
  obtain ⟨-, -, failed⟩ :=
    fits bareSurroundings brokenArguments .regular "selec 1" (by decide +kernel)
  obtain ⟨expected, -, refused, -⟩ := met "x=a\\n\n" (by rw [printed]) (by rw [printed])
  refine ⟨bare, printed, ?_, ?_, refused "", broken, (failed broken).2 ""⟩
  · exact (expected "x=a\\\\n\\n").mpr (by decide +kernel)
  · exact mt (expected "x=a\\n\\n").mp (by decide +kernel)

end RowCheck.CommandLine
