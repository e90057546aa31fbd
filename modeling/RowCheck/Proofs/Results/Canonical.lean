import Mathlib.Data.List.Forall2
import Mathlib.Data.Prod.Basic
import RowCheck.Check
import RowCheck.Results
import RowCheck.Text.Split

/-!
# What a canonical text says

The canonical text of a result is made of the labels and texts of those values that have a column.
A reader takes it apart again: it cuts the text into lines, a line into parts, and a part into a
label and a text. Main statement: if the signs at which it cuts stand in none of these, two results
have the same canonical text only if they show the same, row by row.
-/

namespace RowCheck.Results

/-- The labels and texts of all the values that have a column. -/
def shown (r : Results) : List (List (String × List Char)) :=
  r.rows.map fun row => (r.columns.zip row).map fun p => (p.1.label, p.2.chars)

/-- A label with a text. -/
def partText (p : String × List Char) : List Char := p.1.toList ++ '=' :: p.2

/-- The line of some labels with their texts. -/
def lineText (ps : List (String × List Char)) : List Char :=
  [';', ' '].intercalate (ps.map partText)

/-- The canonical text is made of labels and texts alone. -/
theorem canonicalChars_eq (r : Results) :
    r.canonicalChars = (r.shown.map lineText).flatMap (· ++ ['\n']) := by
  have line (row : List Cell) : rowChars r.columns row
      = lineText ((r.columns.zip row).map fun p => (p.1.label, p.2.chars)) := by
    simp only [lineText, rowChars, List.map_zip_eq_zipWith, List.map_zipWith]
    rfl
  simp only [canonicalChars, shown, List.flatMap_map, line]

theorem canonical_of_shown {r r' : Results} (h : r.shown = r'.shown) :
    r.canonical = r'.canonical := by
  rw [canonical, canonical, canonicalChars_eq, canonicalChars_eq, h]

/-! ## Reading -/

/-- The label and the text of a part. -/
def readPart (s : List Char) : String × List Char :=
  match Text.cutFirst '=' s with
  | some (label, text) => (String.ofList label, text)
  | none => ("", s)

/-- The labels and texts of a line. -/
def readLine (s : List Char) : List (String × List Char) :=
  if s.isEmpty then []
  else (Text.splitAt ';' (' ' :: s)).map fun part => readPart (part.drop 1)

/-- The labels and texts of all lines of a text. -/
def readText (s : List Char) : List (List (String × List Char)) :=
  (Text.splitAt '\n' s).dropLast.map readLine

/-- That a label and a text hold none of the signs at which they are cut. -/
structure IsPlain (p : String × List Char) : Prop where
  label : ∀ c ∈ ['=', ';', '\n'], c ∉ p.1.toList
  text : ∀ c ∈ [';', '\n'], c ∉ p.2

theorem readPart_partText {p : String × List Char} (plain : IsPlain p) :
    readPart (partText p) = p := by
  have sign : '=' ∉ p.1.toList := plain.label '=' List.mem_cons_self
  rw [readPart, partText, Text.cutFirst_append sign]
  simp

theorem not_mem_partText {p : String × List Char} (plain : IsPlain p) :
    ∀ c ∈ [';', '\n'], c ∉ partText p := by
  intro c mem
  have label : c ∉ p.1.toList := plain.label c (List.mem_cons_of_mem _ mem)
  have sign : c ≠ '=' := by
    rintro rfl
    revert mem
    decide
  simp [partText, label, sign, plain.text c mem]

/-- Parts between semicolons and blanks are split into these parts, with the blanks. -/
theorem splitAt_intercalate {part : List Char} {parts : List (List Char)}
    (h : ∀ q ∈ part :: parts, ';' ∉ q) :
    Text.splitAt ';' (' ' :: [';', ' '].intercalate (part :: parts))
      = (part :: parts).map (' ' :: ·) := by
  induction parts generalizing part with
  | nil =>
    have none : ';' ∉ ' ' :: part := by simp [h part List.mem_cons_self]
    rw [List.intercalate_singleton, Text.splitAt_of_not_mem none]
    rfl
  | cons next parts ih =>
    obtain ⟨first, later⟩ := List.forall_mem_cons.mp h
    have none : ';' ∉ ' ' :: part := by simp [first]
    have whole : ' ' :: [';', ' '].intercalate (part :: next :: parts)
        = (' ' :: part) ++ ';' :: (' ' :: [';', ' '].intercalate (next :: parts)) := by
      simp [List.intercalate_cons_cons]
    rw [whole, Text.splitAt_append none, ih later]
    rfl

theorem lineText_ne_nil (p : String × List Char) (ps : List (String × List Char)) :
    lineText (p :: ps) ≠ [] := by
  cases ps <;> simp [lineText, partText, List.intercalate_cons_cons]

/-- A line is read as the labels and texts of which it is made. -/
theorem readLine_lineText {ps : List (String × List Char)} (plain : ∀ p ∈ ps, IsPlain p) :
    readLine (lineText ps) = ps := by
  cases ps with
  | nil => rfl
  | cons p ps =>
    have apart : ∀ q ∈ partText p :: ps.map partText, ';' ∉ q := by
      rw [← List.map_cons, List.forall_mem_map]
      intro q mem
      exact not_mem_partText (plain q mem) ';' List.mem_cons_self
    have filled : (lineText (p :: ps)).isEmpty = false := by
      simp [lineText_ne_nil p ps]
    rw [readLine, filled, if_neg Bool.false_ne_true, lineText, List.map_cons,
      splitAt_intercalate apart, ← List.map_cons, List.map_map, List.map_map]
    calc (p :: ps).map _ = (p :: ps).map id :=
          List.map_congr_left fun q mem => readPart_partText (plain q mem)
      _ = p :: ps := List.map_id _

theorem not_mem_lineText {ps : List (String × List Char)} (plain : ∀ p ∈ ps, IsPlain p) :
    '\n' ∉ lineText ps := by
  induction ps with
  | nil => simp [lineText]
  | cons p ps ih =>
    obtain ⟨first, later⟩ := List.forall_mem_cons.mp plain
    have part : '\n' ∉ partText p := not_mem_partText first '\n' (by simp)
    cases ps with
    | nil => simpa [lineText] using part
    | cons q qs =>
      have rest : '\n' ∉ lineText (q :: qs) := ih later
      simp only [lineText, List.map_cons, List.intercalate_cons_cons] at rest ⊢
      simp [part, rest]

/-- Lines are split at the line feeds that end them. -/
theorem splitAt_lines {lines : List (List Char)} (h : ∀ l ∈ lines, '\n' ∉ l) :
    Text.splitAt '\n' (lines.flatMap (· ++ ['\n'])) = lines ++ [[]] := by
  induction lines with
  | nil => rfl
  | cons l lines ih =>
    obtain ⟨first, later⟩ := List.forall_mem_cons.mp h
    have whole : (l :: lines).flatMap (· ++ ['\n'])
        = l ++ '\n' :: lines.flatMap (· ++ ['\n']) := by
      simp
    rw [whole, Text.splitAt_append first, ih later]
    rfl

/-! ## Results -/

/-- That no label and no value of a result holds a sign that separates them. -/
structure Separable (r : Results) : Prop where
  labels : ∀ column ∈ r.columns, ∀ c ∈ ['=', ';', '\n'], c ∉ column.label.toList
  cells : ∀ row ∈ r.rows, ∀ cell ∈ row, ∀ c ∈ [';', '\n'], c ∉ cell.display.toList

instance (r : Results) : Decidable r.Separable :=
  decidable_of_iff
    ((∀ column ∈ r.columns, ['=', ';', '\n'].all (· ∉ column.label.toList))
      ∧ ∀ row ∈ r.rows, ∀ cell ∈ row, [';', '\n'].all (· ∉ cell.display.toList)) <| by
    simp only [List.all_eq_true, decide_eq_true_eq]
    exact ⟨fun h => ⟨h.1, h.2⟩, fun h => ⟨h.labels, h.cells⟩⟩

variable {r r' : Results}

theorem Separable.isPlain (h : r.Separable) : ∀ ps ∈ r.shown, ∀ p ∈ ps, IsPlain p := by
  intro ps listed p mem
  obtain ⟨row, inRows, rfl⟩ := List.mem_map.mp listed
  obtain ⟨⟨column, cell⟩, zipped, rfl⟩ := List.mem_map.mp mem
  obtain ⟨inColumns, inRow⟩ := List.of_mem_zip zipped
  have text : cell.display.toList = cell.chars := String.toList_ofList
  have clean := h.cells row inRows cell inRow
  rw [text] at clean
  exact ⟨h.labels column inColumns, clean⟩

/-- What a result shows is read from its canonical text. -/
theorem readText_canonicalChars (h : r.Separable) : readText r.canonicalChars = r.shown := by
  have lines : ∀ l ∈ r.shown.map lineText, '\n' ∉ l := by
    rw [List.forall_mem_map]
    intro ps listed
    exact not_mem_lineText (h.isPlain ps listed)
  rw [readText, canonicalChars_eq, splitAt_lines lines, List.dropLast_concat, List.map_map]
  calc r.shown.map _ = r.shown.map id :=
        List.map_congr_left fun ps listed => readLine_lineText (h.isPlain ps listed)
    _ = r.shown := List.map_id _

/-- That two rows show the same labels with the same texts, under columns of their own. -/
def SameRow (columns columns' : List Column) (row row' : List Cell) : Prop :=
  (columns.zip row).map (fun p => (p.1.label, p.2.display))
    = (columns'.zip row').map fun p => (p.1.label, p.2.display)

theorem sameRow_iff {columns columns' : List Column} {row row' : List Cell} :
    SameRow columns columns' row row' ↔
      (columns.zip row).map (fun p => (p.1.label, p.2.chars))
        = (columns'.zip row').map fun p => (p.1.label, p.2.chars) := by
  have texts (columns : List Column) (row : List Cell) :
      (columns.zip row).map (fun p => (p.1.label, p.2.display))
        = ((columns.zip row).map fun p => (p.1.label, p.2.chars)).map
            (Prod.map id String.ofList) := by
    rw [List.map_map]
    rfl
  have injective : Function.Injective (Prod.map (id : String → String) String.ofList) :=
    Function.injective_id.prodMap fun _ _ same => String.ofList_injective same
  rw [SameRow, texts, texts, (List.map_injective_iff.mpr injective).eq_iff]

/-- Two results show the same if they do so row by row. -/
theorem shown_eq_iff :
    r.shown = r'.shown ↔ List.Forall₂ (SameRow r.columns r'.columns) r.rows r'.rows := by
  rw [shown, shown, ← List.forall₂_eq_eq_eq, List.forall₂_map_left_iff, List.forall₂_map_right_iff]
  constructor
  · intro h
    exact h.imp fun row row' same => sameRow_iff.mpr same
  · intro h
    exact h.imp fun row row' same => sameRow_iff.mp same

/-- The canonical text determines the rows: if no label and no text holds a sign that separates
them, two results have the same text if and only if they have equally many rows and each of them
shows the same labels with the same texts. So all results that pass for one expected text show
exactly the same. -/
theorem canonical_inj (h : r.Separable) (h' : r'.Separable) :
    (r.canonical = r'.canonical ↔
      r.rowCount = r'.rowCount ∧
        List.Forall₂ (SameRow r.columns r'.columns) r.rows r'.rows) ∧
    ∀ expected, Expectation.exactText expected r.canonical = .ok () →
      Expectation.exactText expected r'.canonical = .ok () →
      List.Forall₂ (SameRow r.columns r'.columns) r.rows r'.rows := by
  have rows (same : r.canonical = r'.canonical) :
      List.Forall₂ (SameRow r.columns r'.columns) r.rows r'.rows := by
    have read := congrArg readText (String.ofList_injective same)
    rw [readText_canonicalChars h, readText_canonicalChars h'] at read
    exact shown_eq_iff.mp read
  have passes {expected actual : String}
      (ok : Expectation.exactText expected actual = .ok ()) : actual = expected := by
    unfold Expectation.exactText at ok
    split at ok
    · assumption
    · cases ok
  refine ⟨⟨fun same => ⟨(rows same).length_eq, rows same⟩, fun same => ?_⟩, ?_⟩
  · exact canonical_of_shown (shown_eq_iff.mpr same.2)
  · intro expected first second
    exact rows ((passes first).trans (passes second).symm)

/-- A result with an empty label and with rows of fewer values than there are columns. -/
def raggedResult : Results :=
  ⟨[⟨"a", .text⟩, ⟨"", .boolean⟩], [[.text "x = y", .text ""], [.bool true], []]⟩

/-- A result of other types, with a column and with values that are not shown. -/
def wideResult : Results :=
  ⟨[⟨"a", .varchar⟩, ⟨"", .uuid⟩, ⟨"c", .text⟩],
    [[.text "x = y", .uuid ""], [.dateTime "true"], []]⟩

theorem raggedResult_same_as_wideResult :
    raggedResult.Separable ∧ wideResult.Separable ∧
      Expectation.exactText "a=x = y; =\na=true\n\n" raggedResult.canonical = .ok () ∧
      Expectation.exactText "a=x = y; =\na=true\n\n" wideResult.canonical = .ok () ∧
      List.Forall₂ (SameRow raggedResult.columns wideResult.columns)
        raggedResult.rows wideResult.rows := by
  have ragged : raggedResult.Separable := by decide +kernel
  have wide : wideResult.Separable := by decide +kernel
  have text : raggedResult.canonical = "a=x = y; =\na=true\n\n" := by decide +kernel
  have text' : wideResult.canonical = "a=x = y; =\na=true\n\n" := by decide +kernel
  have passes : Expectation.exactText "a=x = y; =\na=true\n\n" raggedResult.canonical = .ok () := by
    rw [Expectation.exactText, if_pos text]
  have passes' : Expectation.exactText "a=x = y; =\na=true\n\n" wideResult.canonical = .ok () := by
    rw [Expectation.exactText, if_pos text']
  obtain ⟨-, pinned⟩ := canonical_inj ragged wide
  exact ⟨ragged, wide, passes, passes', pinned _ passes passes'⟩

end RowCheck.Results
