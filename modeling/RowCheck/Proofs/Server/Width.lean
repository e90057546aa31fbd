import Mathlib.Algebra.Ring.Nat
import RowCheck.Proofs.Results.Canonical
import RowCheck.Proofs.Server.Breakdown
import RowCheck.Proofs.Server.Native
import RowCheck.Proofs.Server.Places

/-!
# Rows as wide as the columns

The canonical text leaves out the values that have no column, and the columns that have no value.
In the native way columns and rows are kept apart while the messages of a reply come in, and are
dropped at different ones of them. Main statement: whichever messages come in whichever order, after
each of them all rows are as wide as the columns, so that every value is shown.
-/

namespace RowCheck

/-! ## What the text of such rows holds -/

namespace Results

/-- Every row has a value for each column and no further ones. -/
def IsRectangular (r : Results) : Prop := ∀ row ∈ r.rows, row.length = r.columns.length

/-- The labelled values of the rows, as they are shown. -/
def parts (r : Results) : List (List (List Char)) := r.rows.map (r.columns.zipWith pairChars)

/-- How often a sign stands in the labels that are shown, which is once in each row, and in the
texts of the values. -/
def countInside (r : Results) (c : Char) : Nat :=
  r.rowCount * (r.columns.map fun column => column.label.toList.count c).sum
    + (r.rows.map fun row => (row.map fun cell => cell.chars.count c).sum).sum

variable {r : Results} {columns : List Column} {row : List Cell} {c : Char}

theorem canonicalChars_eq_parts (r : Results) :
    r.canonicalChars = r.parts.flatMap fun line => [';', ' '].intercalate line ++ ['\n'] := by
  rw [parts, List.flatMap_map]
  rfl

theorem length_parts (h : r.IsRectangular) :
    r.parts.map List.length = r.rows.map List.length := by
  rw [parts, List.map_map]
  refine List.map_congr_left fun row mem => ?_
  rw [Function.comp_apply, List.length_zipWith, h row mem, Nat.min_self]

/-- Every value is shown under the label of its column. -/
theorem item?_parts (h : r.IsRectangular) {p : Place} {cell : Cell}
    (there : p.item? r.rows = some cell) : ∃ column, r.columns[p.column]? = some column ∧
      p.item? r.parts = some (column.label.toList ++ '=' :: cell.chars) := by
  obtain ⟨row, found, inside⟩ := Place.item?_eq_some_iff.mp there
  obtain ⟨within, -⟩ := List.getElem?_eq_some_iff.mp inside
  rw [h row (List.mem_of_getElem? found)] at within
  have under : r.columns[p.column]? = some r.columns[p.column] := List.getElem?_eq_getElem within
  refine ⟨_, under, Place.item?_eq_some_iff.mpr ⟨r.columns.zipWith pairChars row, ?_, ?_⟩⟩
  · rw [parts, List.getElem?_map, found, Option.map_some]
  · rw [List.getElem?_zipWith, under, inside]
    rfl

/-- A sign that does not separate parts stands in a joined text as often as in its parts. -/
theorem count_intercalate {separator : List Char} (none : c ∉ separator)
    (parts : List (List Char)) :
    (separator.intercalate parts).count c = (parts.map (List.count c)).sum := by
  induction parts with
  | nil => rfl
  | cons part parts ih =>
    cases parts with
    | nil => simp
    | cons next parts =>
      simp only [List.intercalate_cons_cons, List.count_append, ih,
        List.count_eq_zero_of_not_mem none, List.map_cons, List.sum_cons, Nat.add_zero]

theorem sum_zipWith_pairChars (width : row.length = columns.length) :
    ((columns.zipWith pairChars row).map (List.count c)).sum
      = (columns.map fun column => column.label.toList.count c).sum
        + (row.map fun cell => cell.chars.count c).sum + if c = '=' then row.length else 0 := by
  induction columns generalizing row with
  | nil => simp_all
  | cons column columns ih =>
    cases row with
    | nil => cases width
    | cons cell row =>
      have others := ih (Nat.succ.inj width)
      simp only [List.zipWith_cons_cons, List.map_cons, List.sum_cons, others, pairChars,
        List.count_append, List.count_cons, List.length_cons, beq_iff_eq, eq_comm (a := '=')]
      split <;> omega

/-- How often a sign stands in a line, if it is not one of those between two parts. -/
theorem count_rowChars (width : row.length = columns.length) (none : c ∉ [';', ' ']) :
    (rowChars columns row).count c
      = (columns.map fun column => column.label.toList.count c).sum
        + (row.map fun cell => cell.chars.count c).sum + if c = '=' then row.length else 0 := by
  rw [rowChars, count_intercalate none, sum_zipWith_pairChars width]

/-- Beyond the labels and the texts of values there is one equals sign for each value and one line
feed for each row. -/
theorem count_canonicalChars (h : r.IsRectangular) (none : c ∉ [';', ' ']) :
    r.canonicalChars.count c = r.countInside c
      + (if c = '=' then r.rows.flatten.length else 0) + if c = '\n' then r.rowCount else 0 := by
  obtain ⟨columns, rows⟩ := r
  simp only [canonicalChars, countInside, rowCount]
  induction rows with
  | nil => simp
  | cons row rows ih =>
    obtain ⟨width, others⟩ := List.forall_mem_cons.mp h
    have ih := ih others
    simp only [List.flatMap_cons, List.count_append, List.count_singleton, ih,
      count_rowChars width none, List.flatten_cons, List.length_append, List.length_cons,
      List.map_cons, List.sum_cons, Nat.succ_mul, beq_iff_eq, eq_comm (a := '\n')]
    split <;> split <;> omega

end Results

namespace Server.Native

/-! ## Labels of the latest description -/

/-- The labels of the latest description after a message. -/
def Event.labelsAfter (labels? : Option (List String)) : Event → Option (List String)
  | .description labels => some labels
  | _ => labels?

/-- That a message which is a row has the labels of the latest description and their width. -/
def Event.FollowsDescription (labels? : Option (List String)) : Event → Prop
  | .row labels values => labels? = some labels ∧ values.length = labels.length
  | _ => True

/-- That every row among some messages has the labels of the latest description before it and their
width, given the labels of the latest description before them all. -/
def Described : Option (List String) → List Event → Prop
  | _, [] => True
  | labels?, e :: es => e.FollowsDescription labels? ∧ Described (e.labelsAfter labels?) es

/-- The client hands on no other rows. -/
theorem described_of_receive {labels? : Option (List String)} {ms : List Message}
    {es : List Event} (received : receive labels? ms = .ok es) : Described labels? es := by
  induction ms generalizing labels? es with
  | nil =>
    cases received
    trivial
  | cons m ms ih =>
    cases m with
    | description | complete | emptyQuery =>
      rw [receive] at received
      obtain ⟨others, rest, h⟩ := bind_eq_ok received
      cases h
      exact ⟨trivial, ih rest⟩
    | row values =>
      cases labels? with
      | none => cases received
      | some labels =>
        rw [receive] at received
        split at received
        · cases received
        · next fits =>
          obtain ⟨others, rest, h⟩ := bind_eq_ok received
          cases h
          exact ⟨⟨rfl, Decidable.of_not_not fits⟩, ih rest⟩
    | notice report =>
      rw [receive] at received
      split at received
      · cases received
      · obtain ⟨others, rest, h⟩ := bind_eq_ok received
        cases h
        exact ⟨trivial, ih rest⟩
    | error | unexpected | close => cases received

/-! ## What is kept fits -/

/-- What is kept, given the labels of the latest description: nothing, or its columns with rows of
their width. -/
inductive Fits : Option (List String) → Collected → Prop
  | cleared (labels? : Option (List String)) (described : Bool) : Fits labels? ⟨[], [], described⟩
  | under {labels : List String} {rows : List (List Cell)} (described : Bool)
      (width : ∀ row ∈ rows, row.length = labels.length) :
    Fits (some labels) ⟨labels.map textColumn, rows, described⟩

variable {labels? : Option (List String)} {kept next : Collected}

theorem Fits.length_eq (fits : Fits labels? kept) :
    ∀ row ∈ kept.rows, row.length = kept.columns.length := by
  cases fits with
  | cleared => exact List.forall_mem_nil _
  | under described width => simpa using width

theorem length_of_row_eq_ok {index : Nat} {values : List RawValue} {cells : List Cell}
    (read : row index values = .ok cells) : cells.length = values.length := by
  induction values generalizing index cells with
  | nil =>
    cases read
    rfl
  | cons value values ih =>
    rw [row] at read
    obtain ⟨c, -, read⟩ := bind_eq_ok read
    obtain ⟨cs, others, read⟩ := bind_eq_ok read
    cases read
    exact congrArg (· + 1) (ih others)

/-- What is kept still fits after one more message. -/
theorem Fits.step {e : Event} (fits : Fits labels? kept) (follows : e.FollowsDescription labels?)
    (stepped : step kept e = .ok next) : Fits (e.labelsAfter labels?) next := by
  cases e with
  | description labels =>
    cases stepped
    exact .under true (List.forall_mem_nil _)
  | complete =>
    rw [Native.step] at stepped
    split at stepped
    · cases stepped
      cases fits with
      | cleared => exact .cleared labels? false
      | under described width => exact .under false width
    · cases stepped
      exact .cleared labels? false
  | ignored =>
    cases stepped
    exact fits
  | row labels values =>
    obtain ⟨rfl, width⟩ := follows
    rw [Native.step] at stepped
    obtain ⟨cells, read, stepped⟩ := bind_eq_ok stepped
    have length : cells.length = labels.length := (length_of_row_eq_ok read).trans width
    cases stepped
    -- Whether or not the columns were dropped before, they are now those of the description.
    cases fits with
    | cleared => exact .under true (by simpa using length)
    | @under labels rows described others =>
      have columns : (if (labels.map textColumn).isEmpty then labels.map textColumn
          else labels.map textColumn) = labels.map textColumn := ite_self _
      dsimp only
      rw [columns]
      refine .under true fun row mem => ?_
      rcases List.mem_append.mp mem with mem | mem
      · exact others row mem
      · rw [List.mem_singleton.mp mem, length]

/-- What is kept fits after any number of messages. -/
theorem Fits.run {es : List Event} (fits : Fits labels? kept) (described : Described labels? es)
    (ran : es.foldlM Native.step kept = .ok next) : ∃ labels?, Fits labels? next := by
  induction es generalizing labels? kept with
  | nil =>
    cases ran
    exact ⟨labels?, fits⟩
  | cons e es ih =>
    obtain ⟨middle, stepped, ran⟩ := bind_eq_ok ran
    exact ih (fits.step described.1 stepped) described.2 ran

theorem Described.of_append {before after : List Event}
    (described : Described labels? (before ++ after)) : Described labels? before := by
  induction before generalizing labels? with
  | nil => trivial
  | cons e before ih => exact ⟨described.1, ih described.2⟩

/-- A collection of values that are texts does not break down. -/
theorem exists_results_eq_ok {es : List Event}
    (sound : ∀ values ∈ es.filterMap (·.values?), ∀ value ∈ values, ¬ IsMangled value) :
    ∃ made, results es = .ok made := by
  cases ran : results es with
  | ok made => exact ⟨made, rfl⟩
  | error failure =>
    obtain ⟨column, ⟨before, values, after, place, -, mangled⟩, -⟩ := results_eq_error_iff.mp ran
    obtain ⟨⟨value, found, broken⟩, -⟩ := mangled
    have sent : values ∈ es.filterMap (·.values?) := by simp [place]
    exact absurd broken (sound values sent value (List.mem_of_getElem? found))

/-- After each of the messages that come in, in whichever order, all rows that are kept are as wide
as the columns. So the result is, and its text has a part for every value and no others, one equals
sign for each value and one line feed for each row, beyond those inside labels and values. -/
theorem rows_fit_columns {events : List Event} (described : Described none events) :
    (∀ before kept, before <+: events → before.foldlM step ⟨[], [], false⟩ = .ok kept →
      ∀ row ∈ kept.rows, row.length = kept.columns.length) ∧
    ((∀ values ∈ events.filterMap (·.values?), ∀ value ∈ values, ¬ IsMangled value) →
      ∃ made, results events = .ok made) ∧
    (∀ script sql, receive none (script.reply sql).messages = .ok events →
      (Mode.native.execute script sql).outcome = results events) ∧
    ∀ made, results events = .ok made →
      made.IsRectangular ∧ made.rowCount = made.rows.length ∧
      (∃ parts,
        made.canonicalChars = parts.flatMap (fun line => [';', ' '].intercalate line ++ ['\n']) ∧
        parts.map List.length = made.rows.map List.length ∧
        ∀ p cell, Place.item? p made.rows = some cell →
          ∃ column, made.columns[p.column]? = some column ∧
            p.item? parts = some (column.label.toList ++ '=' :: cell.chars)) ∧
      made.canonicalChars.count '=' = made.rows.flatten.length + made.countInside '=' ∧
      made.canonicalChars.count '\n' = made.rowCount + made.countInside '\n' := by
  have start : Fits none ⟨[], [], false⟩ := .cleared none false
  refine ⟨fun before kept front ran => ?_, exists_results_eq_ok,
    fun script sql received => outcome_execute received, fun made ran => ?_⟩
  · obtain ⟨after, rfl⟩ := front
    obtain ⟨labels?, fits⟩ := start.run described.of_append ran
    exact fits.length_eq
  · obtain ⟨kept, collected, ran⟩ := bind_eq_ok ran
    obtain ⟨labels?, fits⟩ := start.run described collected
    have rectangular : made.IsRectangular := by
      cases ran
      exact fits.length_eq
    have signs := Results.count_canonicalChars (c := '=') rectangular (by decide)
    have feeds := Results.count_canonicalChars (c := '\n') rectangular (by decide)
    refine ⟨rectangular, rfl, ⟨made.parts, made.canonicalChars_eq_parts,
      Results.length_parts rectangular, fun p cell => Results.item?_parts rectangular⟩, ?_, ?_⟩
    · simpa [Nat.add_comm] using signs
    · simpa [Nat.add_comm] using feeds

/-- Messages of which the second completion drops columns and rows, and the rows behind it have no
description of their own. -/
def disorderedEvents : List Event :=
  let labels := ["x", "y="]
  [.description labels, .row labels [some [0x31], none], .complete, .complete,
    .row labels [none, some [0x0a]], .ignored, .row labels [some [0x32], some []]]

theorem rows_fit_columns_of_disorderedEvents :
    let made : Results :=
      ⟨[⟨"x", .text⟩, ⟨"y=", .text⟩], [[.null, .text "\n"], [.text "2", .text ""]]⟩
    Described none disorderedEvents ∧ results disorderedEvents = .ok made ∧
      made.IsRectangular ∧ made.canonicalChars.count '=' = 4 + 2 ∧
      made.canonicalChars.count '\n' = 2 + 1 := by
  intro made
  have described : Described none disorderedEvents := by
    simp [disorderedEvents, Described, Event.FollowsDescription, Event.labelsAfter]
  have ran : results disorderedEvents = .ok made := rfl
  obtain ⟨-, -, -, shown⟩ := rows_fit_columns described
  obtain ⟨rectangular, -, -, signs, feeds⟩ := shown made ran
  exact ⟨described, ran, rectangular, signs, feeds⟩

end Server.Native

end RowCheck
