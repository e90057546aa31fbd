import RowCheck.Proofs.Text.Digits
import RowCheck.Results

/-!
# Texts of nested arrays

Cells that hold no free text: `NULL`, integers, truth values, and arrays of such cells to any depth.
Their texts need no quotes. The text of such a cell shows by itself where it ends, unless it is a
number, which ends in front of the first sign that is no digit; and in an array only a comma or a
brace follows a cell. Main statement: two such cells have the same text only if they are equal, and
two tables of such cells have the same canonical text only if they have the same rows.
-/

namespace RowCheck

/-- Cells without free text: `NULL`, integers, truth values, and arrays of such cells. -/
inductive Cell.IsNested : Cell → Prop
  | null : IsNested .null
  | int (i : Int64) : IsNested (.int i)
  | bool (b : Bool) : IsNested (.bool b)
  | array {items : List Cell} (nested : ∀ item ∈ items, IsNested item) : IsNested (.array items)

namespace Cell

open Text (EndsNumber)

variable {a b : Cell} {r s : List Char}

/-! ## The first sign -/

/-- The sign with which the text of a cell begins, a zero for every number. -/
def lead : Cell → Char
  | .null => 'N'
  | .int _ => '0'
  | .bool true => 't'
  | .bool false => 'f'
  | .array _ => '\x7b'
  | _ => ' '

/-- The sign with which a text begins, a zero for every number. -/
def leadOf (c : Char) : Char := if c = '-' ∨ Text.isDigit c = true then '0' else c

theorem exists_chars_eq_cons (ha : a.IsNested) :
    ∃ c rest, a.chars = c :: rest ∧ leadOf c = a.lead := by
  cases ha with
  | null => exact ⟨'N', "ULL".toList, rfl, rfl⟩
  | int i =>
    obtain ⟨c, rest, text, -, digit⟩ := Text.exists_intChars_eq_cons i.toInt
    refine ⟨c, rest, text, if_pos ?_⟩
    by_cases sign : c = '-'
    · exact .inl sign
    · exact .inr (digit sign)
  | bool p =>
    cases p with
    | true => exact ⟨'t', "rue".toList, rfl, rfl⟩
    | false => exact ⟨'f', "alse".toList, rfl, rfl⟩
  | array nested =>
    rename_i items
    cases items with
    | nil => exact ⟨'\x7b', ['\x7d'], rfl, rfl⟩
    | cons v vs => exact ⟨'\x7b', v.chars ++ itemChars vs, rfl, rfl⟩

/-- The kind of a cell shows in front of its text. -/
theorem lead_eq (ha : a.IsNested) (hb : b.IsNested) (same : a.chars ++ r = b.chars ++ s) :
    a.lead = b.lead := by
  obtain ⟨c, rest, text, lead⟩ := exists_chars_eq_cons ha
  obtain ⟨c', rest', text', lead'⟩ := exists_chars_eq_cons hb
  rw [text, text', List.cons_append, List.cons_append] at same
  rw [← lead, ← lead', (List.cons.inj same).1]

/-- No cell begins with a closing brace. -/
theorem chars_append_ne (ha : a.IsNested) : a.chars ++ r ≠ '\x7d' :: s := by
  intro same
  obtain ⟨c, rest, text, lead⟩ := exists_chars_eq_cons ha
  rw [text, List.cons_append] at same
  rw [(List.cons.inj same).1] at lead
  cases ha with
  | bool p => cases p <;> exact absurd lead (by decide)
  | null | int | array => exact absurd lead.symm (by simp [Cell.lead, leadOf, Text.isDigit])

/-! ## The end of a text -/

theorem chars_array_nil_append (r : List Char) :
    (Cell.array []).chars ++ r = '\x7b' :: '\x7d' :: r := rfl

theorem chars_array_cons_append (v : Cell) (vs : List Cell) (r : List Char) :
    (Cell.array (v :: vs)).chars ++ r = '\x7b' :: (v.chars ++ (itemChars vs ++ r)) := by
  rw [← List.append_assoc]
  rfl

theorem itemChars_cons_append (v : Cell) (vs : List Cell) (r : List Char) :
    itemChars (v :: vs) ++ r = ',' :: (v.chars ++ (itemChars vs ++ r)) := by
  rw [← List.append_assoc]
  rfl

/-- That a cell is told from what follows it, unless a number would go on there. -/
def IsTold (a : Cell) : Prop :=
  ∀ {b : Cell} {r s : List Char}, b.IsNested → EndsNumber r → EndsNumber s →
    a.chars ++ r = b.chars ++ s → a = b ∧ r = s

/-- A cell of an array is followed by a comma or by the closing brace. -/
theorem endsNumber_itemChars (items : List Cell) (r : List Char) :
    EndsNumber (itemChars items ++ r) := by
  cases items with
  | nil => exact Text.endsNumber_cons (by decide) r
  | cons v vs => exact Text.endsNumber_cons (by decide) (v.chars ++ itemChars vs ++ r)

/-- The items behind the first one are told from what follows the array. -/
theorem itemChars_append_inj {vs ws : List Cell} (told : ∀ v ∈ vs, v.IsTold)
    (nested : ∀ w ∈ ws, w.IsNested) (same : itemChars vs ++ r = itemChars ws ++ s) :
    vs = ws ∧ r = s := by
  induction vs generalizing ws with
  | nil =>
    cases ws with
    | nil => exact ⟨rfl, (List.cons.inj same).2⟩
    | cons w ws => exact absurd (List.cons.inj same).1 (by decide)
  | cons v vs ih =>
    cases ws with
    | nil => exact absurd (List.cons.inj same).1 (by decide)
    | cons w ws =>
      obtain ⟨first, later⟩ := List.forall_mem_cons.mp told
      obtain ⟨first', later'⟩ := List.forall_mem_cons.mp nested
      rw [itemChars_cons_append, itemChars_cons_append] at same
      obtain ⟨rfl, others⟩ := first first' (endsNumber_itemChars vs r)
        (endsNumber_itemChars ws s) (List.cons.inj same).2
      obtain ⟨rfl, rest⟩ := ih later later' others
      exact ⟨rfl, rest⟩

theorem isTold_array {items : List Cell} (nested : ∀ item ∈ items, item.IsNested)
    (told : ∀ item ∈ items, item.IsTold) : (Cell.array items).IsTold := by
  intro b r s hb _ _ same
  have kind := lead_eq (.array nested) hb same
  cases hb with
  | null | int => exact absurd kind (by simp [lead])
  | bool p => exact absurd kind (by cases p <;> simp [lead])
  | array nested' =>
    rename_i items'
    -- An empty array is told from the others by the sign behind the opening brace.
    cases items with
    | nil =>
      cases items' with
      | nil => exact ⟨rfl, List.append_cancel_left same⟩
      | cons w ws =>
        rw [chars_array_nil_append, chars_array_cons_append] at same
        exact absurd (List.cons.inj same).2.symm (chars_append_ne (nested' w List.mem_cons_self))
    | cons v vs =>
      cases items' with
      | nil =>
        rw [chars_array_nil_append, chars_array_cons_append] at same
        exact absurd (List.cons.inj same).2 (chars_append_ne (nested v List.mem_cons_self))
      | cons w ws =>
        -- Behind a comma, the items of both arrays would be the same texts.
        have texts : itemChars (v :: vs) ++ r = itemChars (w :: ws) ++ s := by
          rw [chars_array_cons_append, chars_array_cons_append] at same
          rw [itemChars_cons_append, itemChars_cons_append, (List.cons.inj same).2]
        obtain ⟨equal, rest⟩ := itemChars_append_inj told nested' texts
        exact ⟨congrArg Cell.array equal, rest⟩

/-- A cell is told from what follows it, at every depth. -/
theorem IsNested.isTold (ha : a.IsNested) : a.IsTold := by
  induction ha with
  | null =>
    intro b r s hb _ _ same
    have kind := lead_eq .null hb same
    cases hb with
    | null => exact ⟨rfl, List.append_cancel_left same⟩
    | bool p => exact absurd kind (by cases p <;> simp [lead])
    | int | array => exact absurd kind (by simp [lead])
  | int i =>
    intro b r s hb hr hs same
    have kind := lead_eq (.int i) hb same
    cases hb with
    | int j =>
      obtain ⟨number, rest⟩ := Text.intChars_append_inj hr hs same
      exact ⟨congrArg Cell.int (Int64.toInt.inj number), rest⟩
    | bool p => exact absurd kind (by cases p <;> simp [lead])
    | null | array => exact absurd kind (by simp [lead])
  | bool p =>
    intro b r s hb _ _ same
    have kind := lead_eq (.bool p) hb same
    cases hb with
    | bool q =>
      obtain rfl : p = q := by
        revert kind
        cases p <;> cases q <;> decide
      exact ⟨rfl, List.append_cancel_left same⟩
    | null | int | array => exact absurd kind (by cases p <;> simp [lead])
  | array nested ih => exact isTold_array nested ih

theorem chars_inj (ha : a.IsNested) (hb : b.IsNested) : a.chars = b.chars ↔ a = b := by
  constructor
  · intro same
    have whole : a.chars ++ [] = b.chars ++ [] := by rw [same]
    have nothing : EndsNumber [] := by simp [EndsNumber]
    exact (ha.isTold hb nothing nothing whole).1
  · rintro rfl
    rfl

end Cell

namespace Results

open Cell (IsNested)

variable {columns : List Column} {rows rows' : List (List Cell)} {row row' : List Cell}
  {r s : List Char}

/-- That a row has a value without free text for every column. -/
structure IsNestedRow (columns : List Column) (row : List Cell) : Prop where
  length_eq : row.length = columns.length
  nested : ∀ cell ∈ row, cell.IsNested

theorem isNestedRow_cons_iff {column : Column} :
    IsNestedRow (column :: columns) row ↔
      ∃ v vs, row = v :: vs ∧ v.IsNested ∧ IsNestedRow columns vs := by
  constructor
  · intro h
    cases row with
    | nil => exact absurd h.length_eq (by simp)
    | cons v vs =>
      obtain ⟨first, later⟩ := List.forall_mem_cons.mp h.nested
      exact ⟨v, vs, rfl, first, ⟨Nat.succ.inj h.length_eq, later⟩⟩
  · rintro ⟨v, vs, rfl, first, later⟩
    exact ⟨congrArg Nat.succ later.length_eq, List.forall_mem_cons.mpr ⟨first, later.nested⟩⟩

theorem isNestedRow_nil_iff : IsNestedRow [] row ↔ row = [] := by
  constructor
  · intro h
    exact List.length_eq_zero_iff.mp h.length_eq
  · rintro rfl
    exact ⟨rfl, by simp⟩

/-- What stands in a line behind the value of the first column. -/
def lineEnd (columns : List Column) (row : List Cell) : List Char :=
  if columns.isEmpty then ['\n'] else ';' :: ' ' :: (rowChars columns row ++ ['\n'])

theorem rowChars_cons (column : Column) (v : Cell) {vs : List Cell} (h : IsNestedRow columns vs) :
    rowChars (column :: columns) (v :: vs) ++ '\n' :: r
      = column.label.toList ++ '=' :: (v.chars ++ (lineEnd columns vs ++ r)) := by
  cases columns with
  | nil =>
    obtain rfl := isNestedRow_nil_iff.mp h
    simp [rowChars, pairChars, lineEnd]
  | cons next columns =>
    obtain ⟨w, ws, rfl, -, -⟩ := isNestedRow_cons_iff.mp h
    simp [rowChars, pairChars, lineEnd, List.intercalate_cons_cons]

theorem endsNumber_lineEnd (columns : List Column) (row : List Cell) (r : List Char) :
    Text.EndsNumber (lineEnd columns row ++ r) := by
  rw [lineEnd]
  split
  · exact Text.endsNumber_cons (by decide) r
  · exact Text.endsNumber_cons (by decide) _

/-- A line is told from the lines behind it. -/
theorem rowChars_append_inj (h : IsNestedRow columns row) (h' : IsNestedRow columns row')
    (same : rowChars columns row ++ '\n' :: r = rowChars columns row' ++ '\n' :: s) :
    row = row' ∧ r = s := by
  induction columns generalizing row row' with
  | nil =>
    obtain rfl := isNestedRow_nil_iff.mp h
    obtain rfl := isNestedRow_nil_iff.mp h'
    exact ⟨rfl, (List.cons.inj same).2⟩
  | cons column columns ih =>
    obtain ⟨v, vs, rfl, first, later⟩ := isNestedRow_cons_iff.mp h
    obtain ⟨w, ws, rfl, first', later'⟩ := isNestedRow_cons_iff.mp h'
    rw [rowChars_cons column v later, rowChars_cons column w later'] at same
    have values := (List.cons.inj (List.append_cancel_left same)).2
    obtain ⟨rfl, others⟩ := first.isTold first' (endsNumber_lineEnd columns vs r)
      (endsNumber_lineEnd columns ws s) values
    have lines : rowChars columns vs ++ '\n' :: r = rowChars columns ws ++ '\n' :: s := by
      cases columns with
      | nil =>
        obtain rfl := isNestedRow_nil_iff.mp later
        obtain rfl := isNestedRow_nil_iff.mp later'
        exact others
      | cons next columns => simpa [lineEnd] using others
    obtain ⟨rfl, rest⟩ := ih later later' lines
    exact ⟨rfl, rest⟩

theorem canonicalChars_inj (h : ∀ row ∈ rows, IsNestedRow columns row)
    (h' : ∀ row ∈ rows', IsNestedRow columns row) :
    canonicalChars ⟨columns, rows⟩ = canonicalChars ⟨columns, rows'⟩ ↔ rows = rows' := by
  constructor
  · intro same
    induction rows generalizing rows' with
    | nil =>
      cases rows' with
      | nil => rfl
      | cons row' rows' => simp [canonicalChars] at same
    | cons row rows ih =>
      cases rows' with
      | nil => simp [canonicalChars] at same
      | cons row' rows' =>
        obtain ⟨first, later⟩ := List.forall_mem_cons.mp h
        obtain ⟨first', later'⟩ := List.forall_mem_cons.mp h'
        have lines : rowChars columns row ++ '\n' :: canonicalChars ⟨columns, rows⟩
            = rowChars columns row' ++ '\n' :: canonicalChars ⟨columns, rows'⟩ := by
          simpa [canonicalChars] using same
        obtain ⟨rfl, rest⟩ := rowChars_append_inj first first' lines
        rw [ih later later' rest]
  · rintro rfl
    rfl

/-- Nested arrays without free text are shown unambiguously: two such cells have the same text if
and only if they are equal, and under the same columns two tables of such cells have the same
canonical text if and only if they have the same rows. -/
theorem nested_text_inj :
    (∀ a b : Cell, a.IsNested → b.IsNested → (a.display = b.display ↔ a = b)) ∧
    ∀ (columns : List Column) (rows rows' : List (List Cell)),
      (∀ row ∈ rows, IsNestedRow columns row) → (∀ row ∈ rows', IsNestedRow columns row) →
      (canonical ⟨columns, rows⟩ = canonical ⟨columns, rows'⟩ ↔ rows = rows') := by
  refine ⟨?_, ?_⟩
  · intro a b ha hb
    rw [Cell.display, Cell.display, String.ofList_inj]
    exact Cell.chars_inj ha hb
  · intro columns rows rows' h h'
    rw [canonical, canonical, String.ofList_inj]
    exact canonicalChars_inj h h'

/-- An array with a `NULL` and a number in its second item. -/
def pairedArray : Cell := .array [.array [], .array [.null, .int (-1)]]

/-- The same values, with the number behind the second item. -/
def tailedArray : Cell := .array [.array [], .array [.null], .int (-1)]

theorem isNested_pairedArray : pairedArray.IsNested := by
  refine .array ?_
  simp only [List.mem_cons, List.not_mem_nil, or_false]
  rintro item (rfl | rfl)
  · exact .array (by simp)
  · exact .array (by simp [Cell.IsNested.null, Cell.IsNested.int])

theorem isNested_tailedArray : tailedArray.IsNested := by
  refine .array ?_
  simp only [List.mem_cons, List.not_mem_nil, or_false]
  rintro item (rfl | rfl | rfl)
  · exact .array (by simp)
  · exact .array (by simp [Cell.IsNested.null])
  · exact .int (-1)

theorem texts_of_pairedArray_and_tailedArray :
    pairedArray.IsNested ∧ tailedArray.IsNested ∧
      pairedArray.display = "\x7b\x7b\x7d,\x7bNULL,-1\x7d\x7d" ∧
      pairedArray.display ≠ tailedArray.display ∧
      IsNestedRow [⟨"a", .text⟩] [pairedArray] ∧ IsNestedRow [⟨"a", .text⟩] [tailedArray] ∧
      canonical ⟨[⟨"a", .text⟩], [[pairedArray]]⟩
        ≠ canonical ⟨[⟨"a", .text⟩], [[tailedArray]]⟩ := by
  have different : pairedArray ≠ tailedArray := by simp [pairedArray, tailedArray]
  have row {cell : Cell} (nested : cell.IsNested) : IsNestedRow [⟨"a", .text⟩] [cell] :=
    ⟨rfl, by simpa using nested⟩
  obtain ⟨cells, tables⟩ := nested_text_inj
  have paired := row isNested_pairedArray
  have tailed := row isNested_tailedArray
  refine ⟨isNested_pairedArray, isNested_tailedArray, by decide +kernel, ?_, paired, tailed, ?_⟩
  · intro same
    exact different ((cells _ _ isNested_pairedArray isNested_tailedArray).mp same)
  · intro same
    have rows := (tables _ [[pairedArray]] [[tailedArray]] (by simpa using paired)
      (by simpa using tailed)).mp same
    exact different (by simpa using rows)

end Results

end RowCheck
