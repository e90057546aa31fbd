import RowCheck.Proofs.Wire.NumericReading
import RowCheck.Proofs.Wire.Truncated

/-!
# The shape of decimal numbers

The text of whatever is taken for a finite decimal number, also of a value that no server sends:
groups above 9999, more or fewer groups than the weight and the scale ask for, a weight far from
them, any sign word. Main statement: the loop behind the point stops in time, the indices that it
looks up stay in the range of 32-bit integers, and the text has exactly the decimal places that the
value asks for.
-/

namespace RowCheck.Wire.Numeric

open Fraction (StopsAfter exists_stopsAfter next_iterate_push)

/-- The texts of decimal numbers with so many decimal places: a sign if there is one, one digit or
more, and a point with the places behind it if there are any. -/
def IsDecimal (scale : Nat) (text : List Char) : Prop :=
  ∃ sign whole places : List Char,
    text = sign ++ whole ++ (if 0 < scale then '.' :: places else []) ∧
    (sign = [] ∨ sign = ['-']) ∧ whole ≠ [] ∧
    (∀ c ∈ whole ++ places, Text.isDigit c = true) ∧ places.length = scale

theorem IsDecimal.point_mem_iff {scale : Nat} {text : List Char} (h : IsDecimal scale text) :
    '.' ∈ text ↔ 0 < scale := by
  obtain ⟨sign, whole, places, rfl, sign_cases, -, digits, -⟩ := h
  have front : '.' ∉ sign ++ whole := by
    intro mem
    rcases List.mem_append.mp mem with mem | mem
    · rcases sign_cases with rfl | rfl <;> simp at mem
    · exact absurd (digits '.' (List.mem_append_left places mem)) (by decide)
  by_cases some : 0 < scale
  · simp [some]
  · simp only [some, if_false, List.append_nil, iff_false]
    exact front

theorem isDecimal_chars (negative : Bool) (groups : List Nat) (weight : Int16) (scale : Nat) :
    IsDecimal scale (chars (.finite negative groups weight scale)) := by
  refine ⟨if negative then ['-'] else [], wholeChars groups weight.toInt,
    fractionChars groups weight.toInt scale, ?_, ?_, wholeChars_ne_nil _ _, ?_,
    length_fractionChars _ _ _⟩
  · rw [chars]
    cases scale with
    | zero => rfl
    | succ scale => rfl
  · cases negative with
    | false => exact .inl rfl
    | true => exact .inr rfl
  · rw [List.forall_mem_append]
    exact ⟨isDigit_of_mem_wholeChars _ _, isDigit_of_mem_fractionChars _ _ _⟩

/-! ## Values of any bytes -/

/-- The place of the first group. -/
def weightOf (raw : List UInt8) : Int16 := .ofNat (fieldOf 2 2 raw)

/-- The decimal places that are shown. -/
def scaleOf (raw : List UInt8) : Nat := fieldOf 2 6 raw

/-- The loop behind the point, before its first round. -/
def startOf (raw : List UInt8) : Fraction := .start (weightOf raw).toInt

theorem scaleOf_lt (raw : List UInt8) : scaleOf raw < 65536 := fieldOf_lt 2 6 raw

/-- The loop of any value stops after a group for every four places that are shown, and perhaps one
more. -/
theorem exists_rounds_le (raw : List UInt8) :
    ∃ rounds ≤ scaleOf raw / 4 + 1,
      StopsAfter (groupsOf raw) (scaleOf raw) (startOf raw) rounds := by
  obtain ⟨rounds, stops⟩ := exists_stopsAfter (groupsOf raw) (scaleOf raw) (startOf raw)
  exact ⟨rounds, stops.le_of_enough (Fraction.enough_of_start _ _), stops⟩

/-- The index after any round is a 32-bit integer. -/
theorem next_inRange {raw : List UInt8} {k : Nat} (few : k ≤ scaleOf raw / 4 + 1) :
    -2 ^ 31 ≤ ((Fraction.push (groupsOf raw))^[k] (startOf raw)).next ∧
      ((Fraction.push (groupsOf raw))^[k] (startOf raw)).next < 2 ^ 31 := by
  have low := (weightOf raw).le_toInt
  have high := (weightOf raw).toInt_lt
  have scale := scaleOf_lt raw
  rw [next_iterate_push, startOf, Fraction.next_start]
  constructor <;> omega

theorem ofFront_of_finite {raw : List UInt8} (finite : fieldOf 2 4 raw ∉ specialSigns) :
    ofFront raw
      = .finite (fieldOf 2 4 raw == 0x4000) (groupsOf raw) (weightOf raw) (scaleOf raw) := by
  rw [mem_specialSigns_iff, not_or, not_or] at finite
  obtain ⟨nan, positive, negative⟩ := finite
  rw [ofFront, if_neg nan, if_neg positive, if_neg negative]
  rfl

/-- Every value that is accepted as a finite number gets a text of the right shape. For any sign
word, weight and scale, and for any groups, the loop that collects the digits behind the point stops
after a quarter of the scale and one round at most, at an index that is always a 32-bit integer. The
text made with these digits is one of a decimal number with exactly the places that the scale asks
for, and without a point if there are none. -/
theorem isDecimal_of_accepted {raw : List UInt8} {cell : Cell}
    (accepted : reader .numeric raw = .ok cell) (finite : fieldOf 2 4 raw ∉ specialSigns) :
    (∃ rounds ≤ scaleOf raw / 4 + 1,
      StopsAfter (groupsOf raw) (scaleOf raw) (startOf raw) rounds ∧
      ∀ k ≤ rounds,
        -2 ^ 31 ≤ ((Fraction.push (groupsOf raw))^[k] (startOf raw)).next ∧
        ((Fraction.push (groupsOf raw))^[k] (startOf raw)).next < 2 ^ 31) ∧
    ∃ text, cell = .text (String.ofList text) ∧
      text = chars (.finite (fieldOf 2 4 raw == 0x4000) (groupsOf raw) (weightOf raw)
        (scaleOf raw)) ∧
      IsDecimal (scaleOf raw) text ∧ ('.' ∈ text ↔ 0 < scaleOf raw) := by
  constructor
  · obtain ⟨rounds, few, stops⟩ := exists_rounds_le raw
    refine ⟨rounds, few, stops, ?_⟩
    intro k le
    exact next_inRange (Nat.le_trans le few)
  · have fits : size raw ≤ raw.length := by
      apply Nat.le_of_not_lt
      intro short
      have refused := (reader_eq_tooShort_iff .numeric raw).mpr short
      rw [Fielded.type, accepted, tooShort] at refused
      cases refused
    have shape := isDecimal_chars (fieldOf 2 4 raw == 0x4000) (groupsOf raw) (weightOf raw)
      (scaleOf raw)
    refine ⟨_, ?_, rfl, shape, shape.point_mem_iff⟩
    have read : numeric raw = .ok cell := accepted
    rw [numeric, read?_of_fits fits, ofFront_of_finite finite] at read
    exact (Except.ok.inj read).symm

/-- A value with a sign word that means nothing, two groups that print five digits, and a byte too
many. -/
def wideGroups : List UInt8 := [0, 3, 0, 0, 0, 1, 0, 6, 255, 255, 255, 255, 0, 1, 9]

theorem isDecimal_of_wideGroups :
    reader .numeric wideGroups = .ok (.text "65535.655350") ∧
      fieldOf 2 4 wideGroups ∉ specialSigns ∧ IsDecimal 6 "65535.655350".toList ∧
      ∃ rounds ≤ 2, StopsAfter [65535, 65535, 1] 6 (.start 0) rounds := by
  have finite : fieldOf 2 4 wideGroups ∉ specialSigns := by decide
  have printed : (read? wideGroups).map chars = some "65535.655350".toList := by decide +kernel
  have accepted : reader .numeric wideGroups = .ok (.text "65535.655350") := by
    show own .text ((read? wideGroups).map chars) = _
    rw [printed]
    rfl
  obtain ⟨⟨rounds, few, stops, -⟩, text, cell, -, shape, -⟩ :=
    isDecimal_of_accepted accepted finite
  have text_eq : text = "65535.655350".toList := by
    rw [← String.toList_ofList (l := text), ← Cell.text.inj cell]
  rw [text_eq] at shape
  exact ⟨accepted, finite, shape, rounds, few, stops⟩

end RowCheck.Wire.Numeric
