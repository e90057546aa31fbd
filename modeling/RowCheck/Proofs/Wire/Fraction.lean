import RowCheck.Proofs.Text.Digits
import RowCheck.Wire.Numeric
import Mathlib.Logic.Function.Iterate

/-!
# The digits behind the point

The loop that collects the digits behind the point of a decimal number, for any groups and any
index to start from. A round adds the digits of one group, which are four or more, and moves on by
one; from this follow the number of rounds, the indices that are looked up and the digits that are
left when the surplus is cut off.
-/

namespace RowCheck.Wire.Numeric

namespace Fraction

variable {groups : List Nat} {scale rounds : Nat} {f : Fraction}

/-! ## Rounds -/

theorem next_iterate_push (groups : List Nat) (f : Fraction) (k : Nat) :
    ((push groups)^[k] f).next = f.next + k := by
  induction k with
  | zero => exact (Int.add_zero _).symm
  | succ k ih =>
    rw [Function.iterate_succ_apply', next_push, ih]
    omega

theorem le_size_iterate_push (groups : List Nat) (f : Fraction) (k : Nat) :
    f.digits.size + 4 * k ≤ ((push groups)^[k] f).digits.size := by
  induction k with
  | zero => exact Nat.le_refl _
  | succ k ih =>
    rw [Function.iterate_succ_apply']
    have round := le_size_push groups ((push groups)^[k] f)
    omega

theorem toList_digits_iterate_push (groups : List Nat) (f : Fraction) (k : Nat) :
    ((push groups)^[k] f).digits.toList
      = f.digits.toList
        ++ (List.range k).flatMap fun i : Nat => Text.padded 4 (groupAt groups (f.next + i)) := by
  induction k with
  | zero => exact (List.append_nil _).symm
  | succ k ih =>
    rw [Function.iterate_succ_apply', toList_digits_push, ih, next_iterate_push, List.range_succ,
      List.flatMap_append, List.flatMap_singleton, List.append_assoc]

/-! ## The loop -/

/-- That the loop stops after so many rounds: digits are missing before each of them, and there are
enough at the end. -/
structure StopsAfter (groups : List Nat) (scale : Nat) (f : Fraction) (rounds : Nat) : Prop where
  fill_eq : f.fill groups scale = (push groups)^[rounds] f
  missing : ∀ k < rounds, ((push groups)^[k] f).digits.size < scale
  enough : scale ≤ ((push groups)^[rounds] f).digits.size

theorem exists_stopsAfter (groups : List Nat) (scale : Nat) (f : Fraction) :
    ∃ rounds, StopsAfter groups scale f rounds := by
  fun_induction fill groups scale f with
  | case1 f short ih =>
    obtain ⟨rounds, stops⟩ := ih
    refine ⟨rounds + 1, ?_, ?_, stops.enough⟩
    · rw [fill, if_pos short]
      exact stops.fill_eq
    · intro k less
      cases k with
      | zero => exact short
      | succ k => exact stops.missing k (Nat.lt_of_succ_lt_succ less)
  | case2 f long =>
    refine ⟨0, ?_, ?_, Nat.le_of_not_lt long⟩
    · rw [fill, if_neg long]
      rfl
    · intro k less
      exact absurd less (Nat.not_lt_zero k)

namespace StopsAfter

/-- The rounds are no more than the digits need. -/
theorem le_of_enough (stops : StopsAfter groups scale f rounds) {k : Nat}
    (enough : scale ≤ f.digits.size + 4 * k) : rounds ≤ k := by
  apply Nat.le_of_not_lt
  intro less
  have short := stops.missing k less
  have long := le_size_iterate_push groups f k
  omega

/-- More rounds change nothing of the digits that are left. -/
theorem take_eq (stops : StopsAfter groups scale f rounds) {k : Nat}
    (enough : scale ≤ f.digits.size + 4 * k) :
    (f.fill groups scale).digits.toList.take scale
      = ((push groups)^[k] f).digits.toList.take scale := by
  obtain ⟨more, rfl⟩ := Nat.exists_eq_add_of_le (stops.le_of_enough enough)
  rw [stops.fill_eq, Nat.add_comm, Function.iterate_add_apply, toList_digits_iterate_push _ _ more,
    List.take_append_of_le_length stops.enough]

end StopsAfter

/-- A group for every four digits, and one more, are enough from the start. -/
theorem enough_of_start (weight : Int) (scale : Nat) :
    scale ≤ (start weight).digits.size + 4 * (scale / 4 + 1) := by
  rw [size_digits_start]
  omega

end Fraction

/-- The digits behind the point, up to the end of the last group of which some are shown. -/
def fractionGroups (groups : List Nat) (weight : Int) (scale : Nat) : List Char :=
  (List.range (scale / 4 + 1)).flatMap fun i : Nat =>
    Text.padded 4 (groupAt groups (weight + 1 + i))

theorem isDigit_of_mem_fractionGroups {groups : List Nat} (weight : Int) (scale : Nat) :
    ∀ c ∈ fractionGroups groups weight scale, Text.isDigit c = true := by
  intro c mem
  obtain ⟨i, -, mem⟩ := List.mem_flatMap.mp mem
  exact Text.isDigit_of_mem_padded 4 _ c mem

/-- The digits that are shown do not depend on where the loop stops. -/
theorem fractionChars_eq (groups : List Nat) (weight : Int) (scale : Nat) :
    fractionChars groups weight scale = (fractionGroups groups weight scale).take scale := by
  obtain ⟨rounds, stops⟩ := Fraction.exists_stopsAfter groups scale (.start weight)
  rw [fractionChars, stops.take_eq (Fraction.enough_of_start weight scale),
    Fraction.toList_digits_iterate_push]
  rfl

theorem length_fractionChars (groups : List Nat) (weight : Int) (scale : Nat) :
    (fractionChars groups weight scale).length = scale := by
  obtain ⟨rounds, stops⟩ := Fraction.exists_stopsAfter groups scale (.start weight)
  apply List.length_take_of_le
  rw [stops.fill_eq]
  exact stops.enough

theorem isDigit_of_mem_fractionChars (groups : List Nat) (weight : Int) (scale : Nat) :
    ∀ c ∈ fractionChars groups weight scale, Text.isDigit c = true := by
  intro c mem
  rw [fractionChars_eq] at mem
  exact isDigit_of_mem_fractionGroups weight scale c (List.mem_of_mem_take mem)

end RowCheck.Wire.Numeric
