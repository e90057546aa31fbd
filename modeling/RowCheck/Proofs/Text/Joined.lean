import Mathlib.Data.List.Basic
import RowCheck.Text.Split

/-!
# Texts that are cut and joined

A text before a sign and what stands behind the sign, if it is there, make up one text; it is cut
at the first or at the last such sign in only one way. The parts into which a text is split at a
sign make it up again, and parts without the sign are what the text is split into.
-/

namespace RowCheck.Text

/-- A text, and what stands behind it and a sign. -/
def joined (c : Char) (a : List Char) (b? : Option (List Char)) : List Char :=
  a ++ b?.elim [] fun b => c :: b

variable {c : Char} {a a' : List Char} {b? b?' : Option (List Char)}

theorem cutFirst_joined (none : c ∉ a) (b? : Option (List Char)) :
    cutFirst c (joined c a b?) = b?.map fun b => (a, b) := by
  cases b? with
  | none =>
    rw [joined, Option.elim_none, List.append_nil, cutFirst_eq_none.mpr none, Option.map_none]
  | some b => rw [joined, Option.elim_some, cutFirst_append none, Option.map_some]

/-- Every text is cut at its first sign, if it has one. -/
theorem exists_joined (c : Char) (s : List Char) : ∃ a b?, s = joined c a b? ∧ c ∉ a := by
  cases cut : cutFirst c s with
  | none => exact ⟨s, none, (List.append_nil s).symm, cutFirst_eq_none.mp cut⟩
  | some parts =>
    obtain ⟨whole, none⟩ := cutFirst_eq_some cut
    exact ⟨parts.1, some parts.2, whole, none⟩

/-- A text that is made of two parts is made of no others that are cut apart in the same way. -/
theorem joined_inj_of_cut (cuts : b?.map (fun b => (a, b)) = b?'.map fun b => (a', b))
    (same : joined c a b? = joined c a' b?') : a = a' ∧ b? = b?' := by
  cases b? with
  | none =>
    obtain rfl := Option.map_eq_none_iff.mp cuts.symm
    exact ⟨by simpa [joined] using same, rfl⟩
  | some b =>
    obtain ⟨b', rfl, h⟩ := Option.map_eq_some_iff.mp cuts.symm
    cases h
    exact ⟨rfl, rfl⟩

/-- A text is cut at its first sign in one way. -/
theorem joined_inj (none : c ∉ a) (none' : c ∉ a') (same : joined c a b? = joined c a' b?') :
    a = a' ∧ b? = b?' := by
  refine joined_inj_of_cut ?_ same
  rw [← cutFirst_joined none, ← cutFirst_joined none', same]

theorem cutLast_joined (last : b?.elim (c ∉ a) (c ∉ ·)) :
    cutLast c (joined c a b?) = b?.map fun b => (a, b) := by
  cases b? with
  | none =>
    have last : c ∉ a := last
    rw [joined, Option.elim_none, List.append_nil, cutLast_eq_none.mpr last, Option.map_none]
  | some b => rw [joined, Option.elim_some, cutLast_append last, Option.map_some]

/-- Every text is cut at its last sign, if it has one. -/
theorem exists_joined_last (c : Char) (s : List Char) :
    ∃ a b?, s = joined c a b? ∧ b?.elim (c ∉ a) (c ∉ ·) := by
  cases cut : cutLast c s with
  | none => exact ⟨s, none, (List.append_nil s).symm, cutLast_eq_none.mp cut⟩
  | some parts =>
    obtain ⟨whole, none⟩ := cutLast_eq_some cut
    exact ⟨parts.1, some parts.2, whole, none⟩

/-- A text is cut at its last sign in one way. -/
theorem joined_inj_last (last : b?.elim (c ∉ a) (c ∉ ·)) (last' : b?'.elim (c ∉ a') (c ∉ ·))
    (same : joined c a b? = joined c a' b?') : a = a' ∧ b? = b?' := by
  refine joined_inj_of_cut ?_ same
  rw [← cutLast_joined last, ← cutLast_joined last', same]

theorem not_mem_of_mem_splitAt {s part : List Char} (mem : part ∈ splitAt c s) : c ∉ part := by
  induction s generalizing part with
  | nil =>
    rw [List.mem_singleton.mp mem]
    exact List.not_mem_nil
  | cons x xs ih =>
    rw [splitAt] at mem
    split at mem
    · rcases List.mem_cons.mp mem with rfl | mem
      · exact List.not_mem_nil
      · exact ih mem
    · next other =>
      obtain ⟨p, ps, split⟩ := List.exists_cons_of_ne_nil (splitAt_ne_nil c xs)
      rw [split] at mem ih
      rcases List.mem_cons.mp mem with rfl | mem
      · have rest := ih List.mem_cons_self
        simp [rest, Ne.symm other]
      · exact ih (List.mem_cons_of_mem p mem)

/-- The parts into which a text is split make up the text. -/
theorem intercalate_splitAt (c : Char) (s : List Char) : [c].intercalate (splitAt c s) = s := by
  induction s with
  | nil => rfl
  | cons x xs ih =>
    obtain ⟨p, ps, split⟩ := List.exists_cons_of_ne_nil (splitAt_ne_nil c xs)
    rw [splitAt, split]
    rw [split] at ih
    split
    · next sign =>
      rw [List.intercalate_cons_cons, ih, sign]
      rfl
    · rw [← ih]
      cases ps <;> simp [List.intercalate_cons_cons]

/-- Parts without a sign that are joined by it are split at it again. -/
theorem splitAt_intercalate_of_not_mem {parts : List (List Char)} (filled : parts ≠ [])
    (none : ∀ part ∈ parts, c ∉ part) : splitAt c ([c].intercalate parts) = parts := by
  obtain ⟨part, rest, rfl⟩ := List.exists_cons_of_ne_nil filled
  rw [splitAt_intercalate, List.flatMap_congr fun p mem => splitAt_of_not_mem (none p mem)]
  exact List.flatMap_singleton' _

end RowCheck.Text
