/-!
# Cutting texts

Cuts at the first or the last place where a character stands, splitting at every such place, and
the test whether one text occurs inside another.
-/

namespace RowCheck.Text

/-- The parts before and after the first `c`. -/
def cutFirst (c : Char) : List Char → Option (List Char × List Char)
  | [] => none
  | x :: xs => if x = c then some ([], xs) else (cutFirst c xs).map fun p => (x :: p.1, p.2)

/-- The parts before and after the last `c`. -/
def cutLast (c : Char) : List Char → Option (List Char × List Char)
  | [] => none
  | x :: xs =>
    match cutLast c xs with
    | some p => some (x :: p.1, p.2)
    | none => if x = c then some ([], xs) else none

/-- The parts between all occurrences of `c`; there is always at least one. -/
def splitAt (c : Char) : List Char → List (List Char)
  | [] => [[]]
  | x :: xs =>
    if x = c then [] :: splitAt c xs
    else
      match splitAt c xs with
      | [] => [[x]]
      | p :: ps => (x :: p) :: ps

/-- Whether `needle` stands somewhere inside a text. -/
def occurs (needle : List Char) : List Char → Bool
  | [] => needle.isEmpty
  | x :: xs => needle.isPrefixOf (x :: xs) || occurs needle xs

/-- Whether a text has a NUL in it. -/
def hasNul (s : String) : Bool := s.toList.contains '\x00'

theorem cutFirst_eq_some {c : Char} {s a b : List Char} (h : cutFirst c s = some (a, b)) :
    s = a ++ c :: b ∧ c ∉ a := by
  induction s generalizing a with
  | nil => simp [cutFirst] at h
  | cons x xs ih =>
    unfold cutFirst at h
    split at h
    · next hx => simp_all
    · next hx =>
      obtain ⟨p, hp, he⟩ := Option.map_eq_some_iff.1 h
      obtain ⟨rfl, rfl⟩ := Prod.mk.inj he
      obtain ⟨h₁, h₂⟩ := ih (a := p.1) (by simpa using hp)
      exact ⟨by simp [h₁], by simp [h₂, Ne.symm hx]⟩

theorem cutFirst_append {c : Char} {a b : List Char} (h : c ∉ a) :
    cutFirst c (a ++ c :: b) = some (a, b) := by
  induction a with
  | nil => simp [cutFirst]
  | cons x xs ih =>
    simp only [List.mem_cons, not_or] at h
    simp [cutFirst, Ne.symm h.1, ih h.2]

theorem cutFirst_eq_none {c : Char} {s : List Char} : cutFirst c s = none ↔ c ∉ s := by
  induction s with
  | nil => simp [cutFirst]
  | cons x xs ih =>
    unfold cutFirst
    split
    · next hx => simp [hx]
    · next hx => simp [ih, Ne.symm hx]

theorem cutLast_eq_none {c : Char} {s : List Char} : cutLast c s = none ↔ c ∉ s := by
  induction s with
  | nil => simp [cutLast]
  | cons x xs ih =>
    unfold cutLast
    cases h : cutLast c xs with
    | some p =>
      have hm : c ∈ xs := Decidable.byContradiction fun hn => by simp [ih.2 hn] at h
      simp [hm]
    | none =>
      have hm := ih.1 h
      by_cases hx : x = c
      · simp [hx]
      · simp [hx, hm, Ne.symm hx]

theorem cutLast_append {c : Char} {a b : List Char} (h : c ∉ b) :
    cutLast c (a ++ c :: b) = some (a, b) := by
  induction a with
  | nil => simp [cutLast, cutLast_eq_none.2 h]
  | cons x xs ih => simp [cutLast, ih]

theorem cutLast_eq_some {c : Char} {s a b : List Char} (h : cutLast c s = some (a, b)) :
    s = a ++ c :: b ∧ c ∉ b := by
  induction s generalizing a with
  | nil => simp [cutLast] at h
  | cons x xs ih =>
    unfold cutLast at h
    split at h
    · next p hp =>
      obtain ⟨rfl, rfl⟩ := Prod.mk.inj (Option.some.inj h)
      obtain ⟨h₁, h₂⟩ := ih (a := p.1) (by simpa using hp)
      exact ⟨by simp [h₁], h₂⟩
    · next hp =>
      split at h
      · next hx =>
        obtain ⟨rfl, rfl⟩ := Prod.mk.inj (Option.some.inj h)
        exact ⟨by simp [hx], cutLast_eq_none.1 hp⟩
      · simp at h

theorem splitAt_of_not_mem {c : Char} {s : List Char} (h : c ∉ s) : splitAt c s = [s] := by
  induction s with
  | nil => rfl
  | cons x xs ih =>
    simp only [List.mem_cons, not_or] at h
    simp [splitAt, Ne.symm h.1, ih h.2]

theorem splitAt_append {c : Char} {a b : List Char} (h : c ∉ a) :
    splitAt c (a ++ c :: b) = a :: splitAt c b := by
  induction a with
  | nil => simp [splitAt]
  | cons x xs ih =>
    simp only [List.mem_cons, not_or] at h
    simp [splitAt, Ne.symm h.1, ih h.2]

theorem splitAt_ne_nil (c : Char) (s : List Char) : splitAt c s ≠ [] := by
  cases s with
  | nil => exact List.cons_ne_nil _ _
  | cons x xs =>
    rw [splitAt]
    split
    · exact List.cons_ne_nil _ _
    · split <;> exact List.cons_ne_nil _ _

theorem splitAt_append_cons (c : Char) (a b : List Char) :
    splitAt c (a ++ c :: b) = splitAt c a ++ splitAt c b := by
  induction a with
  | nil => simp [splitAt]
  | cons x xs ih =>
    rw [List.cons_append, splitAt, splitAt, ih]
    split
    · rfl
    · obtain ⟨p, ps, split⟩ := List.exists_cons_of_ne_nil (splitAt_ne_nil c xs)
      rw [split]
      rfl

/-- A text that is joined is split into what its parts are split into. -/
theorem splitAt_intercalate (c : Char) (part : List Char) (parts : List (List Char)) :
    splitAt c ([c].intercalate (part :: parts))
      = (part :: parts).flatMap (splitAt c) := by
  induction parts generalizing part with
  | nil => simp
  | cons next parts ih =>
    rw [List.intercalate_cons_cons, List.append_assoc, List.singleton_append, splitAt_append_cons,
      ih next]
    rfl

theorem occurs_iff {needle s : List Char} : occurs needle s = true ↔ needle <:+: s := by
  induction s with
  | nil => simp [occurs]
  | cons x xs ih => simp [occurs, ih, List.infix_cons_iff]

end RowCheck.Text
