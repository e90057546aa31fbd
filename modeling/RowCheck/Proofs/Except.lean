import Mathlib.Data.List.Forall2

/-!
# Computations that can fail

What a chain of such computations gives when its steps succeed, and what is known of its steps when
the whole succeeds or fails.
-/

namespace RowCheck

variable {ε α β γ : Type}

theorem ok_bind (a : α) (f : α → Except ε β) : (Except.ok a >>= f) = f a := rfl

theorem pure_ok (a : α) : (pure a : Except ε α) = .ok a := rfl

/-- Going over the images of a list, with success at each of them. -/
theorem mapM_map_ok {l : List α} {f : α → β} {g : β → Except ε γ} {k : α → γ}
    (h : ∀ a ∈ l, g (f a) = .ok (k a)) : (l.map f).mapM g = .ok (l.map k) := by
  induction l with
  | nil => rfl
  | cons a l ih =>
    rw [List.forall_mem_cons] at h
    rw [List.map_cons, List.mapM_cons, h.1, ok_bind, ih h.2, ok_bind, pure_ok, List.map_cons]

theorem bind_eq_ok {x : Except ε α} {f : α → Except ε β} {b : β} (h : (x >>= f) = .ok b) :
    ∃ a, x = .ok a ∧ f a = .ok b := by
  cases x with
  | error e => cases h
  | ok a => exact ⟨a, rfl, h⟩

theorem bind_eq_ok_iff {x : Except ε α} {f : α → Except ε β} {b : β} :
    (x >>= f) = .ok b ↔ ∃ a, x = .ok a ∧ f a = .ok b := by
  refine ⟨bind_eq_ok, ?_⟩
  rintro ⟨a, rfl, given⟩
  exact given

theorem bind_eq_error {x : Except ε α} {f : α → Except ε β} {e : ε}
    (h : (x >>= f) = .error e) : x = .error e ∨ ∃ a, f a = .error e := by
  cases x with
  | error e' =>
    cases h
    exact .inl rfl
  | ok a => exact .inr ⟨a, h⟩

theorem mapError_eq_ok_iff {x : Except ε α} {f : ε → γ} {a : α} :
    x.mapError f = .ok a ↔ x = .ok a := by
  cases x <;> simp [Except.mapError]

theorem mapError_eq_error_iff {x : Except ε α} {f : ε → γ} {e : γ} :
    x.mapError f = .error e ↔ ∃ e', x = .error e' ∧ f e' = e := by
  cases x <;> simp [Except.mapError]

theorem mapM_eq_error {f : α → Except ε β} {items : List α} {e : ε}
    (h : items.mapM f = .error e) : ∃ x, f x = .error e := by
  induction items with
  | nil => cases h
  | cons x items ih =>
    rw [List.mapM_cons] at h
    rcases bind_eq_error h with first | ⟨y, h⟩
    · exact ⟨x, first⟩
    · rcases bind_eq_error h with others | ⟨ys, h⟩
      · exact ih others
      · cases h

/-- Going over a list succeeds if it does so at each item. -/
theorem mapM_eq_ok_iff {f : α → Except ε β} {items : List α} {made : List β} :
    items.mapM f = .ok made ↔ List.Forall₂ (fun x y => f x = .ok y) items made := by
  induction items generalizing made with
  | nil => simp [pure_ok, eq_comm]
  | cons x items ih =>
    rw [List.mapM_cons]
    constructor
    · intro h
      obtain ⟨y, first, h⟩ := bind_eq_ok h
      obtain ⟨ys, others, h⟩ := bind_eq_ok h
      cases h
      exact .cons first (ih.mp others)
    · intro h
      cases h with
      | cons first others => rw [first, ok_bind, ih.mpr others, ok_bind, pure_ok]

theorem exists_mapM_eq_ok_iff {f : α → Except ε β} {items : List α} :
    (∃ made, items.mapM f = .ok made) ↔ ∀ x ∈ items, ∃ y, f x = .ok y := by
  simp only [mapM_eq_ok_iff]
  induction items with
  | nil => simp
  | cons x items ih =>
    rw [List.forall_mem_cons, ← ih]
    constructor
    · rintro ⟨made, pairs⟩
      cases pairs with
      | cons first others => exact ⟨⟨_, first⟩, _, others⟩
    · rintro ⟨⟨y, first⟩, ys, others⟩
      exact ⟨y :: ys, .cons first others⟩

/-- Going over a list fails at its first item that fails. -/
theorem mapM_eq_error_iff {f : α → Except ε β} {items : List α} {e : ε} :
    items.mapM f = .error e ↔ ∃ before x after, items = before ++ x :: after ∧
      (∀ y ∈ before, ∃ b, f y = .ok b) ∧ f x = .error e := by
  constructor
  · intro h
    induction items with
    | nil => cases h
    | cons x items ih =>
      rw [List.mapM_cons] at h
      cases first : f x with
      | error e' =>
        rw [first] at h
        cases h
        exact ⟨[], x, items, rfl, List.forall_mem_nil _, first⟩
      | ok y =>
        rw [first, ok_bind] at h
        cases others : items.mapM f with
        | error e' =>
          rw [others] at h
          cases h
          obtain ⟨before, x', after, rfl, sound, fails⟩ := ih others
          exact ⟨x :: before, x', after, rfl, List.forall_mem_cons.mpr ⟨⟨y, first⟩, sound⟩, fails⟩
        | ok ys =>
          rw [others] at h
          cases h
  · rintro ⟨before, x, after, rfl, sound, fails⟩
    induction before with
    | nil =>
      rw [List.nil_append, List.mapM_cons, fails]
      rfl
    | cons y before ih =>
      obtain ⟨⟨b, first⟩, others⟩ := List.forall_mem_cons.mp sound
      rw [List.cons_append, List.mapM_cons, first, ok_bind, ih others]
      rfl

theorem exists_mapM_eq_some {f : α → Option β} {items : List α} :
    (∃ made, items.mapM f = some made) ↔ ∀ x ∈ items, (f x).isSome := by
  induction items with
  | nil => simp
  | cons x items ih =>
    rw [List.forall_mem_cons, ← ih, List.mapM_cons, Option.isSome_iff_exists]
    simp only [Option.bind_eq_bind, Option.bind_eq_some_iff, Option.pure_def, Option.some.injEq]
    constructor
    · rintro ⟨_, y, first, ys, others, rfl⟩
      exact ⟨⟨y, first⟩, ys, others⟩
    · rintro ⟨⟨y, first⟩, ys, others⟩
      exact ⟨_, y, first, ys, others, rfl⟩

theorem foldlM_eq_error {f : β → α → Except ε β} {items : List α} {start : β}
    {e : ε} (h : items.foldlM f start = .error e) : ∃ kept x, f kept x = .error e := by
  induction items generalizing start with
  | nil => cases h
  | cons x items ih =>
    rw [List.foldlM_cons] at h
    rcases bind_eq_error h with first | ⟨next, others⟩
    · exact ⟨start, x, first⟩
    · exact ih others

end RowCheck
