/-!
# Powers

Powers of two and of ten, the scales on which floats and decimal numbers are written.
-/

namespace RowCheck

/-- A power of two. -/
def pow2 (n : Nat) : Nat := Nat.pow 2 n

/-- A power of ten. -/
def pow10 (n : Nat) : Nat := Nat.pow 10 n

@[simp]
theorem pow2_zero : pow2 0 = 1 := rfl

@[simp]
theorem pow10_zero : pow10 0 = 1 := rfl

theorem pow2_succ (n : Nat) : pow2 (n + 1) = pow2 n * 2 := rfl

theorem pow10_succ (n : Nat) : pow10 (n + 1) = pow10 n * 10 := rfl

theorem pow2_pos (n : Nat) : 0 < pow2 n := by
  induction n with
  | zero => simp
  | succ n ih => rw [pow2_succ]; omega

theorem pow10_pos (n : Nat) : 0 < pow10 n := by
  induction n with
  | zero => simp
  | succ n ih => rw [pow10_succ]; omega

theorem pow2_add (m n : Nat) : pow2 (m + n) = pow2 m * pow2 n := by
  induction n with
  | zero => simp
  | succ n ih => rw [← Nat.add_assoc, pow2_succ, pow2_succ, ih, Nat.mul_assoc]

theorem pow10_add (m n : Nat) : pow10 (m + n) = pow10 m * pow10 n := by
  induction n with
  | zero => simp
  | succ n ih => rw [← Nat.add_assoc, pow10_succ, pow10_succ, ih, Nat.mul_assoc]

end RowCheck
