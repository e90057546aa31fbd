import RowCheck.Number.Power

/-!
# Decimal digits

Texts of natural numbers and integers as lists of characters, and the reader that takes them back.
`ofDigits_decimal` says that a number is read back from its digits.
-/

namespace RowCheck.Text

/-- The character of a single decimal digit; only the last digit of `n` counts. -/
def digit (n : Nat) : Char := Char.ofNat (48 + n % 10)

/-- The value of a decimal digit character. -/
def digitValue (c : Char) : Nat := c.toNat - 48

/-- The ten ASCII digits. -/
def isDigit (c : Char) : Bool := decide (48 ≤ c.toNat ∧ c.toNat ≤ 57)

/-- The decimal digits of a number, most significant first, with no leading zero. -/
def decimal (n : Nat) : List Char :=
  if n < 10 then [digit n] else decimal (n / 10) ++ [digit n]
termination_by n
decreasing_by omega

/-- The last `width` decimal digits of a number, leading zeros included. -/
def lastDigits : Nat → Nat → List Char
  | 0, _ => []
  | width + 1, n => lastDigits width (n / 10) ++ [digit n]

/-- The decimal digits of a number, filled up with zeros on the left to at least `width`. -/
def padded (width n : Nat) : List Char :=
  List.replicate (width - (decimal n).length) '0' ++ decimal n

/-- The number that a list of digits denotes. -/
def ofDigits (cs : List Char) : Nat := cs.foldl (fun acc c => 10 * acc + digitValue c) 0

/-- An integer in decimal, with a sign only when it is negative. -/
def intChars : Int → List Char
  | .ofNat n => decimal n
  | .negSucc n => '-' :: decimal (n + 1)

theorem digitValue_digit (n : Nat) : digitValue (digit n) = n % 10 := by
  have h : n % 10 < 10 := Nat.mod_lt _ (by omega)
  unfold digitValue digit
  generalize n % 10 = k at h
  match k, h with
  | 0, _ | 1, _ | 2, _ | 3, _ | 4, _ | 5, _ | 6, _ | 7, _ | 8, _ | 9, _ => rfl

theorem isDigit_digit (n : Nat) : isDigit (digit n) = true := by
  have h : n % 10 < 10 := Nat.mod_lt _ (by omega)
  unfold isDigit digit
  generalize n % 10 = k at h
  match k, h with
  | 0, _ | 1, _ | 2, _ | 3, _ | 4, _ | 5, _ | 6, _ | 7, _ | 8, _ | 9, _ => rfl

theorem ofDigits_append_digit (cs : List Char) (n : Nat) :
    ofDigits (cs ++ [digit n]) = 10 * ofDigits cs + n % 10 := by
  simp [ofDigits, digitValue_digit]

/-- A number is read back from its digits. -/
theorem ofDigits_decimal (n : Nat) : ofDigits (decimal n) = n := by
  fun_induction decimal n with
  | case1 n h => simp [ofDigits, digitValue_digit]; omega
  | case2 n h ih => rw [ofDigits_append_digit, ih]; omega

theorem length_lastDigits (width n : Nat) : (lastDigits width n).length = width := by
  induction width generalizing n with
  | zero => rfl
  | succ w ih => simp [lastDigits, ih]

theorem ofDigits_lastDigits (width n : Nat) :
    ofDigits (lastDigits width n) = n % pow10 width := by
  induction width generalizing n with
  | zero => simp [lastDigits, ofDigits, Nat.mod_one]
  | succ w ih =>
    rw [lastDigits, ofDigits_append_digit, ih, pow10_succ, Nat.mul_comm (pow10 w) 10, Nat.mod_mul]
    omega

theorem le_length_padded (width n : Nat) : width ≤ (padded width n).length := by
  rw [padded, List.length_append, List.length_replicate]
  omega

end RowCheck.Text
