import RowCheck.Text.Digits

/-!
# Cutting digit strings

The digits of a number are cut by dividing it: the digits in front are those of the quotient by a
power of ten, the last ones are those that `lastDigits` keeps. A number ends in front of the first
sign that is no digit.
-/

namespace RowCheck.Text

theorem pow10_le_pow10 {m n : Nat} (h : m ≤ n) : pow10 m ≤ pow10 n :=
  Nat.pow_le_pow_right (by decide) h

theorem digit_mod (n : Nat) : digit (n % 10) = digit n := by
  simp [digit]

theorem digit_eq_zero_iff (n : Nat) : digit n = '0' ↔ n % 10 = 0 := by
  constructor
  · intro h
    rw [← digitValue_digit, h]
    rfl
  · intro h
    rw [← digit_mod, h]
    rfl

theorem decimal_of_lt {n : Nat} (h : n < 10) : decimal n = [digit n] := by
  rw [decimal, if_pos h]

theorem decimal_of_le {n : Nat} (h : 10 ≤ n) : decimal n = decimal (n / 10) ++ [digit n] := by
  rw [decimal, if_neg (by omega)]

theorem decimal_ne_nil (n : Nat) : decimal n ≠ [] := by
  unfold decimal
  split <;> simp

/-- Only zero starts with a zero. -/
theorem head?_decimal_eq_zero_iff (n : Nat) : (decimal n).head? = some '0' ↔ n = 0 := by
  induction n using decimal.induct with
  | case1 n h =>
    rw [decimal_of_lt h, List.head?_cons, Option.some.injEq, digit_eq_zero_iff, Nat.mod_eq_of_lt h]
  | case2 n h ih =>
    obtain ⟨c, rest, text⟩ := List.exists_cons_of_ne_nil (decimal_ne_nil (n / 10))
    rw [text, List.head?_cons] at ih
    rw [decimal_of_le (by omega), text, List.cons_append, List.head?_cons, ih]
    omega

theorem isDigit_of_mem_decimal (n : Nat) : ∀ c ∈ decimal n, isDigit c = true := by
  induction n using decimal.induct with
  | case1 n h =>
    rw [decimal_of_lt h]
    simp [isDigit_digit]
  | case2 n h ih =>
    rw [decimal_of_le (by omega)]
    intro c mem
    rcases List.mem_append.mp mem with front | last
    · exact ih c front
    · rw [List.mem_singleton.mp last]
      exact isDigit_digit n

theorem not_mem_decimal {c : Char} (h : isDigit c = false) (n : Nat) : c ∉ decimal n := by
  intro mem
  rw [isDigit_of_mem_decimal n c mem] at h
  cases h

/-- The last digits of a number do not depend on the digits in front of them. -/
theorem lastDigits_mod (width n : Nat) :
    lastDigits width (n % pow10 width) = lastDigits width n := by
  induction width generalizing n with
  | zero => rfl
  | succ w ih =>
    have quotient : n % pow10 (w + 1) / 10 = n / 10 % pow10 w := by
      rw [pow10_succ, Nat.mul_comm, Nat.mod_mul]
      omega
    have last : digit (n % pow10 (w + 1)) = digit n := by
      rw [← digit_mod, pow10_succ, Nat.mod_mul_left_mod, digit_mod]
    rw [lastDigits, quotient, ih, last]
    rfl

theorem lastDigits_add (front back n : Nat) :
    lastDigits (front + back) n = lastDigits front (n / pow10 back) ++ lastDigits back n := by
  induction back generalizing n with
  | zero => simp [lastDigits]
  | succ b ih =>
    rw [← Nat.add_assoc, lastDigits, ih, pow10_succ, Nat.mul_comm, ← Nat.div_div_eq_div_mul,
      List.append_assoc]
    rfl

theorem take_lastDigits (front back n : Nat) :
    (lastDigits (front + back) n).take front = lastDigits front (n / pow10 back) := by
  rw [lastDigits_add]
  exact List.take_left' (length_lastDigits front _)

theorem lastDigits_zero (width : Nat) : lastDigits width 0 = List.replicate width '0' := by
  induction width with
  | zero => rfl
  | succ w ih =>
    rw [lastDigits, Nat.zero_div, ih, List.replicate_succ']
    rfl

/-- A number with more than `k` digits is its quotient followed by its last `k` digits. -/
theorem decimal_eq_append {k n : Nat} (h : pow10 k ≤ n) :
    decimal n = decimal (n / pow10 k) ++ lastDigits k n := by
  induction k generalizing n with
  | zero => simp [lastDigits]
  | succ k ih =>
    have le : pow10 k ≤ n / 10 := by
      rw [Nat.le_div_iff_mul_le (by omega)]
      exact h
    have pos := pow10_pos k
    have ten : 10 ≤ n := by
      rw [pow10_succ] at h
      omega
    rw [decimal_of_le ten, ih le, pow10_succ, Nat.mul_comm, ← Nat.div_div_eq_div_mul,
      List.append_assoc]
    rfl

/-- A number of at most `width` digits is filled up with zeros to its last digits. -/
theorem padded_eq_lastDigits {width n : Nat} (pos : 0 < width) (h : n < pow10 width) :
    padded width n = lastDigits width n := by
  induction width generalizing n with
  | zero => omega
  | succ w ih =>
    rw [lastDigits]
    by_cases small : n < 10
    · have none : n / 10 = 0 := by omega
      rw [none, lastDigits_zero, padded, decimal_of_lt small]
      simp
    · have h' : n / 10 < pow10 w := by
        rw [Nat.div_lt_iff_lt_mul (by omega)]
        exact h
      have pos' : 0 < w := by
        cases w with
        | zero => simp [pow10_succ] at h; omega
        | succ w => omega
      rw [← ih pos' h', padded, padded, decimal_of_le (by omega)]
      simp

theorem isDigit_of_mem_lastDigits (width n : Nat) : ∀ c ∈ lastDigits width n, isDigit c = true := by
  induction width generalizing n with
  | zero => exact List.forall_mem_nil _
  | succ w ih =>
    rw [lastDigits, List.forall_mem_append]
    exact ⟨ih _, List.forall_mem_singleton.mpr (isDigit_digit n)⟩

theorem isDigit_of_mem_padded (width n : Nat) : ∀ c ∈ padded width n, isDigit c = true := by
  rw [padded, List.forall_mem_append]
  refine ⟨fun c mem => ?_, isDigit_of_mem_decimal n⟩
  rw [List.eq_of_mem_replicate mem]
  rfl

theorem length_padded_of_lt {width n : Nat} (pos : 0 < width) (h : n < pow10 width) :
    (padded width n).length = width := by
  rw [padded_eq_lastDigits pos h, length_lastDigits]

theorem foldl_digits (n : Nat) (cs : List Char) :
    cs.foldl (fun acc c => 10 * acc + digitValue c) n = n * pow10 cs.length + ofDigits cs := by
  induction cs generalizing n with
  | nil => simp [ofDigits]
  | cons c cs ih =>
    have value : ofDigits (c :: cs) = digitValue c * pow10 cs.length + ofDigits cs := by
      rw [ofDigits, List.foldl_cons, Nat.mul_zero, Nat.zero_add, ih]
    rw [List.foldl_cons, ih, value, List.length_cons, pow10_succ, Nat.add_mul, Nat.mul_comm 10,
      Nat.mul_assoc, Nat.mul_comm 10, Nat.add_assoc]

/-- The value of digits in front is moved up by the digits behind them. -/
theorem ofDigits_append (front back : List Char) :
    ofDigits (front ++ back) = ofDigits front * pow10 back.length + ofDigits back := by
  rw [ofDigits, List.foldl_append, foldl_digits, ← ofDigits]

@[simp]
theorem ofDigits_nil : ofDigits [] = 0 := rfl

theorem ofDigits_singleton (c : Char) : ofDigits [c] = digitValue c := by
  simp [ofDigits]

theorem digitValue_lt {c : Char} (h : isDigit c = true) : digitValue c < 10 := by
  simp only [isDigit, decide_eq_true_eq] at h
  unfold digitValue
  omega

theorem digitValue_ne_zero {c : Char} (h : isDigit c = true) (ne : c ≠ '0') :
    digitValue c ≠ 0 := by
  simp only [isDigit, decide_eq_true_eq] at h
  intro zero
  apply ne
  rw [← Char.ofNat_toNat c, show c.toNat = 48 by unfold digitValue at zero; omega]

theorem ofDigits_lt {cs : List Char} (digits : ∀ c ∈ cs, isDigit c = true) :
    ofDigits cs < pow10 cs.length := by
  induction cs with
  | nil => decide
  | cons c cs ih =>
    obtain ⟨first, others⟩ := List.forall_mem_cons.mp digits
    have below := ih others
    have top := Nat.mul_le_mul_right (pow10 cs.length) (Nat.le_of_lt_succ (digitValue_lt first))
    rw [← List.singleton_append, ofDigits_append, ofDigits_singleton, List.singleton_append,
      List.length_cons, pow10_succ]
    omega

/-- The value of digits behind is cut off with them. -/
theorem ofDigits_append_div (front : List Char) {back : List Char}
    (digits : ∀ c ∈ back, isDigit c = true) :
    ofDigits (front ++ back) / pow10 back.length = ofDigits front := by
  rw [ofDigits_append, Nat.mul_comm, Nat.mul_add_div (pow10_pos _),
    Nat.div_eq_of_lt (ofDigits_lt digits), Nat.add_zero]

/-- Digits that end in one that is not zero do not spell zero. -/
theorem ofDigits_ne_zero {cs : List Char} (digits : ∀ c ∈ cs, isDigit c = true) (ne : cs ≠ [])
    (last : cs.getLast? ≠ some '0') : ofDigits cs ≠ 0 := by
  have other : cs.getLast ne ≠ '0' := by
    intro zero
    rw [List.getLast?_eq_some_getLast ne, zero] at last
    exact last rfl
  have value := digitValue_ne_zero (digits _ (List.getLast_mem ne)) other
  rw [← List.dropLast_concat_getLast ne, ofDigits_append, ofDigits_singleton]
  omega

theorem ofDigits_replicate_zero (k : Nat) : ofDigits (List.replicate k '0') = 0 := by
  rw [← lastDigits_zero, ofDigits_lastDigits, Nat.zero_mod]

/-- Zeros in front do not count. -/
theorem ofDigits_padded (width n : Nat) : ofDigits (padded width n) = n := by
  rw [padded, ofDigits_append, ofDigits_replicate_zero, Nat.zero_mul, Nat.zero_add,
    ofDigits_decimal]

/-- The last digits in groups of four. -/
theorem lastDigits_groups (count n : Nat) :
    lastDigits (4 * count) n =
      (List.range count).flatMap fun i => lastDigits 4 (n / pow10 (4 * (count - 1 - i))) := by
  induction count generalizing n with
  | zero => rfl
  | succ c ih =>
    rw [List.range_succ_eq_map, List.flatMap_cons, List.flatMap_map, Nat.mul_succ, Nat.add_comm,
      lastDigits_add, ih]
    simp [Nat.sub_sub, Nat.add_comm]

/-! ## Where a number ends -/

variable {r s : List Char}

/-- That a number which stands in front of a text ends there. -/
def EndsNumber (r : List Char) : Prop := ∀ c ∈ r.head?, isDigit c = false

theorem endsNumber_cons {c : Char} (other : isDigit c = false) (r : List Char) :
    EndsNumber (c :: r) := by
  intro d head
  obtain rfl : c = d := by simpa using head
  exact other

theorem takeWhile_isDigit_append {digits : List Char} (all : ∀ c ∈ digits, isDigit c = true)
    (ends : EndsNumber r) : (digits ++ r).takeWhile isDigit = digits := by
  rw [List.takeWhile_append_of_pos all]
  cases r with
  | nil => simp
  | cons c r =>
    have other : isDigit c = false := ends c rfl
    simp [other]

/-- Digits are told from what follows them. -/
theorem digits_append_inj {a b : List Char} (ha : ∀ c ∈ a, isDigit c = true)
    (hb : ∀ c ∈ b, isDigit c = true) (hr : EndsNumber r) (hs : EndsNumber s)
    (same : a ++ r = b ++ s) : a = b ∧ r = s := by
  have digits : a = b := by
    rw [← takeWhile_isDigit_append ha hr, same, takeWhile_isDigit_append hb hs]
  subst digits
  exact ⟨rfl, List.append_cancel_left same⟩

theorem decimal_append_inj {m n : Nat} (hr : EndsNumber r) (hs : EndsNumber s)
    (same : decimal m ++ r = decimal n ++ s) : m = n ∧ r = s := by
  obtain ⟨digits, rest⟩ :=
    digits_append_inj (isDigit_of_mem_decimal m) (isDigit_of_mem_decimal n) hr hs same
  refine ⟨?_, rest⟩
  rw [← ofDigits_decimal m, digits, ofDigits_decimal]

/-- An integer begins with a digit or with a minus sign. -/
theorem exists_intChars_eq_cons (i : Int) :
    ∃ c rest, intChars i = c :: rest ∧ (c = '-' ↔ i < 0) ∧ (c ≠ '-' → isDigit c = true) := by
  cases i with
  | ofNat n =>
    obtain ⟨c, rest, text⟩ := List.exists_cons_of_ne_nil (decimal_ne_nil n)
    have digit : isDigit c = true := by
      apply isDigit_of_mem_decimal n
      rw [text]
      exact List.mem_cons_self
    refine ⟨c, rest, text, ?_, fun _ => digit⟩
    constructor
    · rintro rfl
      exact absurd digit (by decide)
    · intro negative
      exact absurd negative (by simp)
  | negSucc n =>
    refine ⟨'-', decimal (n + 1), rfl, ?_, fun other => absurd rfl other⟩
    simp [Int.negSucc_lt_zero]

/-- An integer is told from what follows it. -/
theorem intChars_append_inj {i j : Int} (hr : EndsNumber r) (hs : EndsNumber s)
    (same : intChars i ++ r = intChars j ++ s) : i = j ∧ r = s := by
  have signs : i < 0 ↔ j < 0 := by
    obtain ⟨c, rest, text, sign, -⟩ := exists_intChars_eq_cons i
    obtain ⟨c', rest', text', sign', -⟩ := exists_intChars_eq_cons j
    rw [text, text', List.cons_append, List.cons_append] at same
    rw [← sign, ← sign', (List.cons.inj same).1]
  cases i with
  | ofNat m =>
    cases j with
    | ofNat n =>
      obtain ⟨rfl, rest⟩ := decimal_append_inj hr hs same
      exact ⟨rfl, rest⟩
    | negSucc n => exact absurd (signs.mpr (Int.negSucc_lt_zero n)) (by simp)
  | negSucc m =>
    cases j with
    | ofNat n => exact absurd (signs.mp (Int.negSucc_lt_zero m)) (by simp)
    | negSucc n =>
      obtain ⟨number, rest⟩ := decimal_append_inj hr hs (List.cons.inj same).2
      obtain rfl : m = n := Nat.succ.inj number
      exact ⟨rfl, rest⟩

end RowCheck.Text
