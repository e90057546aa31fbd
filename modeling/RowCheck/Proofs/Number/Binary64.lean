import RowCheck.Number.Extended

/-!
# Whole numbers as floats

A float that equals an integer is the float nearest to that integer, apart from the sign of zero.
No rounding makes what is no number.
-/

namespace RowCheck

/-- A quotient that leaves nothing over is not rounded. -/
theorem nearestNat_mul (a : Nat) {d : Nat} (h : 0 < d) : nearestNat (a * d) d = a := by
  unfold nearestNat
  simp only [Nat.mul_div_cancel a h, Nat.mul_mod_left]
  rw [if_pos (by omega)]

theorem log2_mul_pow2 {n : Nat} (h : n ≠ 0) (k : Nat) : (n * pow2 k).log2 = n.log2 + k := by
  induction k with
  | zero => simp
  | succ k ih =>
    have further : n * pow2 k ≠ 0 := Nat.mul_ne_zero h (Nat.ne_of_gt (pow2_pos k))
    calc (n * pow2 (k + 1)).log2 = (2 * (n * pow2 k)).log2 := by
          rw [pow2_succ, ← Nat.mul_assoc, Nat.mul_comm 2]
      _ = n.log2 + k + 1 := by rw [Nat.log2_two_mul further, ih]

theorem log2Ratio_one {n : Nat} (h : n ≠ 0) : log2Ratio n 1 = n.log2 := by
  have one : Nat.log2 1 = 0 := by decide
  have reached : pow2 n.log2 ≤ n := Nat.log2_self_le h
  simp [log2Ratio, one, reached]

namespace Binary64

/-- The significands of floats that are not too small for all of their bits. -/
def IsNormal (m : Nat) : Prop := 0x10000000000000 ≤ m ∧ m < 0x20000000000000

theorem log2_of_isNormal {m : Nat} (h : IsNormal m) : m.log2 = 52 := by
  obtain ⟨low, high⟩ := h
  rw [Nat.log2_eq_iff (by omega)]
  omega

/-- That an integer has a significand in some units. -/
def HasUnits (n m : Nat) (q : Int) : Prop :=
  if 0 ≤ q then n = m * pow2 q.toNat else n * pow2 (-q).toNat = m

/-- An integer whose significand has 53 bits is taken in the units of that significand. -/
theorem log2_of_hasUnits {n m : Nat} {q : Int} (normal : IsNormal m) (h : HasUnits n m q) :
    n ≠ 0 ∧ (n.log2 : Int) - 52 = q := by
  have log := log2_of_isNormal normal
  obtain ⟨low, -⟩ := normal
  have nonzero : m ≠ 0 := by omega
  unfold HasUnits at h
  split at h
  · next up =>
    subst h
    refine ⟨Nat.mul_ne_zero nonzero (Nat.ne_of_gt (pow2_pos _)), ?_⟩
    rw [log2_mul_pow2 nonzero, log]
    omega
  · next down =>
    have positive : n ≠ 0 := by
      rintro rfl
      rw [Nat.zero_mul] at h
      exact nonzero h.symm
    refine ⟨positive, ?_⟩
    rw [← h, log2_mul_pow2 positive] at log
    omega

theorem nearestUnits_of_hasUnits {n m : Nat} {q : Int} (h : HasUnits n m q) :
    nearestUnits n 1 q = m := by
  unfold HasUnits at h
  unfold nearestUnits
  split at h
  · next up =>
    rw [if_pos up, h, Nat.one_mul]
    exact nearestNat_mul m (pow2_pos _)
  · next down =>
    rw [if_neg down, h]
    simpa using nearestNat_mul m Nat.one_pos

/-- An integer with a significand of 53 bits is a float, with that significand. -/
theorem ofRatio_of_hasUnits {n m : Nat} {q : Int} (normal : IsNormal m) (h : HasUnits n m q)
    (negative : Bool) : ofRatio negative n 1 = ofUnits negative m q := by
  obtain ⟨nonzero, units⟩ := log2_of_hasUnits normal h
  have q_eq : max (log2Ratio n 1 - 52) (-1074) = q := by
    rw [log2Ratio_one nonzero, ← units]
    omega
  rw [ofRatio, if_neg (by omega)]
  simp only [q_eq, nearestUnits_of_hasUnits h]

/-- The float of a normal significand and exponent has them as its fields. -/
theorem ofUnits_of_fields (negative : Bool) (exponent : Fin 2048) (fraction : Fin 0x10000000000000)
    (finite : exponent.val ≠ 2047) :
    ofUnits negative (0x10000000000000 + fraction.val) ((exponent.val : Int) - 1075)
      = ⟨negative, exponent, fraction⟩ := by
  have e := exponent.isLt
  have f := fraction.isLt
  have exponent_eq : Fin.ofNat 2048 ((exponent.val : Int) - 1075 + 1075).toNat = exponent := by
    apply Fin.ext
    rw [Fin.val_ofNat]
    omega
  have fraction_eq : Fin.ofNat 0x10000000000000
      (0x10000000000000 + fraction.val - 0x10000000000000) = fraction := by
    apply Fin.ext
    rw [Fin.val_ofNat]
    omega
  rw [ofUnits]
  simp only [if_neg (show ¬0x10000000000000 + fraction.val = 0x20000000000000 by omega),
    if_neg (show ¬0x10000000000000 + fraction.val < 0x10000000000000 by omega),
    if_pos (show (exponent.val : Int) - 1075 + 1075 < 2047 by omega), exponent_eq, fraction_eq]

/-- Below the least normal float there is no integer but zero. -/
theorem hasUnits_least {n m : Nat} (small : m < 0x10000000000000) (h : HasUnits n m (-1074)) :
    n = 0 ∧ m = 0 := by
  have units : n * (pow2 52 * pow2 1022) = m := by
    rw [← pow2_add]
    exact h
  have least : pow2 52 ≤ pow2 52 * pow2 1022 := Nat.le_mul_of_pos_right _ (pow2_pos _)
  have size : pow2 52 = 0x10000000000000 := rfl
  cases n with
  | zero => exact ⟨rfl, by rw [← units, Nat.zero_mul]⟩
  | succ n =>
    rw [Nat.succ_mul] at units
    omega

/-- What a finite float that equals an integer says about its fields. -/
theorem hasUnits_of_toInt? {x : Binary64} {negative : Bool} {m : Nat} {q i : Int}
    (view : x.view = .finite negative m q) (h : x.toInt? = some i) :
    ∃ n : Nat, i = (if negative then -(n : Int) else n) ∧ HasUnits n m q := by
  simp only [toInt?, view, ratio] at h
  unfold HasUnits
  split at h
  · next up =>
    simp only [Nat.mod_one, if_pos, Nat.div_one, Option.some.injEq] at h
    exact ⟨_, h.symm, by rw [if_pos up]⟩
  · next down =>
    simp only at h
    split at h
    · next divides =>
      refine ⟨_, (Option.some.inj h).symm, ?_⟩
      rw [if_neg down]
      exact Nat.div_mul_cancel (Nat.dvd_of_mod_eq_zero divides)
    · cases h

theorem ofInt_signed {n : Nat} (h : n ≠ 0) (negative : Bool) :
    ofInt (if negative then -(n : Int) else n) = ofRatio negative n 1 := by
  cases negative
  · have sign : decide ((n : Int) < 0) = false := decide_eq_false (by omega)
    rw [if_neg (by simp), ofInt, sign, Int.natAbs_natCast]
  · have sign : decide (-(n : Int) < 0) = true := decide_eq_true (by omega)
    rw [if_pos rfl, ofInt, sign, Int.natAbs_neg, Int.natAbs_natCast]

/-- A float that equals an integer is the one nearest to it. -/
theorem ofInt_of_toInt? {x : Binary64} {i : Int} (h : x.toInt? = some i) (sign : x ≠ zero true) :
    ofInt i = x := by
  obtain ⟨negative, exponent, fraction⟩ := x
  have f := fraction.isLt
  by_cases special : exponent.val = 2047
  · by_cases none : fraction.val = 0 <;> simp [toInt?, view, special, none] at h
  by_cases small : exponent.val = 0
  · have view : view ⟨negative, exponent, fraction⟩ = .finite negative fraction.val (-1074) := by
      simp [Binary64.view, small]
    obtain ⟨n, rfl, units⟩ := hasUnits_of_toInt? view h
    obtain ⟨rfl, zero⟩ := hasUnits_least f units
    have e : exponent = 0 := Fin.ext small
    have f : fraction = 0 := Fin.ext zero
    subst e f
    cases negative
    · rfl
    · exact absurd rfl sign
  · have view : view ⟨negative, exponent, fraction⟩
        = .finite negative (0x10000000000000 + fraction.val) ((exponent.val : Int) - 1075) := by
      simp [Binary64.view, special, small]
    obtain ⟨n, rfl, units⟩ := hasUnits_of_toInt? view h
    have normal : IsNormal (0x10000000000000 + fraction.val) := ⟨by omega, by omega⟩
    rw [ofInt_signed (log2_of_hasUnits normal units).1, ofRatio_of_hasUnits normal units]
    exact ofUnits_of_fields negative exponent fraction special

theorem floor_le_nearestNat (num den : Nat) : num / den ≤ nearestNat num den := by
  unfold nearestNat
  simp only
  split
  · exact Nat.le_refl _
  · split <;> omega

/-- The leading bits of an integer make a significand that is not too small. -/
theorem le_nearestUnits {n : Nat} (h : n ≠ 0) :
    0x10000000000000 ≤ nearestUnits n 1 ((n.log2 : Int) - 52) := by
  have low : pow2 n.log2 ≤ n := Nat.log2_self_le h
  have size : pow2 52 = 0x10000000000000 := rfl
  unfold nearestUnits
  split
  · next up =>
    refine Nat.le_trans ?_ (floor_le_nearestNat ..)
    rw [Nat.one_mul, Nat.le_div_iff_mul_le (pow2_pos _), ← size, ← pow2_add]
    have : 52 + ((n.log2 : Int) - 52).toNat = n.log2 := by omega
    rwa [this]
  · next down =>
    refine Nat.le_trans ?_ (floor_le_nearestNat ..)
    rw [Nat.div_one, ← size]
    have : 52 = n.log2 + (-((n.log2 : Int) - 52)).toNat := by omega
    calc pow2 52 = pow2 n.log2 * pow2 (-((n.log2 : Int) - 52)).toNat := by rw [← pow2_add, ← this]
      _ ≤ n * pow2 (-((n.log2 : Int) - 52)).toNat := Nat.mul_le_mul_right _ low

/-- What the fields of a float can be that is made of a significand and its units. -/
theorem ofUnits_cases (negative : Bool) (m : Nat) (q : Int) :
    (m < 0x10000000000000 ∧ ∃ f, ofUnits negative m q = ⟨negative, 0, f⟩)
      ∨ (∃ e f, q + 1075 ≤ e ∧ e < 2047
        ∧ ofUnits negative m q = ⟨negative, Fin.ofNat 2048 e.toNat, f⟩)
      ∨ ofUnits negative m q = infinity negative := by
  by_cases carried : m = 0x20000000000000
  · by_cases finite : q + 1 + 1075 < 2047
    · have fields : ofUnits negative m q = ⟨negative, Fin.ofNat 2048 (q + 1 + 1075).toNat,
          Fin.ofNat 0x10000000000000 (0x10000000000000 - 0x10000000000000)⟩ := by
        simp only [ofUnits, if_pos carried, Nat.lt_irrefl, if_false, if_pos finite]
      exact .inr (.inl ⟨_, _, by omega, finite, fields⟩)
    · refine .inr (.inr ?_)
      simp only [ofUnits, if_pos carried, Nat.lt_irrefl, if_false, if_neg finite]
  · by_cases small : m < 0x10000000000000
    · have fields : ofUnits negative m q = ⟨negative, 0, Fin.ofNat 0x10000000000000 m⟩ := by
        simp only [ofUnits, if_neg carried, if_pos small]
      exact .inl ⟨small, _, fields⟩
    · by_cases finite : q + 1075 < 2047
      · have fields : ofUnits negative m q = ⟨negative, Fin.ofNat 2048 (q + 1075).toNat,
            Fin.ofNat 0x10000000000000 (m - 0x10000000000000)⟩ := by
          simp only [ofUnits, if_neg carried, if_neg small, if_pos finite]
        exact .inr (.inl ⟨_, _, by omega, finite, fields⟩)
      · refine .inr (.inr ?_)
        simp only [ofUnits, if_neg carried, if_neg small, if_neg finite]

theorem ofUnits_exponent_ne_zero (negative : Bool) {m : Nat} {q : Int}
    (large : 0x10000000000000 ≤ m) (h : -1075 < q) : (ofUnits negative m q).exponent.val ≠ 0 := by
  rcases ofUnits_cases negative m q with ⟨small, -⟩ | ⟨e, f, low, high, fields⟩ | infinite
  · omega
  · rw [fields, Fin.val_ofNat]
    omega
  · rw [infinite]
    exact Nat.succ_ne_zero 2046

/-- The sign of zero is lost. -/
theorem ofInt_ne_negative_zero (i : Int) : ofInt i ≠ zero true := by
  by_cases none : i = 0
  · subst none
    intro same
    cases congrArg Binary64.negative same
  · have nonzero : i.natAbs ≠ 0 := by omega
    have large := le_nearestUnits nonzero
    have units : max (log2Ratio i.natAbs 1 - 52) (-1074) = (i.natAbs.log2 : Int) - 52 := by
      rw [log2Ratio_one nonzero]
      omega
    intro same
    rw [ofInt, ofRatio, if_neg (by omega)] at same
    simp only [units] at same
    have above : -1075 < (i.natAbs.log2 : Int) - 52 := by omega
    have exponent := ofUnits_exponent_ne_zero (decide (i < 0)) large above
    rw [same] at exponent
    exact exponent rfl

/-! ## What is no number -/

theorem isNan_of_exponent {x : Binary64} (h : x.exponent.val ≠ 2047) : x.isNan = false := by
  rw [isNan, view, if_neg h]
  split <;> rfl

theorem isNan_ofUnits (negative : Bool) (m : Nat) (q : Int) :
    (ofUnits negative m q).isNan = false := by
  rcases ofUnits_cases negative m q with ⟨-, f, fields⟩ | ⟨e, f, low, high, fields⟩ | infinite
  · rw [fields]
    exact isNan_of_exponent (Nat.succ_ne_zero 2046).symm
  · rw [fields]
    refine isNan_of_exponent ?_
    rw [Fin.val_ofNat]
    omega
  · rw [infinite]
    cases negative <;> rfl

theorem isNan_ofRatio (negative : Bool) (num den : Nat) :
    (ofRatio negative num den).isNan = false := by
  unfold ofRatio
  split
  · rfl
  · exact isNan_ofUnits ..

end Binary64

theorem Extended.isNan_ofDecimal (negative : Bool) (significand : Nat) (exponent : Int) :
    (ofDecimal negative significand exponent).isNan = false := by
  unfold ofDecimal
  split
  · cases negative <;> rfl
  · simp only
    split
    · exact Binary64.isNan_ofRatio ..
    · split
      · cases negative <;> rfl
      · exact Binary64.isNan_ofRatio ..

end RowCheck
