import RowCheck.Wire.Value

/-!
# Reading fields back

A field that was written between other bytes is read back from its place, and a signed number from
the field of its two's complement.
-/

namespace RowCheck.Wire

/-- A field is read back from where it was written. -/
@[simp]
theorem field?_bytesOf (width n : Nat) (rest : List UInt8) :
    field? width 0 (bytesOf width n ++ rest) = some (n % pow2 (8 * width)) := by
  have taken : (bytesOf width n ++ rest).take width = bytesOf width n :=
    List.take_left' (length_bytesOf width n)
  rw [field?, List.drop_zero, taken, length_bytesOf, natOf_bytesOf]
  simp

theorem field?_bytesOf_nil (width n : Nat) :
    field? width 0 (bytesOf width n) = some (n % pow2 (8 * width)) := by
  rw [← List.append_nil (bytesOf width n)]
  exact field?_bytesOf width n []

theorem exactly_bytesOf {width n : Nat} (h : n < pow2 (8 * width)) (overlong : String) :
    exactly width overlong (bytesOf width n) = .ok n := by
  rw [exactly, field?_bytesOf_nil, Nat.mod_eq_of_lt h]
  exact if_pos (length_bytesOf width n)

/-- Bytes in front of a field only move it. -/
theorem field?_append {width start : Nat} {front rest : List UInt8} (h : front.length ≤ start) :
    field? width start (front ++ rest) = field? width (start - front.length) rest := by
  have dropped : (front ++ rest).drop start = rest.drop (start - front.length) := by
    rw [List.drop_append, List.drop_of_length_le h, List.nil_append]
  rw [field?, field?, dropped]

theorem field?_bytesOf_append {width start k m : Nat} {rest : List UInt8} (h : k ≤ start) :
    field? width start (bytesOf k m ++ rest) = field? width (start - k) rest := by
  rw [field?_append (by rwa [length_bytesOf]), length_bytesOf]

/-- A field in a row of fields of one width. -/
theorem field?_flatMap {width i : Nat} {ns : List Nat} (h : i < ns.length) :
    field? width (width * i) (ns.flatMap (bytesOf width)) = some (ns[i] % pow2 (8 * width)) := by
  induction ns generalizing i with
  | nil => simp at h
  | cons n ns ih =>
    rw [List.flatMap_cons]
    cases i with
    | zero => exact field?_bytesOf width n _
    | succ i =>
      have shorter : i < ns.length := by simpa using h
      have less : width * (i + 1) - width = width * i := by
        rw [Nat.mul_succ]
        omega
      rw [field?_bytesOf_append (Nat.le_mul_of_pos_right width (by omega)), less, ih shorter]
      rfl

/-- Items that are found one by one at their indices are found all together. -/
theorem mapM_range_eq_some {α : Type} {f : Nat → Option α} {items : List α}
    (h : ∀ i (hi : i < items.length), f i = some items[i]) :
    (List.range items.length).mapM f = some items := by
  induction items generalizing f with
  | nil => rfl
  | cons x xs ih =>
    have first : f 0 = some x := h 0 (by simp)
    have others : (List.range xs.length).mapM (f ∘ Nat.succ) = some xs := by
      apply ih
      intro i hi
      exact h (i + 1) (by simpa using hi)
    rw [List.length_cons, List.range_succ_eq_map, List.mapM_cons, List.mapM_map, first, others]
    rfl

@[simp]
theorem int16_ofNat_toNat (i : Int16) : Int16.ofNat i.toUInt16.toNat = i := by
  apply Int16.toBitVec.inj
  simp

@[simp]
theorem int32_ofNat_toNat (i : Int32) : Int32.ofNat i.toUInt32.toNat = i := by
  apply Int32.toBitVec.inj
  simp

@[simp]
theorem int64_ofNat_toNat (i : Int64) : Int64.ofNat i.toUInt64.toNat = i := by
  apply Int64.toBitVec.inj
  simp

end RowCheck.Wire
