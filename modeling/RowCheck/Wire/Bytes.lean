import RowCheck.Number.Power

/-!
# Fields of binary values

Numbers in the binary form of the server: a fixed number of bytes, the most significant one first,
signed ones in two's complement.
-/

namespace RowCheck.Wire

/-- The number that bytes spell. -/
def natOf (bytes : List UInt8) : Nat := bytes.foldl (fun n b => 256 * n + b.toNat) 0

/-- The bytes of a number; only its lowest `width` bytes are kept. -/
def bytesOf : Nat → Nat → List UInt8
  | 0, _ => []
  | width + 1, n => bytesOf width (n / 256) ++ [.ofNat n]

/-- The number in the `width` bytes from `start` on, if there are as many. -/
def field? (width start : Nat) (raw : List UInt8) : Option Nat :=
  let bytes := (raw.drop start).take width
  if bytes.length = width then some (natOf bytes) else none

theorem length_bytesOf (width n : Nat) : (bytesOf width n).length = width := by
  induction width generalizing n with
  | zero => rfl
  | succ w ih => simp [bytesOf, ih]

theorem natOf_append_singleton (bytes : List UInt8) (b : UInt8) :
    natOf (bytes ++ [b]) = 256 * natOf bytes + b.toNat := by
  simp [natOf]

/-- A number is read back from its bytes, up to their width. -/
theorem natOf_bytesOf (width n : Nat) : natOf (bytesOf width n) = n % pow2 (8 * width) := by
  induction width generalizing n with
  | zero => simp [bytesOf, natOf, Nat.mod_one]
  | succ w ih =>
    have byte : pow2 (8 * (w + 1)) = 256 * pow2 (8 * w) := by
      rw [Nat.mul_succ, Nat.add_comm, pow2_add]
      rfl
    rw [bytesOf, natOf_append_singleton, ih, byte, Nat.mod_mul]
    simp
    omega

/-- A field can be read exactly when its last byte is there. -/
theorem field?_isSome_iff {width start : Nat} {raw : List UInt8} (h : 0 < width) :
    (field? width start raw).isSome = true ↔ start + width ≤ raw.length := by
  simp only [field?]
  split
  · next hl =>
    simp only [List.length_take, List.length_drop] at hl
    simp; omega
  · next hl =>
    simp only [List.length_take, List.length_drop] at hl
    simp; omega

end RowCheck.Wire
