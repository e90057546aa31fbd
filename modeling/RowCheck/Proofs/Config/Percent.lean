import RowCheck.Config.Percent

/-!
# Percent encoding read back

An encoded text consists of percent signs and of ASCII letters and digits alone, so that it cannot
hold any of the signs that separate the parts of an address. Main statement: decoding gives back
the text that was encoded.
-/

namespace RowCheck.Config.Percent

/-- The characters of encoded texts. -/
def isUnreserved (c : Char) : Bool := c == '%' || c.isAlphanum

theorem hexDigit_unreserved {n : Nat} (h : n < 16) : isUnreserved (Text.hexDigit n) = true := by
  have all : ∀ k : Fin 16, isUnreserved (Text.hexDigit k) = true := by decide
  exact all ⟨n, h⟩

theorem hexValue_hexDigit {n : Nat} (h : n < 16) :
    hexValue (.ofNat (Text.hexDigit n).toNat) = some n := by
  have all : ∀ k : Fin 16, hexValue (.ofNat (Text.hexDigit k).toNat) = some k.val := by decide
  exact all ⟨n, h⟩

/-- A byte that stands for itself is that of an ASCII letter or digit. -/
theorem isPlain_unreserved {b : UInt8} (h : isPlain b = true) :
    isUnreserved (Char.ofNat b.toNat) = true ∧ (Char.ofNat b.toNat).toNat = b.toNat := by
  have all : ∀ k : Fin 128, isPlain (.ofNat k) = true →
      isUnreserved (Char.ofNat k) = true ∧ (Char.ofNat k).toNat = k.val := by decide
  have small : b.toNat < 128 := by
    simp only [isPlain, Bool.or_eq_true, Bool.and_eq_true, decide_eq_true_eq] at h
    omega
  have same : UInt8.ofNat b.toNat = b := UInt8.ofNat_toNat
  exact all ⟨b.toNat, small⟩ (by rw [same]; exact h)

theorem encodeByte_unreserved (b : UInt8) {c : Char} (hc : c ∈ encodeByte b) :
    isUnreserved c = true := by
  have := b.toNat_lt
  unfold encodeByte at hc
  split at hc
  · next plain =>
    rw [List.mem_singleton.mp hc]
    exact (isPlain_unreserved plain).1
  · simp only [List.mem_cons, List.not_mem_nil, or_false] at hc
    rcases hc with rfl | rfl | rfl
    · rfl
    · exact hexDigit_unreserved (by omega)
    · exact hexDigit_unreserved (by omega)

theorem encode_unreserved (s : List Char) {c : Char} (hc : c ∈ encode s) :
    isUnreserved c = true := by
  obtain ⟨b, -, hb⟩ := List.mem_flatMap.mp hc
  exact encodeByte_unreserved b hb

/-- A sign that is neither a percent sign nor a letter nor a digit is in no encoded text. -/
theorem not_mem_encode {c : Char} (s : List Char) (hc : isUnreserved c = false) :
    c ∉ encode s := by
  intro mem
  rw [encode_unreserved s mem] at hc
  cases hc

theorem toNat_lt_of_unreserved {c : Char} (hc : isUnreserved c = true) : c.toNat < 0x80 := by
  unfold isUnreserved Char.isAlphanum Char.isAlpha Char.isUpper Char.isLower Char.isDigit at hc
  simp only [Bool.or_eq_true, beq_iff_eq, decide_eq_true_eq, Bool.and_eq_true] at hc
  rcases hc with rfl | (⟨-, hc⟩ | ⟨-, hc⟩) | ⟨-, hc⟩
  · decide
  all_goals exact Nat.lt_of_le_of_lt (UInt32.le_iff_toNat_le.mp hc) (by decide)

/-- ASCII characters are one byte each. -/
theorem utf8_encode_ascii {s : List Char} (h : ∀ c ∈ s, c.toNat < 0x80) :
    Text.Utf8.encode s = s.map fun c => .ofNat c.toNat := by
  induction s with
  | nil => rfl
  | cons c s ih =>
    have front : Text.Utf8.encodeNat c.toNat = [.ofNat c.toNat] := by
      rw [Text.Utf8.encodeNat, if_pos (h c List.mem_cons_self)]
    have back := ih fun d hd => h d (List.mem_cons_of_mem c hd)
    rw [Text.Utf8.encode, List.flatMap_cons, front, ← Text.Utf8.encode, back]
    rfl

theorem decodeBytes_cons {a : UInt8} (h : a ≠ 0x25) (r : List UInt8) :
    decodeBytes (a :: r) = a :: decodeBytes r := by
  match r with
  | [] => rfl
  | [_] => rfl
  | _ :: _ :: _ => rw [decodeBytes, if_neg h]

theorem decodeBytes_escape {b c : UInt8} {h l : Nat} (hb : hexValue b = some h)
    (hc : hexValue c = some l) (r : List UInt8) :
    decodeBytes (0x25 :: b :: c :: r) = .ofNat (16 * h + l) :: decodeBytes r := by
  rw [decodeBytes, if_pos rfl, hb, hc]

/-- One encoded byte at the front is read back. -/
theorem decodeBytes_encodeByte (b : UInt8) (r : List UInt8) :
    decodeBytes (((encodeByte b).map fun c => .ofNat c.toNat) ++ r) = b :: decodeBytes r := by
  have := b.toNat_lt
  unfold encodeByte
  split
  · next plain =>
    have ne : b ≠ 0x25 := by
      rintro rfl
      exact absurd plain (by decide)
    rw [List.map_cons, (isPlain_unreserved plain).2, UInt8.ofNat_toNat]
    exact decodeBytes_cons ne r
  · have whole : 16 * (b.toNat / 16) + b.toNat % 16 = b.toNat := Nat.div_add_mod ..
    have back := decodeBytes_escape (hexValue_hexDigit (n := b.toNat / 16) (by omega))
      (hexValue_hexDigit (n := b.toNat % 16) (by omega)) r
    rw [whole, UInt8.ofNat_toNat] at back
    exact back

theorem decodeBytes_flatMap_encodeByte (bytes : List UInt8) :
    decodeBytes ((bytes.flatMap encodeByte).map fun c => .ofNat c.toNat) = bytes := by
  induction bytes with
  | nil => rfl
  | cons b bytes ih => rw [List.flatMap_cons, List.map_append, decodeBytes_encodeByte, ih]

/-- What was encoded is decoded again. -/
theorem decode?_encode (s : List Char) : decode? (encode s) = some s := by
  have ascii : ∀ c ∈ encode s, c.toNat < 0x80 := fun c hc =>
    toNat_lt_of_unreserved (encode_unreserved s hc)
  rw [decode?, utf8_encode_ascii ascii, encode, decodeBytes_flatMap_encodeByte,
    Text.Utf8.decode_encode]
  rfl

end RowCheck.Config.Percent
