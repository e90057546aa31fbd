/-!
# UTF-8

Texts as bytes and back. Reading names the first place that is not UTF-8: how many bytes before it
are sound, and how many bytes the fault takes, unless the input ends inside a character.
-/

namespace RowCheck.Text.Utf8

/-- Why bytes are not UTF-8. -/
structure Fault where
  /-- Number of sound bytes before the fault. -/
  validUpTo : Nat
  /-- Number of bytes the fault takes; nothing when the input ends inside a character. -/
  length? : Option Nat
  deriving DecidableEq, Repr

/-- The bytes of a code point. -/
def encodeNat (n : Nat) : List UInt8 :=
  if n < 0x80 then [.ofNat n]
  else if n < 0x800 then [.ofNat (0xC0 + n / 0x40), .ofNat (0x80 + n % 0x40)]
  else if n < 0x10000 then
    [.ofNat (0xE0 + n / 0x1000), .ofNat (0x80 + n / 0x40 % 0x40), .ofNat (0x80 + n % 0x40)]
  else
    [.ofNat (0xF0 + n / 0x40000), .ofNat (0x80 + n / 0x1000 % 0x40),
      .ofNat (0x80 + n / 0x40 % 0x40), .ofNat (0x80 + n % 0x40)]

/-- The bytes of a text. -/
def encode (s : List Char) : List UInt8 := s.flatMap fun c => encodeNat c.toNat

/-- Bytes that continue a character. -/
def isTail (b : UInt8) : Bool := decide (0x80 ≤ b.toNat ∧ b.toNat ≤ 0xBF)

/-- The second bytes that may follow `a`, the first of three or four. -/
def isSecond (a b : UInt8) : Bool :=
  let b := b.toNat
  match a.toNat with
  | 0xE0 => decide (0xA0 ≤ b ∧ b ≤ 0xBF)
  | 0xED => decide (0x80 ≤ b ∧ b ≤ 0x9F)
  | 0xF0 => decide (0x90 ≤ b ∧ b ≤ 0xBF)
  | 0xF4 => decide (0x80 ≤ b ∧ b ≤ 0x8F)
  | _ => decide (0x80 ≤ b ∧ b ≤ 0xBF)

/-- The last six bits of a continuing byte. -/
def payload (b : UInt8) : Nat := b.toNat % 0x40

/-- Reads a text whose first byte stands at `pos`. -/
def decodeFrom (pos : Nat) : List UInt8 → Except Fault (List Char)
  | [] => .ok []
  | a :: r =>
    if a.toNat < 0x80 then (decodeFrom (pos + 1) r).map (Char.ofNat a.toNat :: ·)
    else if a.toNat < 0xC2 ∨ 0xF4 < a.toNat then .error ⟨pos, some 1⟩
    else if a.toNat < 0xE0 then
      match r with
      | [] => .error ⟨pos, none⟩
      | b :: r =>
        if isTail b then
          (decodeFrom (pos + 2) r).map (Char.ofNat (a.toNat % 0x20 * 0x40 + payload b) :: ·)
        else .error ⟨pos, some 1⟩
    else if a.toNat < 0xF0 then
      match r with
      | [] => .error ⟨pos, none⟩
      | b :: r =>
        if isSecond a b then
          match r with
          | [] => .error ⟨pos, none⟩
          | c :: r =>
            if isTail c then
              (decodeFrom (pos + 3) r).map
                (Char.ofNat (a.toNat % 0x10 * 0x1000 + payload b * 0x40 + payload c) :: ·)
            else .error ⟨pos, some 2⟩
        else .error ⟨pos, some 1⟩
    else
      match r with
      | [] => .error ⟨pos, none⟩
      | b :: r =>
        if isSecond a b then
          match r with
          | [] => .error ⟨pos, none⟩
          | c :: r =>
            if isTail c then
              match r with
              | [] => .error ⟨pos, none⟩
              | d :: r =>
                if isTail d then
                  (decodeFrom (pos + 4) r).map
                    (Char.ofNat (a.toNat % 8 * 0x40000 + payload b * 0x1000 + payload c * 0x40
                      + payload d) :: ·)
                else .error ⟨pos, some 3⟩
            else .error ⟨pos, some 2⟩
        else .error ⟨pos, some 1⟩

/-- Reads a text from its bytes. -/
def decode (bytes : List UInt8) : Except Fault (List Char) := decodeFrom 0 bytes

/-- The fault in words. -/
def Fault.message (f : Fault) : String :=
  match f.length? with
  | some n => s!"invalid utf-8 sequence of {n} bytes from index {f.validUpTo}"
  | none => s!"incomplete utf-8 byte sequence from index {f.validUpTo}"

/-- The fault as the record it is reported in. -/
def Fault.record (f : Fault) : String :=
  let length := f.length?.elim "None" fun n => s!"Some({n})"
  s!"Utf8Error \x7b valid_up_to: {f.validUpTo}, error_len: {length} \x7d"

/-- The bytes of a string. -/
def ofString (s : String) : List UInt8 := encode s.toList

/-- The string that bytes spell, if they are UTF-8. -/
def toString (bytes : List UInt8) : Except Fault String := (decode bytes).map String.ofList

private theorem payload_tail (k : Nat) (h : k < 0x40) :
    isTail (.ofNat (0x80 + k)) = true ∧ payload (.ofNat (0x80 + k)) = k := by
  have e : (UInt8.ofNat (0x80 + k)).toNat = 0x80 + k := by simp; omega
  simp only [isTail, payload, e, decide_eq_true_eq]
  omega

/-- What was written is read back. -/
theorem decodeFrom_encode (pos : Nat) (s : List Char) : decodeFrom pos (encode s) = .ok s := by
  induction s generalizing pos with
  | nil => rfl
  | cons c s ih =>
    have hv : c.toNat < 0xD800 ∨ (0xDFFF < c.toNat ∧ c.toNat < 0x110000) := c.valid
    have hc : Char.ofNat c.toNat = c := Char.ofNat_toNat c
    have hs : encode (c :: s) = encodeNat c.toNat ++ encode s := by simp [encode]
    rw [hs]
    generalize c.toNat = n at hv hc
    unfold encodeNat
    split
    · next h =>
      have e : (UInt8.ofNat n).toNat = n := by simp; omega
      rw [List.cons_append, List.nil_append, decodeFrom.eq_def]
      simp [e, h, ih, hc, Except.map]
    · split
      · next h₁ h =>
        have e : (UInt8.ofNat (0xC0 + n / 0x40)).toNat = 0xC0 + n / 0x40 := by simp; omega
        obtain ⟨t, p⟩ := payload_tail (n % 0x40) (Nat.mod_lt _ (by omega))
        have hn : (0xC0 + n / 0x40) % 0x20 * 0x40 + n % 0x40 = n := by omega
        rw [List.cons_append, List.cons_append, List.nil_append, decodeFrom.eq_def]
        simp only [e, t, p, hn, if_true]
        rw [if_neg (by omega), if_neg (by omega), if_pos (by omega)]
        simp [ih, hc, Except.map]
      · split
        · next h₁ h₂ h =>
          have e : (UInt8.ofNat (0xE0 + n / 0x1000)).toNat = 0xE0 + n / 0x1000 := by simp; omega
          have hb : n / 0x40 % 0x40 < 0x40 := Nat.mod_lt _ (by omega)
          obtain ⟨-, p⟩ := payload_tail (n / 0x40 % 0x40) hb
          obtain ⟨t, p'⟩ := payload_tail (n % 0x40) (Nat.mod_lt _ (by omega))
          have eb : (UInt8.ofNat (0x80 + n / 0x40 % 0x40)).toNat = 0x80 + n / 0x40 % 0x40 := by
            simp; omega
          have hsec : isSecond (.ofNat (0xE0 + n / 0x1000)) (.ofNat (0x80 + n / 0x40 % 0x40)) = true := by
            unfold isSecond
            simp only [e, eb]
            split <;> simp only [decide_eq_true_eq] <;> omega
          have hn : (0xE0 + n / 0x1000) % 0x10 * 0x1000 + n / 0x40 % 0x40 * 0x40 + n % 0x40 = n := by
            omega
          simp only [List.cons_append, List.nil_append]
          rw [decodeFrom.eq_def]
          simp only [e, hsec, t, p, p', hn, if_true]
          rw [if_neg (by omega), if_neg (by omega), if_neg (by omega), if_pos (by omega)]
          simp [ih, hc, Except.map]
        · next h₁ h₂ h₃ =>
          have e : (UInt8.ofNat (0xF0 + n / 0x40000)).toNat = 0xF0 + n / 0x40000 := by simp; omega
          obtain ⟨-, p⟩ := payload_tail (n / 0x1000 % 0x40) (Nat.mod_lt _ (by omega))
          obtain ⟨t₁, p₁⟩ := payload_tail (n / 0x40 % 0x40) (Nat.mod_lt _ (by omega))
          obtain ⟨t₂, p₂⟩ := payload_tail (n % 0x40) (Nat.mod_lt _ (by omega))
          have eb : (UInt8.ofNat (0x80 + n / 0x1000 % 0x40)).toNat = 0x80 + n / 0x1000 % 0x40 := by
            simp; omega
          have hsec : isSecond (.ofNat (0xF0 + n / 0x40000)) (.ofNat (0x80 + n / 0x1000 % 0x40)) = true := by
            unfold isSecond
            simp only [e, eb]
            split <;> simp only [decide_eq_true_eq] <;> omega
          have hn : (0xF0 + n / 0x40000) % 8 * 0x40000 + n / 0x1000 % 0x40 * 0x1000
              + n / 0x40 % 0x40 * 0x40 + n % 0x40 = n := by omega
          simp only [List.cons_append, List.nil_append]
          rw [decodeFrom.eq_def]
          simp only [e, hsec, t₁, t₂, p, p₁, p₂, hn, if_true]
          rw [if_neg (by omega), if_neg (by omega), if_neg (by omega), if_neg (by omega)]
          simp [ih, hc, Except.map]

/-- What was written is read back. -/
theorem decode_encode (s : List Char) : decode (encode s) = .ok s := decodeFrom_encode 0 s

end RowCheck.Text.Utf8
