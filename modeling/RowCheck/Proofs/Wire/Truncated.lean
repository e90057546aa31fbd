import RowCheck.Proofs.Except
import RowCheck.Proofs.Wire.Bytes
import Mathlib.Data.List.Induction

/-!
# Truncated values

How many bytes of a value are looked at by the readers that take decimal numbers, intervals and
times apart. All of them go through `field?`, which gives nothing unless the whole field is there.
For a decimal number the number of bytes stands in the value itself. Main statement: a value is
refused exactly if it is shorter than that, and what follows does not count, so nothing is read of a
value that was cut off.
-/

namespace RowCheck.Wire

/-! ## Fields -/

/-- The number that a field spells with those of its bytes that are there. -/
def fieldOf (width start : Nat) (raw : List UInt8) : Nat := natOf ((raw.drop start).take width)

variable {raw raw' : List UInt8} {width start stop : Nat}

theorem field?_of_fits (fits : start + width ≤ raw.length) :
    field? width start raw = some (fieldOf width start raw) := by
  rw [field?]
  apply if_pos
  rw [List.length_take, List.length_drop]
  omega

theorem field?_eq_none_iff (pos : 0 < width) :
    field? width start raw = none ↔ raw.length < start + width := by
  rw [← Option.not_isSome_iff_eq_none, field?_isSome_iff pos, Nat.not_le]

theorem natOf_lt {bytes : List UInt8} (short : bytes.length ≤ width) :
    natOf bytes < pow2 (8 * width) := by
  induction bytes using List.reverseRecOn generalizing width with
  | nil => exact pow2_pos _
  | append_singleton bytes b ih =>
    rw [List.length_append, List.length_singleton] at short
    obtain ⟨w, rfl⟩ := Nat.exists_eq_add_of_le' (Nat.le_of_add_left_le short)
    have front := ih (Nat.le_of_add_le_add_right short)
    have last := b.toNat_lt
    rw [natOf_append_singleton, Nat.mul_add, pow2_add, show pow2 (8 * 1) = 256 from rfl]
    omega

theorem fieldOf_lt (width start : Nat) (raw : List UInt8) :
    fieldOf width start raw < pow2 (8 * width) :=
  natOf_lt (List.length_take_le width _)

/-- A field depends on nothing behind it. -/
theorem fieldOf_congr (same : raw'.take stop = raw.take stop) (inside : start + width ≤ stop) :
    fieldOf width start raw' = fieldOf width start raw := by
  have front (bytes : List UInt8) :
      (bytes.drop start).take width = ((bytes.take stop).drop start).take width := by
    rw [List.drop_take, List.take_take, Nat.min_eq_left (by omega)]
  rw [fieldOf, fieldOf, front raw', front raw, same]

/-! ## Readers of a front -/

/-- That a reader takes the front of a value whose size the front itself says: it gives something
exactly if all of the front is there, and this does not depend on what follows. -/
structure TakesFront {α : Type} (read? : List UInt8 → Option α) (size : List UInt8 → Nat) :
    Prop where
  isSome_iff : ∀ raw, (read? raw).isSome = true ↔ size raw ≤ raw.length
  congr : ∀ {raw raw' : List UInt8}, size raw ≤ raw.length →
    raw'.take (size raw) = raw.take (size raw) → size raw' = size raw ∧ read? raw' = read? raw

namespace TakesFront

variable {α : Type} {read? : List UInt8 → Option α} {size : List UInt8 → Nat}

/-- A reader that gives something made of the front, and nothing without it. -/
theorem of_reads (made : List UInt8 → α)
    (reads : ∀ raw, size raw ≤ raw.length → read? raw = some (made raw))
    (refuses : ∀ raw, raw.length < size raw → read? raw = none)
    (congr : ∀ raw raw', raw'.take (size raw) = raw.take (size raw) → size raw ≤ raw.length →
      size raw' = size raw ∧ made raw' = made raw) : TakesFront read? size where
  isSome_iff raw := by
    by_cases fits : size raw ≤ raw.length
    · simp [reads raw fits, fits]
    · simp [refuses raw (Nat.lt_of_not_le fits), fits]
  congr {raw raw'} fits same := by
    obtain ⟨size_eq, made_eq⟩ := congr raw raw' same fits
    have lengths := congrArg List.length same
    rw [List.length_take, List.length_take] at lengths
    refine ⟨size_eq, ?_⟩
    rw [reads raw fits, reads raw' (by omega), made_eq]

theorem eq_none_iff (h : TakesFront read? size) : read? raw = none ↔ raw.length < size raw := by
  rw [← Option.not_isSome_iff_eq_none, h.isSome_iff, Nat.not_le]

/-- A value that is nothing but its front cannot be cut off. -/
theorem eq_none_of_prefix (h : TakesFront read? size) (whole : raw.length = size raw)
    {short : List UInt8} (front : short <+: raw) (proper : short ≠ raw) : read? short = none := by
  have less : short.length < raw.length := by
    apply Nat.lt_of_le_of_ne front.length_le
    intro same
    exact proper (front.eq_of_length same)
  rw [h.eq_none_iff]
  by_contra long
  -- What was cut off would be read as the whole value, which is longer.
  have fits : size short ≤ short.length := by omega
  have same : raw.take (size short) = short.take (size short) := by
    obtain ⟨rest, rfl⟩ := front
    exact List.take_append_of_le_length fits
  obtain ⟨size_eq, -⟩ := h.congr fits same
  omega

/-- What is read can be changed behind the reader. -/
theorem map {β : Type} (h : TakesFront read? size) (f : α → β) :
    TakesFront (fun raw => (read? raw).map f) size where
  isSome_iff raw := by rw [Option.isSome_map, h.isSome_iff]
  congr fits same := by
    obtain ⟨size_eq, read_eq⟩ := h.congr fits same
    exact ⟨size_eq, congrArg (Option.map f) read_eq⟩

end TakesFront

/-! ## Times and intervals -/

theorem takesFront_readTime? : TakesFront readTime? fun _ => 8 := by
  apply TakesFront.of_reads fun raw => clockChars (Int64.ofNat (fieldOf 8 0 raw)).toInt.natAbs
  · intro raw fits
    rw [readTime?, field?_of_fits (by omega)]
    rfl
  · intro raw short
    rw [readTime?, (field?_eq_none_iff (by decide)).mpr (by omega)]
    rfl
  · intro raw raw' same _
    rw [fieldOf_congr same (by decide)]
    exact ⟨rfl, rfl⟩

theorem takesFront_readTimeTz? : TakesFront readTimeTz? fun _ => 12 := by
  apply TakesFront.of_reads fun raw => clockChars (Int64.ofNat (fieldOf 8 0 raw)).toInt.natAbs
    ++ zoneChars (.ofNat (fieldOf 4 8 raw))
  · intro raw fits
    rw [readTimeTz?, field?_of_fits (by omega), field?_of_fits (by omega)]
    rfl
  · intro raw short
    have zone : field? 4 8 raw = none := (field?_eq_none_iff (by decide)).mpr (by omega)
    simp [readTimeTz?, zone]
  · intro raw raw' same _
    rw [fieldOf_congr same (by decide), fieldOf_congr same (by decide)]
    exact ⟨rfl, rfl⟩

theorem takesFront_interval : TakesFront Interval.read? fun _ => 16 := by
  apply TakesFront.of_reads fun raw =>
    ⟨.ofNat (fieldOf 8 0 raw), .ofNat (fieldOf 4 8 raw), .ofNat (fieldOf 4 12 raw)⟩
  · intro raw fits
    rw [Interval.read?, field?_of_fits (by omega), field?_of_fits (by omega),
      field?_of_fits (by omega)]
    rfl
  · intro raw short
    have months : field? 4 12 raw = none := (field?_eq_none_iff (by decide)).mpr (by omega)
    simp [Interval.read?, months]
  · intro raw raw' same _
    rw [fieldOf_congr same (by decide), fieldOf_congr same (by decide),
      fieldOf_congr same (by decide)]
    exact ⟨rfl, rfl⟩

/-! ## Decimal numbers -/

namespace Numeric

/-- The sign words of values that are no finite numbers, behind which no groups are read. -/
def specialSigns : List Nat := [0xC000, 0xD000, 0xF000]

/-- The size of a number: a header, and the groups that it announces for a finite number. -/
def size (raw : List UInt8) : Nat :=
  if fieldOf 2 4 raw ∈ specialSigns then 8 else 8 + 2 * fieldOf 2 0 raw

/-- The groups that a header announces. -/
def groupsOf (raw : List UInt8) : List Nat :=
  (List.range (fieldOf 2 0 raw)).map fun i => fieldOf 2 (8 + 2 * i) raw

/-- The number that stands in the front of a value. -/
def ofFront (raw : List UInt8) : Numeric :=
  if fieldOf 2 4 raw = 0xC000 then .nan
  else if fieldOf 2 4 raw = 0xD000 then .infinity false
  else if fieldOf 2 4 raw = 0xF000 then .infinity true
  else .finite (fieldOf 2 4 raw == 0x4000) (groupsOf raw) (.ofNat (fieldOf 2 2 raw))
    (fieldOf 2 6 raw)

theorem header_le_size (raw : List UInt8) : 8 ≤ size raw := by
  rw [size]
  split <;> omega

theorem size_le (raw : List UInt8) : size raw ≤ 8 + 2 * fieldOf 2 0 raw := by
  rw [size]
  split <;> omega

theorem mem_specialSigns_iff {sign : Nat} :
    sign ∈ specialSigns ↔ sign = 0xC000 ∨ sign = 0xD000 ∨ sign = 0xF000 := by
  simp [specialSigns]

theorem read?_of_fits (fits : size raw ≤ raw.length) : read? raw = some (ofFront raw) := by
  have header := header_le_size raw
  rw [read?, field?_of_fits (by omega), field?_of_fits (by omega), field?_of_fits (by omega),
    field?_of_fits (by omega), ofFront]
  simp only [Option.bind_eq_bind, Option.bind_some, Option.pure_def]
  by_cases special : fieldOf 2 4 raw ∈ specialSigns
  · rcases mem_specialSigns_iff.mp special with sign | sign | sign <;> simp [sign]
  · rw [mem_specialSigns_iff, not_or, not_or] at special
    obtain ⟨nan, positive, negative⟩ := special
    have all : (List.range (fieldOf 2 0 raw)).mapM (fun i => field? 2 (8 + 2 * i) raw)
        = some (groupsOf raw) := by
      have length : (groupsOf raw).length = fieldOf 2 0 raw := by simp [groupsOf]
      rw [← length]
      apply mapM_range_eq_some
      intro i inside
      rw [size, if_neg (by simp [mem_specialSigns_iff, nan, positive, negative])] at fits
      rw [field?_of_fits (by omega)]
      simp [groupsOf]
    simp only [if_neg nan, if_neg positive, if_neg negative, all, Option.bind_some]

theorem read?_of_short (short : raw.length < size raw) : read? raw = none := by
  by_cases header : 8 ≤ raw.length
  · -- All of the header is there, so a group is missing.
    have finite : fieldOf 2 4 raw ∉ specialSigns := by
      intro special
      rw [size, if_pos special] at short
      omega
    rw [size, if_neg finite] at short
    have missing : (List.range (fieldOf 2 0 raw)).mapM (fun i => field? 2 (8 + 2 * i) raw)
        = none := by
      rw [← Option.not_isSome_iff_eq_none, Option.isSome_iff_exists, exists_mapM_eq_some]
      intro all
      have last := all (fieldOf 2 0 raw - 1) (List.mem_range.mpr (by omega))
      rw [field?_isSome_iff (by decide)] at last
      omega
    rw [mem_specialSigns_iff, not_or, not_or] at finite
    obtain ⟨nan, positive, negative⟩ := finite
    rw [read?, field?_of_fits (by omega), field?_of_fits (by omega), field?_of_fits (by omega),
      field?_of_fits (by omega)]
    simp [nan, positive, negative, missing]
  · have scale : field? 2 6 raw = none := (field?_eq_none_iff (by decide)).mpr (by omega)
    simp [read?, scale]

theorem size_congr (same : raw'.take (size raw) = raw.take (size raw)) :
    size raw' = size raw ∧ ofFront raw' = ofFront raw := by
  have header := header_le_size raw
  have sign : fieldOf 2 4 raw' = fieldOf 2 4 raw := fieldOf_congr same (by omega)
  have count : fieldOf 2 0 raw' = fieldOf 2 0 raw := fieldOf_congr same (by omega)
  have weight : fieldOf 2 2 raw' = fieldOf 2 2 raw := fieldOf_congr same (by omega)
  have scale : fieldOf 2 6 raw' = fieldOf 2 6 raw := fieldOf_congr same (by omega)
  refine ⟨by rw [size, size, sign, count], ?_⟩
  rw [ofFront, ofFront, sign, weight, scale]
  by_cases special : fieldOf 2 4 raw ∈ specialSigns
  · rcases mem_specialSigns_iff.mp special with sign | sign | sign <;> simp [sign]
  · have groups : groupsOf raw' = groupsOf raw := by
      rw [groupsOf, groupsOf, count]
      apply List.map_congr_left
      intro i inside
      have inside := List.mem_range.mp inside
      apply fieldOf_congr same
      rw [size, if_neg special]
      omega
    rw [groups]

theorem takesFront_read? : TakesFront read? size :=
  .of_reads ofFront (fun _ => read?_of_fits) (fun _ => read?_of_short)
    fun _ _ same _ => size_congr same

end Numeric

/-! ## The readers of columns -/

/-- The types whose values are taken apart field by field. -/
inductive Fielded where
  | numeric
  | interval
  | time
  | timeTz

namespace Fielded

/-- The type as one of a column. -/
def type : Fielded → ColumnType
  | .numeric => .numeric
  | .interval => .interval
  | .time => .time
  | .timeTz => .timeTz

/-- How many bytes of a value are looked at. -/
def size : Fielded → List UInt8 → Nat
  | .numeric => Numeric.size
  | .interval => fun _ => 16
  | .time => fun _ => 8
  | .timeTz => fun _ => 12

/-- The text of a value. -/
def chars? : Fielded → List UInt8 → Option (List Char)
  | .numeric => fun raw => (Numeric.read? raw).map Numeric.chars
  | .interval => fun raw => (Interval.read? raw).map Interval.chars
  | .time => readTime?
  | .timeTz => readTimeTz?

/-- The cell of a text. -/
def cell : Fielded → String → Cell
  | .numeric | .interval => .text
  | .time | .timeTz => .dateTime

theorem reader_eq (t : Fielded) (raw : List UInt8) :
    reader t.type raw = own t.cell (t.chars? raw) := by
  cases t <;> rfl

theorem takesFront (t : Fielded) : TakesFront t.chars? t.size := by
  cases t with
  | numeric => exact Numeric.takesFront_read?.map Numeric.chars
  | interval => exact takesFront_interval.map Interval.chars
  | time => exact takesFront_readTime?
  | timeTz => exact takesFront_readTimeTz?

end Fielded

/-- The refusal of a value that was cut off. -/
def tooShort : Decoded Cell := .error (.described "value shorter than its wire format")

theorem own_eq_tooShort_iff {cell : String → Cell} {read : Option (List Char)} :
    own cell read = tooShort ↔ read = none := by
  cases read with
  | none => simp [own, tooShort]
  | some text => simp [own, tooShort]

theorem reader_eq_tooShort_iff (t : Fielded) (raw : List UInt8) :
    reader t.type raw = tooShort ↔ raw.length < t.size raw := by
  rw [t.reader_eq, own_eq_tooShort_iff, t.takesFront.eq_none_iff]

/-- What is long enough is read. -/
theorem exists_reader_eq_ok (t : Fielded) {raw : List UInt8} (fits : t.size raw ≤ raw.length) :
    ∃ text, reader t.type raw = .ok (t.cell text) := by
  obtain ⟨text, read⟩ := Option.isSome_iff_exists.mp ((t.takesFront.isSome_iff raw).mpr fits)
  refine ⟨String.ofList text, ?_⟩
  rw [t.reader_eq, read]
  rfl

/-- The values that are cut off are exactly those that are refused. A field is read exactly if all
its bytes are there. A decimal number is refused if its header is not whole, or if it is finite and
one of the groups that it announces is not whole; an interval needs 16 bytes, a time 8, and one with
a zone 12. Whatever is long enough is read, what follows does not count, and of a value without
surplus bytes nothing can be cut off. -/
theorem refused_iff_truncated :
    (∀ width start raw, 0 < width →
      ((field? width start raw).isSome = true ↔ start + width ≤ raw.length)) ∧
    (∀ raw, reader .numeric raw = tooShort ↔ raw.length < 8 ∨
      fieldOf 2 4 raw ∉ [0xC000, 0xD000, 0xF000] ∧ raw.length < 8 + 2 * fieldOf 2 0 raw) ∧
    (∀ raw, reader .interval raw = tooShort ↔ raw.length < 16) ∧
    (∀ raw, reader .time raw = tooShort ↔ raw.length < 8) ∧
    (∀ raw, reader .timeTz raw = tooShort ↔ raw.length < 12) ∧
    ∀ (t : Fielded) (raw : List UInt8), t.size raw ≤ raw.length →
      (∃ text, reader t.type raw = .ok (t.cell text)) ∧
      (∀ raw', raw'.take (t.size raw) = raw.take (t.size raw) →
        reader t.type raw' = reader t.type raw) ∧
      (raw.length = t.size raw →
        ∀ short, short <+: raw → short ≠ raw → reader t.type short = tooShort) := by
  refine ⟨fun _ _ _ => field?_isSome_iff, ?_, reader_eq_tooShort_iff .interval,
    reader_eq_tooShort_iff .time, reader_eq_tooShort_iff .timeTz, ?_⟩
  · intro raw
    have refused := reader_eq_tooShort_iff .numeric raw
    rw [Fielded.type, Fielded.size, Numeric.size, Numeric.specialSigns] at refused
    rw [refused]
    split
    · next special => simp [special]
    · next finite =>
      simp only [finite, not_false_eq_true, true_and]
      omega
  · intro t raw fits
    refine ⟨exists_reader_eq_ok t fits, ?_, ?_⟩
    · intro raw' same
      obtain ⟨-, text⟩ := t.takesFront.congr fits same
      rw [t.reader_eq, t.reader_eq, text]
    · intro whole short front proper
      rw [t.reader_eq, own_eq_tooShort_iff]
      exact t.takesFront.eq_none_of_prefix whole front proper

/-- The number -12.5 with its two groups. -/
def halfBytes : List UInt8 := Numeric.bytes (.finite true [12, 5000] 0 1)

theorem refused_of_halfBytes :
    reader .numeric (halfBytes ++ [1, 2]) = reader .numeric halfBytes ∧
      reader .numeric halfBytes = .ok (.text "-12.5") ∧
      reader .numeric (halfBytes.take 11) = tooShort ∧
      reader .numeric (halfBytes.take 7) = tooShort := by
  obtain ⟨-, -, -, -, -, fronts⟩ := refused_iff_truncated
  have size : Numeric.size halfBytes = 12 := by decide
  have text : (Numeric.read? halfBytes).map Numeric.chars = some "-12.5".toList := by
    decide +kernel
  obtain ⟨-, follows, cut⟩ := fronts .numeric halfBytes (by decide)
  have part (n : Nat) (less : n < 12) : reader .numeric (halfBytes.take n) = tooShort := by
    apply cut rfl _ (List.take_prefix n halfBytes)
    intro same
    have length := congrArg List.length same
    rw [List.length_take, show halfBytes.length = 12 from rfl] at length
    omega
  refine ⟨follows _ ?_, ?_, part 11 (by decide), part 7 (by decide)⟩
  · rw [Fielded.size, size]
    rfl
  · show own .text ((Numeric.read? halfBytes).map Numeric.chars) = _
    rw [text]
    rfl

end RowCheck.Wire
