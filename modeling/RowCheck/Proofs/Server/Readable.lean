import RowCheck.Proofs.Server.Translated
import RowCheck.Proofs.Wire.Truncated

/-!
# Types whose values can all be read

What the server can send for each type of a result column, and that it is read. Dates and points in
time can be out of range and JSON can be malformed; of all other types that are not unknown there is
one whose values are refused. Main statement: it is the only one, and texts keep their bytes.
-/

namespace RowCheck

open Text

/-! ## Values -/

/-- Whether a type is known and its values are not limited by more than their form. -/
def ColumnType.unlimited : ColumnType → Bool
  | .date | .timestamp | .timestampTz | .json | .jsonb | .unknown _ => false
  | _ => true

namespace Wire

/-- The number of bytes in a value of a type, if that is the same for all values. -/
def fixedSize? : ColumnType → Option Nat
  | .boolean => some 1
  | .smallInt => some 2
  | .integer | .oid | .real | .date => some 4
  | .bigInt | .double | .time | .timestamp | .timestampTz => some 8
  | .timeTz => some 12
  | .interval | .uuid => some 16
  | _ => none

/-- What an array starts with: how many dimensions it has, whether there are `NULL`s in it, and the
number of its items' type. -/
def arrayHeader (dimensions flags oid : Nat) : List UInt8 :=
  bytesOf 4 dimensions ++ bytesOf 4 flags ++ bytesOf 4 oid

/-- An item of an array behind its length. -/
def sized (item : List UInt8) : List UInt8 := bytesOf 4 item.length ++ item

/-- The binary form of a value that is not `NULL`; an array has at most one dimension and no item
that is `NULL`. -/
inductive IsValue : ColumnType → List UInt8 → Prop where
  | fixed {type : ColumnType} {raw : List UInt8} (size : fixedSize? type = some raw.length) :
    IsValue type raw
  | text {type : ColumnType} (s : String) (textual : type ∈ [.text, .varchar, .char, .json]) :
    IsValue type (Utf8.ofString s)
  | jsonb (s : String) : IsValue .jsonb (1 :: Utf8.ofString s)
  | bytea (raw : List UInt8) : IsValue .bytea raw
  | numeric {raw : List UInt8} {count : Nat} (first : field? 2 0 raw = some count)
      (size : raw.length = 8 + 2 * count) : IsValue .numeric raw
  | emptyArray (item : ColumnType) (flags oid : Nat) :
    IsValue (.array item) (arrayHeader 0 flags oid)
  | array {item : ColumnType} (flags oid lower : Nat) (items : List (List UInt8))
      (count : items.length < 0x80000000)
      (values : ∀ x ∈ items, IsValue item x) (short : ∀ x ∈ items, x.length < 0x80000000) :
    IsValue (.array item) (arrayHeader 1 flags oid
      ++ (bytesOf 4 items.length ++ (bytesOf 4 lower ++ items.flatMap sized)))
  | unknown (name : String) (raw : List UInt8) : IsValue (.unknown name) raw

/-! ## Readers -/

/-- Every value of the size is a number. -/
theorem number_of_length {width : Nat} {raw : List UInt8} (cell : Nat → Cell)
    (size : raw.length = width) : ∃ c, number width cell raw = .ok c := by
  rw [number, exactly, field?_of_fits (by omega)]
  simp only [if_pos size]
  exact ⟨_, rfl⟩

theorem boolean_of_length {raw : List UInt8} (size : raw.length = 1) :
    ∃ c, boolean raw = .ok c := by
  obtain ⟨b, rfl⟩ := List.length_eq_one_iff.mp size
  exact ⟨_, rfl⟩

theorem uuid_of_length {raw : List UInt8} (size : raw.length = 16) : ∃ c, uuid raw = .ok c :=
  ⟨_, if_pos size⟩

theorem fielded_of_length (t : Fielded) {raw : List UInt8} (size : t.size raw ≤ raw.length) :
    ∃ c, reader t.type raw = .ok c := by
  obtain ⟨text, read⟩ := exists_reader_eq_ok t size
  exact ⟨_, read⟩

theorem text_ofString (s : String) : text (Utf8.ofString s) = .ok (.text s) := by
  simp [text, Text.Utf8.toString, Text.Utf8.ofString, Text.Utf8.decode_encode, Except.map]

/-- A decimal number is read whatever its weight, its sign and its groups are. -/
theorem numeric_of_length {raw : List UInt8} {count : Nat} (first : field? 2 0 raw = some count)
    (size : raw.length = 8 + 2 * count) : ∃ c, reader .numeric raw = .ok c := by
  have announced : field? 2 0 raw = some (fieldOf 2 0 raw) := field?_of_fits (by omega)
  rw [first] at announced
  apply fielded_of_length .numeric
  calc Numeric.size raw
      ≤ 8 + 2 * fieldOf 2 0 raw := Numeric.size_le raw
    _ = 8 + 2 * count := by rw [← Option.some.inj announced]
    _ ≤ raw.length := Nat.le_of_eq size.symm

/-! ## Arrays -/

/-- Items that are read one by one are read all together. -/
theorem arrayItems_flatMap {item : List UInt8 → Decoded Cell} {items : List (List UInt8)}
    (values : ∀ x ∈ items, ∃ c, item x = .ok c) (short : ∀ x ∈ items, x.length < 0x80000000) :
    ∃ cells, arrayItems item items.length (items.flatMap sized) = .ok cells := by
  induction items with
  | nil => exact ⟨[], rfl⟩
  | cons x items ih =>
    obtain ⟨⟨c, first⟩, values⟩ := List.forall_mem_cons.mp values
    obtain ⟨fits, short⟩ := List.forall_mem_cons.mp short
    obtain ⟨cells, others⟩ := ih values short
    have wide : x.length < pow2 (8 * 4) := Nat.lt_trans fits (by decide)
    have length : field? 4 0 (sized x ++ items.flatMap sized) = some x.length := by
      rw [sized, List.append_assoc, field?_bytesOf, Nat.mod_eq_of_lt wide]
    have behind : (sized x ++ items.flatMap sized).drop 4 = x ++ items.flatMap sized := by
      rw [sized, List.append_assoc]
      exact List.drop_left' (length_bytesOf 4 x.length)
    have enough : ¬ (x ++ items.flatMap sized).length < x.length := by
      rw [List.length_append]
      omega
    refine ⟨c :: cells, ?_⟩
    rw [List.flatMap_cons, List.length_cons, arrayItems, length]
    simp only [behind, if_neg (Nat.not_le.mpr fits), if_neg enough, List.take_left,
      List.drop_left, first, others]
    rfl

/-- What is made of an array of at most one dimension, behind its header. -/
theorem array_of_header {item : List UInt8 → Decoded Cell} {dimensions : Nat}
    (few : dimensions ≤ 1) (flags oid : Nat) (rest : List UInt8) :
    array item (arrayHeader dimensions flags oid ++ rest)
      = (arraySize dimensions 1 rest).bind fun (size, rest) =>
        (arrayItems item (if dimensions = 0 then 0 else size) rest).map .array := by
  have small : dimensions % pow2 (8 * 4) = dimensions :=
    Nat.mod_eq_of_lt (Nat.lt_of_le_of_lt few (by decide))
  have length : (arrayHeader dimensions flags oid).length = 12 := by
    simp [arrayHeader, length_bytesOf]
  have first : field? 4 0 (arrayHeader dimensions flags oid ++ rest) = some dimensions := by
    rw [arrayHeader, List.append_assoc, List.append_assoc, field?_bytesOf, small]
  obtain ⟨nulls, second⟩ : ∃ n, field? 4 4 (arrayHeader dimensions flags oid ++ rest) = some n :=
    ⟨_, field?_of_fits (by rw [List.length_append]; omega)⟩
  obtain ⟨type, third⟩ : ∃ n, field? 4 8 (arrayHeader dimensions flags oid ++ rest) = some n :=
    ⟨_, field?_of_fits (by rw [List.length_append]; omega)⟩
  have counted : min dimensions ((arrayHeader dimensions flags oid ++ rest).length / 8 + 1)
      = dimensions := Nat.min_eq_left (by omega)
  have behind : (arrayHeader dimensions flags oid ++ rest).drop 12 = rest :=
    List.drop_left' length
  have sound : ¬ 0x80000000 ≤ dimensions := by omega
  rw [array, first]
  simp only [second, third, counted, behind, if_neg sound, if_neg (Nat.not_lt.mpr few)]
  cases arraySize dimensions 1 rest with
  | error fault => rfl
  | ok made =>
    obtain ⟨size, rest⟩ := made
    cases read : arrayItems item (if dimensions = 0 then 0 else size) rest with
    | error fault => simp [read, bind, Except.bind, Except.map]
    | ok cells => simp [read, bind, Except.bind, Except.map, pure, Except.pure]

theorem arraySize_one {count : Nat} (few : count < 0x80000000) (lower : Nat) (rest : List UInt8) :
    arraySize 1 1 (bytesOf 4 count ++ (bytesOf 4 lower ++ rest)) = .ok (count, rest) := by
  have wide : count < pow2 (8 * 4) := Nat.lt_trans few (by decide)
  have behind : (bytesOf 4 count ++ (bytesOf 4 lower ++ rest)).drop 8 = rest := by
    rw [← List.append_assoc]
    apply List.drop_left'
    simp [length_bytesOf]
  have sound : ¬ 0x80000000 ≤ count := Nat.not_le.mpr few
  rw [arraySize, field?_bytesOf, Nat.mod_eq_of_lt wide]
  simp only [field?_bytesOf_append (Nat.le_refl 4), Nat.sub_self, field?_bytesOf, behind,
    Nat.one_mul, if_neg sound]
  rfl

/-- An array is read if its items are. -/
theorem array_of_isValue {item : ColumnType} {raw : List UInt8} {read : List UInt8 → Decoded Cell}
    (reads : ∀ x, IsValue item x → ∃ c, read x = .ok c) (value : IsValue (.array item) raw) :
    ∃ c, array read raw = .ok c := by
  cases value with
  | fixed size => cases size
  | text s textual => simp at textual
  | emptyArray _ flags oid =>
    rw [← List.append_nil (arrayHeader 0 flags oid), array_of_header (by decide)]
    exact ⟨.array [], rfl⟩
  | array flags oid lower items count values short =>
    obtain ⟨cells, made⟩ := arrayItems_flatMap (fun x hx => reads x (values x hx)) short
    refine ⟨.array cells, ?_⟩
    rw [array_of_header (Nat.le_refl 1), arraySize_one count]
    simp only [Except.bind, if_neg Nat.one_ne_zero, made]
    rfl

/-! ## Columns -/

/-- A column type whose values, and whose items' values, have one size is read at that size. -/
theorem reader_of_size {type : ColumnType} (unlimited : type.unlimited = true) {raw : List UInt8}
    (size : fixedSize? type = some raw.length) : ∃ c, reader type raw = .ok c := by
  have width {n : Nat} (h : some n = some raw.length) : raw.length = n := (Option.some.inj h).symm
  cases type with
  | smallInt | integer | oid | bigInt | real | double =>
    exact number_of_length _ (width size)
  | boolean => exact boolean_of_length (width size)
  | time => exact fielded_of_length .time (Nat.le_of_eq (Option.some.inj size))
  | timeTz => exact fielded_of_length .timeTz (Nat.le_of_eq (Option.some.inj size))
  | interval => exact fielded_of_length .interval (Nat.le_of_eq (Option.some.inj size))
  | uuid => exact uuid_of_length (width size)
  | date | timestamp | timestampTz => cases unlimited
  | _ => cases size

/-- The types of items whose arrays have readers of their own. -/
def itemTypes : List ColumnType := [.text, .smallInt, .integer, .bigInt, .double]

theorem reader_array {item : ColumnType} (own : item ∈ itemTypes) :
    reader (.array item) = array (reader item) := by
  simp only [itemTypes, List.mem_cons, List.not_mem_nil, or_false] at own
  rcases own with rfl | rfl | rfl | rfl | rfl <;> rfl

theorem reader_item_of_isValue {item : ColumnType} (own : item ∈ itemTypes) {raw : List UInt8}
    (value : IsValue item raw) : ∃ c, reader item raw = .ok c := by
  simp only [itemTypes, List.mem_cons, List.not_mem_nil, or_false] at own
  cases value with
  | fixed size =>
    rcases own with rfl | rfl | rfl | rfl | rfl
    · cases size
    all_goals exact reader_of_size rfl size
  | text s textual =>
    have text : item = .text := by
      rcases own with rfl | rfl | rfl | rfl | rfl <;> simp at textual ⊢
    rw [text]
    exact ⟨_, text_ofString s⟩
  | _ => simp at own

theorem reader_array_of_isValue {item : ColumnType} (own : item ∈ itemTypes) {raw : List UInt8}
    (value : IsValue (.array item) raw) : ∃ c, reader (.array item) raw = .ok c := by
  rw [reader_array own]
  exact array_of_isValue (fun x => reader_item_of_isValue own) value

/-- Every value of a known type without limits is read, and a text keeps its bytes. -/
theorem reader_of_isValue {type : ColumnType} (unlimited : type.unlimited = true)
    (arrays : ∀ item, type = .array item → item ∈ itemTypes)
    {raw : List UInt8} (value : IsValue type raw) :
    ∃ c, reader type raw = .ok c ∧
      (type ∈ [.text, .varchar, .char] → ∃ s, c = .text s ∧ Utf8.ofString s = raw) := by
  cases value with
  | fixed size =>
    obtain ⟨c, read⟩ := reader_of_size unlimited size
    refine ⟨c, read, fun textual => ?_⟩
    simp only [List.mem_cons, List.not_mem_nil, or_false] at textual
    rcases textual with rfl | rfl | rfl <;> cases size
  | text s textual =>
    simp only [List.mem_cons, List.not_mem_nil, or_false] at textual
    rcases textual with rfl | rfl | rfl | rfl
    · exact ⟨_, text_ofString s, fun _ => ⟨s, rfl, rfl⟩⟩
    · exact ⟨_, text_ofString s, fun _ => ⟨s, rfl, rfl⟩⟩
    · exact ⟨_, text_ofString s, fun _ => ⟨s, rfl, rfl⟩⟩
    · cases unlimited
  | bytea raw => exact ⟨.binary raw, rfl, by simp⟩
  | numeric first size =>
    obtain ⟨c, read⟩ := numeric_of_length first size
    exact ⟨c, read, by simp⟩
  | emptyArray item flags oid =>
    obtain ⟨c, read⟩ := reader_array_of_isValue (arrays item rfl) (.emptyArray item flags oid)
    exact ⟨c, read, by simp⟩
  | @array item flags oid lower items count values short =>
    obtain ⟨c, read⟩ := reader_array_of_isValue (arrays item rfl)
      (.array flags oid lower items count values short)
    exact ⟨c, read, by simp⟩
  | jsonb | unknown => cases unlimited

end Wire

namespace Server

open Wire (IsValue)

theorem ServerType.mem_of_columnType_eq_array {t : ServerType} {item : ColumnType}
    (array : t.columnType = .array item) : item ∈ Wire.itemTypes := by
  cases t with
  | builtIn t => cases t <;> simp_all [columnType, Wire.itemTypes]
  | unread | added => simp [columnType] at array

theorem ServerType.hasReader_of_unlimited {t : ServerType}
    (unlimited : t.columnType.unlimited = true) (other : t ≠ .builtIn .char) :
    t.hasReader = true := by
  rw [← Bool.not_eq_false, hasReader_eq_false_iff]
  rintro (rfl | ⟨⟨name, unknown⟩, -⟩)
  · exact other rfl
  · rw [unknown] at unlimited
    cases unlimited

/-- All values of known types without limits are read, and texts keep their bytes, with the
exception of the one-byte character: although its column type is known, all its values are
refused. -/
theorem decode_of_isValue {t : ServerType} (unlimited : t.columnType.unlimited = true) :
    (t ≠ .builtIn .char → ∀ raw, IsValue t.columnType raw →
      ∃ c, Wire.decode t (some raw) = .ok c ∧
        (t.columnType ∈ [.text, .varchar, .char] → ∃ s, c = .text s ∧ Utf8.ofString s = raw)) ∧
    (t = .builtIn .char → ∀ value, Wire.decode t value = .error (.wrongType t)) := by
  refine ⟨fun other raw value => ?_, ?_⟩
  · rw [decode_of_hasReader (t.hasReader_of_unlimited unlimited other), Option.elim_some]
    exact Wire.reader_of_isValue unlimited (fun item => t.mem_of_columnType_eq_array) value
  · rintro rfl value
    exact decode_of_not_hasReader rfl value

/-- An array of two texts, of which one is empty. -/
theorem decode_of_textArray :
    (ServerType.builtIn .textArray).columnType.unlimited = true ∧
      ∃ c, Wire.decode (.builtIn .textArray) (some (Wire.arrayHeader 1 0 25
        ++ (Wire.bytesOf 4 2 ++ (Wire.bytesOf 4 1
          ++ [Utf8.ofString "a", Utf8.ofString ""].flatMap Wire.sized)))) = .ok c := by
  have texts : ∀ x ∈ [Utf8.ofString "a", Utf8.ofString ""], IsValue .text x := by
    simp only [List.forall_mem_cons, List.not_mem_nil, false_implies, implies_true, and_true]
    exact ⟨.text "a" (by decide), .text "" (by decide)⟩
  have value := IsValue.array 0 25 1 _ (by decide) texts (by decide)
  obtain ⟨c, read, -⟩ := (@decode_of_isValue (.builtIn .textArray) rfl).1 (by simp) _ value
  exact ⟨rfl, c, read⟩

/-- A server with a statement whose only value is a one-byte character. -/
def charScript : Script :=
  ⟨.trust, [], [⟨"q", [("v", 18)], [[some [0x61]]], 0, none, none, none,
    [.description ["v"], .row [some [0x61]], .complete], none⟩]⟩

/-- The byte is refused as a one-byte character, and read under another type with the same column
type. -/
theorem Session.refusal_of_charScript :
    IsValue (ServerType.builtIn .char).columnType [0x61] ∧
      (execute ⟨charScript, .translated, .up, .empty⟩ "q").1
        = .error (.error (.undecodable "v" "char"
          (.undecodable 0 (.wrongType (.builtIn .char))))) ∧
      (ServerType.builtIn .bpchar).columnType = (ServerType.builtIn .char).columnType ∧
      Wire.decode (.builtIn .bpchar) (some [0x61]) = .ok (.text "a") := by
  refine ⟨.text "a" (by decide), rfl, rfl, ?_⟩
  exact Wire.text_ofString "a"

end Server

end RowCheck
