import RowCheck.Sql.Copy

/-!
# Tokens of statements that are built

The statements of a copy consist of words, signs and quoted names with spaces before some of them.
`Reads` says which tokens a text is read as, without the fuel of the scanner, and has one rule for
each sort of token.
-/

namespace RowCheck.Sql

open Token (scan scanAll blankLength byteLength)

/-- The tokens that a text is read as from a byte offset on. -/
def Reads (offset : Nat) (s : List Char) (ts : List Token) : Prop :=
  ∀ fuel, s.length < fuel → scanAll fuel offset s = ts

namespace Token

/-- Characters that neither are blanks nor begin a comment. -/
def startsToken (c : Char) : Bool := !isSpace c && c != '-' && c != '/' && c != '\uFEFF'

theorem blankLength_start {c : Char} (h : startsToken c = true) (fuel : Nat) (r : List Char) :
    blankLength (fuel + 1) (c :: r) = 0 := by
  simp only [startsToken, Bool.and_eq_true, Bool.not_eq_true', bne_iff_ne, ne_eq] at h
  obtain ⟨⟨⟨space, minus⟩, slash⟩, mark⟩ := h
  unfold blankLength
  split
  · next e => cases e; exact absurd rfl minus
  · next e => cases e; exact absurd rfl slash
  · next e =>
    cases e
    simp [space, mark]
  · rfl

/-- Whether there is nothing but spaces in front of a token. -/
def isSpaces (gap : List Char) : Bool := gap.all (· == ' ')

theorem blankLength_spaces {gap : List Char} {c : Char} (spaces : isSpaces gap = true)
    (h : startsToken c = true) (fuel : Nat) (r : List Char) :
    blankLength (fuel + 2) (gap ++ c :: r) = gap.length := by
  have begins : isSpace c = false := by
    simp only [startsToken, Bool.and_eq_true, Bool.not_eq_true'] at h
    exact h.1.1.1
  cases gap with
  | nil => exact blankLength_start h (fuel + 1) r
  | cons d ds =>
    simp only [isSpaces, List.all_cons, List.all_eq_true, Bool.and_eq_true, beq_iff_eq] at spaces
    obtain ⟨rfl, further⟩ := spaces
    have taken : (ds ++ c :: r).takeWhile isSpace = ds := by
      rw [List.takeWhile_append_of_pos fun d hd => by rw [further d hd]; rfl]
      simp [begins]
    rw [List.cons_append, blankLength]
    · simp only [taken, List.drop_left' rfl, blankLength_start h fuel r, List.length_cons]
      exact Nat.add_comm 1 _
    · intro r' e
      cases e
    · intro r' e
      cases e

/-- A name in quotes is one token, whatever it is, unless a further quote follows it. -/
theorem scan_quoted (name rest : List Char) (h : rest.head? ≠ some '"') :
    scan (Identifier.quotedChars name ++ rest)
      = (.name name true, (Identifier.quotedChars name).length) := by
  have whole : Identifier.quotedChars name ++ rest
      = '"' :: (Identifier.doubled name ++ '"' :: rest) := by
    simp [Identifier.quotedChars]
  have size : (Identifier.quotedChars name ++ rest).length - rest.length
      = (Identifier.quotedChars name).length := by
    rw [List.length_append, Nat.add_sub_cancel]
  rw [← size, whole, scan, if_pos (by decide), Identifier.readQuoted_doubled name rest h]
  rfl

/-- The start of a word is none of the signs with which other tokens begin. -/
theorem isWordStart_ne {c d : Char} (h : isWordStart c = true) (hd : isWordStart d = false) :
    c ≠ d := by
  rintro rfl
  rw [h] at hd
  cases hd

theorem isDigit_of_isWordStart {c : Char} (h : isWordStart c = true) : c.isDigit = false := by
  unfold isWordStart Char.isAlpha Char.isUpper Char.isLower at h
  unfold Char.isDigit
  simp only [Bool.or_eq_true, Bool.and_eq_true, decide_eq_true_eq, beq_iff_eq,
    UInt32.le_iff_toNat_le] at h
  simp only [Bool.and_eq_false_iff, decide_eq_false_iff_not, UInt32.le_iff_toNat_le]
  have : c.toNat = c.val.toNat := rfl
  have : 'A'.val.toNat = 65 := rfl
  have : 'a'.val.toNat = 97 := rfl
  have : '9'.val.toNat = 57 := rfl
  have : '_'.val.toNat = 95 := rfl
  rcases h with (h | h) | h
  · omega
  · subst h
    omega
  · omega

/-- A word goes up to the next character that is not one of a word. An `x` could begin a binary. -/
theorem scan_word {c : Char} {cs rest : List Char} (start : isWordStart c = true)
    (low : c ≠ 'x') (high : c ≠ 'X') (word : ∀ d ∈ cs, isWordChar d = true)
    (stop : rest.head?.any isWordChar = false) :
    scan (c :: cs ++ rest) = (.word, (c :: cs).length) := by
  have taken : (cs ++ rest).takeWhile isWordChar = cs := by
    rw [List.takeWhile_append_of_pos word]
    cases rest with
    | nil => simp
    | cons d rest =>
      have stop : isWordChar d = false := stop
      simp [stop]
  rw [List.cons_append, scan]
  rw [if_neg (by rintro (h | h | h) <;> exact isWordStart_ne start rfl h),
    if_neg (isWordStart_ne start rfl),
    if_neg (by simp [isDigit_of_isWordStart start, isWordStart_ne (d := '.') start rfl]),
    if_neg (by simp [low, high]), if_pos start, taken, List.length_cons, Nat.add_comm]

/-- The signs between the parts of a statement of a copy. -/
def plainSigns : List Char := ['*', '(', ')', ',', ';']

theorem scan_sign {c : Char} (h : c ∈ plainSigns) (rest : List Char) :
    scan (c :: rest) = (.sign, 1) := by
  simp only [plainSigns, List.mem_cons, List.not_mem_nil, or_false] at h
  rcases h with rfl | rfl | rfl | rfl | rfl <;> cases rest <;> simp [scan, doubleSigns, isWordStart]

theorem plainSigns_start : ∀ c ∈ plainSigns, startsToken c = true := List.all_eq_true.mp rfl

/-- A point in front of a digit would begin a number. -/
theorem scan_point {rest : List Char} (h : rest.head?.any Char.isDigit = false) :
    scan ('.' :: rest) = (.sign, 1) := by
  cases rest with
  | nil => rfl
  | cons d rest =>
    have h : d.isDigit = false := h
    simp [scan, doubleSigns, isWordStart, h]

/-- What stands in quotes that are not closed has no end. -/
theorem readQuoted_doubled_open (name : List Char) :
    readQuoted '"' (Identifier.doubled name) = none := by
  induction name with
  | nil => rfl
  | cons c cs ih =>
    by_cases hc : c = '"'
    · simp [Identifier.doubled, hc, readQuoted, ih]
    · rw [Identifier.doubled, if_neg hc, readQuoted.eq_def]
      simp [hc, ih]

theorem scan_open (name : List Char) :
    scan ('"' :: Identifier.doubled name)
      = (.unrecognized, ('"' :: Identifier.doubled name).length) := by
  rw [scan, if_pos (by decide), readQuoted_doubled_open name]

/-- Words that begin with a letter that can begin nothing else. -/
def isPlainWord : List Char → Bool
  | [] => false
  | c :: cs => isWordStart c && startsToken c && c != 'x' && c != 'X' && cs.all isWordChar

theorem isPlainWord_cons {w : List Char} (h : isPlainWord w = true) :
    ∃ c cs, w = c :: cs ∧ isWordStart c = true ∧ startsToken c = true ∧ c ≠ 'x' ∧ c ≠ 'X'
      ∧ ∀ d ∈ cs, isWordChar d = true := by
  cases w with
  | nil => cases h
  | cons c cs =>
    simp only [isPlainWord, Bool.and_eq_true, bne_iff_ne, ne_eq, List.all_eq_true] at h
    obtain ⟨⟨⟨⟨start, begins⟩, low⟩, high⟩, chars⟩ := h
    exact ⟨c, cs, rfl, start, begins, low, high, chars⟩

/-- The token of a word. -/
def word (w : String) (gap : List Char) (offset : Nat) : Token := ⟨.word, w.toList, gap, offset⟩

/-- The token of a sign of one character. -/
def sign (c : Char) (gap : List Char) (offset : Nat) : Token := ⟨.sign, [c], gap, offset⟩

/-- The token of a name in double quotes. -/
def quoted (name : String) (gap : List Char) (offset : Nat) : Token :=
  ⟨.name name.toList true, Identifier.quotedChars name.toList, gap, offset⟩

/-- The token of double quotes that are not closed. -/
def unclosed (name gap : List Char) (offset : Nat) : Token :=
  ⟨.unrecognized, '"' :: Identifier.doubled name, gap, offset⟩

end Token

/-! ## Rules -/

namespace Reads

variable {offset : Nat} {c : Char} {cs rest : List Char} {kind : TokenKind} {ts : List Token}

theorem nil (offset : Nat) : Reads offset [] [⟨.finish, [], [], offset⟩] := by
  intro fuel h
  obtain ⟨fuel, rfl⟩ : ∃ n, fuel = n + 1 := ⟨fuel - 1, by omega⟩
  rfl

/-- A token behind some spaces, and then those of what follows it. -/
theorem cons (gap : List Char) (spaces : Token.isSpaces gap = true)
    (start : Token.startsToken c = true)
    (found : scan (c :: cs ++ rest) = (kind, (c :: cs).length)) (goes_on : kind ≠ .finish)
    (h : Reads (offset + byteLength gap + byteLength (c :: cs)) rest ts) :
    Reads offset (gap ++ (c :: cs ++ rest))
      (⟨kind, c :: cs, gap, offset + byteLength gap⟩ :: ts) := by
  intro fuel hf
  obtain ⟨fuel, rfl⟩ : ∃ n, fuel = n + 1 := ⟨fuel - 1, by omega⟩
  have size : (gap ++ (c :: cs ++ rest)).length = (gap ++ (cs ++ rest)).length + 1 := by simp; omega
  have blank : blankLength ((gap ++ (c :: cs ++ rest)).length + 1) (gap ++ (c :: cs ++ rest))
      = gap.length := by
    rw [size]
    exact Token.blankLength_spaces spaces start _ _
  rw [scanAll]
  simp only [blank, List.take_left' rfl, List.drop_left' rfl, found]
  rw [if_neg goes_on, h fuel]
  rw [List.length_append, List.length_append, List.length_cons] at hf
  omega

theorem word (gap : List Char) (spaces : Token.isSpaces gap = true) (w : String)
    (plain : Token.isPlainWord w.toList = true) (stop : rest.head?.any Token.isWordChar = false)
    (h : Reads (offset + byteLength gap + byteLength w.toList) rest ts) :
    Reads offset (gap ++ (w.toList ++ rest))
      (Token.word w gap (offset + byteLength gap) :: ts) := by
  obtain ⟨c, cs, spelt, start, begins, low, high, chars⟩ := Token.isPlainWord_cons plain
  rw [Token.word, spelt]
  rw [spelt] at h
  exact Reads.cons gap spaces begins (Token.scan_word start low high chars stop) (by simp) h

theorem sign (gap : List Char) (spaces : Token.isSpaces gap = true) (c : Char)
    (plain : c ∈ Token.plainSigns) (h : Reads (offset + byteLength gap + byteLength [c]) rest ts) :
    Reads offset (gap ++ c :: rest) (Token.sign c gap (offset + byteLength gap) :: ts) := by
  have found : scan ([c] ++ rest) = (.sign, [c].length) := Token.scan_sign plain rest
  exact Reads.cons gap spaces (Token.plainSigns_start c plain) found (by simp) h

theorem point (stop : rest.head?.any Char.isDigit = false)
    (h : Reads (offset + byteLength ['.']) rest ts) :
    Reads offset ('.' :: rest) (Token.sign '.' [] offset :: ts) := by
  have found : scan (['.'] ++ rest) = (.sign, ['.'].length) := Token.scan_point stop
  exact Reads.cons [] rfl rfl found (by simp) h

theorem quoted (gap : List Char) (spaces : Token.isSpaces gap = true) (name : String)
    (stop : rest.head? ≠ some '"') (h : Reads
      (offset + byteLength gap + byteLength (Identifier.quotedChars name.toList)) rest ts) :
    Reads offset (gap ++ (Identifier.quotedChars name.toList ++ rest))
      (Token.quoted name gap (offset + byteLength gap) :: ts) :=
  Reads.cons gap spaces rfl (Token.scan_quoted name.toList rest stop) (by simp) h

theorem unclosed (gap : List Char) (spaces : Token.isSpaces gap = true) (name : List Char)
    (offset : Nat) : Reads offset (gap ++ '"' :: Identifier.doubled name)
      [Token.unclosed name gap (offset + byteLength gap), ⟨.finish, [], [],
        offset + byteLength gap + byteLength ('"' :: Identifier.doubled name)⟩] := by
  have found : scan ('"' :: Identifier.doubled name ++ [])
      = (.unrecognized, ('"' :: Identifier.doubled name).length) := by
    rw [List.append_nil]
    exact Token.scan_open name
  have read : Reads offset _ _ := .cons gap spaces rfl found (by simp) (.nil _)
  rwa [List.append_nil] at read

end Reads

theorem ofText_of_reads {sql : String} {s : List Char} {ts : List Token}
    (cut : sql.toList.takeWhile (· ≠ '\x00') = s) (h : Reads 0 s ts) : Token.ofText sql = ts := by
  rw [Token.ofText, cut]
  exact h _ (Nat.lt_succ_self _)

end RowCheck.Sql
