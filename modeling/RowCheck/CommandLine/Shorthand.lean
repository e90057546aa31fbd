/-!
# Shorthand for line feeds and tabs

Texts as they are typed on one line of a shell: a line feed is `\n`, a tab is `\t`, and a backslash
is written twice. A backslash before anything else stands for itself. Main statement: every text
can be typed.
-/

namespace RowCheck.CommandLine.Shorthand

/-- The text that was typed. -/
def unescapeChars : List Char → List Char
  | [] => []
  | ['\\'] => ['\\']
  | '\\' :: c :: r =>
    if c = 'n' then '\n' :: unescapeChars r
    else if c = 't' then '\t' :: unescapeChars r
    else if c = '\\' then '\\' :: unescapeChars r
    else '\\' :: c :: unescapeChars r
  | c :: r => c :: unescapeChars r

/-- The text that was typed. -/
def unescape (s : String) : String := String.ofList (unescapeChars s.toList)

/-- How a text is typed. -/
def escapeChars : List Char → List Char
  | [] => []
  | c :: r =>
    if c = '\n' then '\\' :: 'n' :: escapeChars r
    else if c = '\t' then '\\' :: 't' :: escapeChars r
    else if c = '\\' then '\\' :: '\\' :: escapeChars r
    else c :: escapeChars r

/-- How a text is typed. -/
def escape (s : String) : String := String.ofList (escapeChars s.toList)

theorem unescapeChars_cons {c : Char} (h : c ≠ '\\') (r : List Char) :
    unescapeChars (c :: r) = c :: unescapeChars r := by
  rw [unescapeChars.eq_def]
  split <;> simp_all

/-- What was typed for a text is read as that text. -/
theorem unescapeChars_escapeChars (s : List Char) : unescapeChars (escapeChars s) = s := by
  induction s with
  | nil => rfl
  | cons c r ih =>
    by_cases h₁ : c = '\n'
    · simp [escapeChars, h₁, unescapeChars, ih]
    · by_cases h₂ : c = '\t'
      · simp [escapeChars, h₂, unescapeChars, ih]
      · by_cases h₃ : c = '\\'
        · simp [escapeChars, h₃, unescapeChars, ih]
        · simp [escapeChars, h₁, h₂, h₃, unescapeChars_cons h₃, ih]

end RowCheck.CommandLine.Shorthand
