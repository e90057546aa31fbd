import RowCheck.Sql.Token

/-!
# Quoted identifiers

A name in double quotes can be any text: a quote inside it is written twice. Main statement: the
name is read back from its quotes, whatever follows them, as long as that does not begin with a
further quote.
-/

namespace RowCheck.Sql

namespace Identifier

/-- A name with every quote in it written twice. -/
def doubled : List Char → List Char
  | [] => []
  | c :: cs => if c = '"' then '"' :: '"' :: doubled cs else c :: doubled cs

/-- A name in quotes. -/
def quotedChars (name : List Char) : List Char := '"' :: (doubled name ++ ['"'])

/-- A name in quotes. -/
def quoted (name : String) : String := String.ofList (quotedChars name.toList)

/-- The name behind an opening quote is read up to its closing quote. -/
theorem readQuoted_doubled (name rest : List Char) (h : rest.head? ≠ some '"') :
    Token.readQuoted '"' (doubled name ++ '"' :: rest) = some (name, rest) := by
  induction name with
  | nil =>
    cases rest with
    | nil => simp [doubled, Token.readQuoted]
    | cons d ds =>
      simp only [List.head?_cons, ne_eq, Option.some.injEq] at h
      simp [doubled, Token.readQuoted, h]
  | cons c cs ih =>
    by_cases hc : c = '"'
    · simp [doubled, hc, Token.readQuoted, ih]
    · rw [doubled, if_neg hc, List.cons_append, Token.readQuoted.eq_def]
      simp [hc, ih]

end Identifier

end RowCheck.Sql
