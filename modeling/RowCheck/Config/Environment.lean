import RowCheck.Text.Split

/-!
# What the system says of the process

The variables of the environment, as bytes, and the directory in which the user is at home: the one
that the environment names, or else the one in the system's table of users.
-/

namespace RowCheck.Config

/-- The parts of a text between its zero bytes. -/
def entries (bytes : List UInt8) : List (List UInt8) :=
  bytes.foldr (fun b parts =>
    if b = 0 then [] :: parts
    else (b :: parts.headD []) :: parts.drop 1) [[]]

theorem entries_append {entry : List UInt8} (sound : 0 ∉ entry) (others : List UInt8) :
    entries (entry ++ 0 :: others) = entry :: entries others := by
  induction entry with
  | nil => rfl
  | cons b entry ih =>
    rw [List.mem_cons, not_or] at sound
    obtain ⟨differs, sound⟩ := sound
    have rest : entries (entry ++ 0 :: others) = entry :: entries others := ih sound
    rw [entries] at rest ⊢
    rw [List.cons_append, List.foldr_cons, rest, if_neg (Ne.symm differs)]
    rfl

/-- An environment is read back as the entries that it is made of. -/
theorem entries_flatMap {parts : List (List UInt8)} (sound : ∀ part ∈ parts, 0 ∉ part) :
    entries (parts.flatMap (· ++ [0])) = parts ++ [[]] := by
  induction parts with
  | nil => rfl
  | cons part parts ih =>
    rw [List.forall_mem_cons] at sound
    obtain ⟨first, others⟩ := sound
    rw [List.flatMap_cons, List.append_assoc, List.singleton_append, entries_append first,
      ih others, List.cons_append]

/-- The value of a variable, where every entry is a name, an equals sign and a value. -/
def valueOf? (name : List UInt8) (environment : List UInt8) : Option (List UInt8) :=
  let start := name ++ [61]
  ((entries environment).find? start.isPrefixOf).map (·.drop start.length)

/-- Of an environment, the first entry for the name counts. -/
theorem valueOf?_flatMap {parts : List (List UInt8)} (sound : ∀ part ∈ parts, 0 ∉ part)
    (name : List UInt8) :
    valueOf? name (parts.flatMap (· ++ [0]))
      = (parts.find? (name ++ [61]).isPrefixOf).map (·.drop (name ++ [61]).length) := by
  have last : List.isPrefixOf (name ++ [61]) [] = false := by cases name <;> rfl
  rw [valueOf?, entries_flatMap sound, List.find?_append, List.find?_cons, last, List.find?_nil,
    Option.or_none]

/-- The number of the user that a process belongs to, in the system's record of the process. -/
def userOf? (record : String) : Option (List Char) :=
  (Text.splitAt '\n' record.toList).findSome? fun line =>
    match Text.splitAt '\t' line with
    | name :: user :: _ => if name = "Uid:".toList then some user else none
    | _ => none

/-- The home directory of a user, in the table of the users. -/
def homeOf? (users : String) (user : List Char) : Option String :=
  (Text.splitAt '\n' users.toList).findSome? fun line =>
    match Text.splitAt ':' line with
    | [_, _, number, _, _, home, _] => if number = user then some (.ofList home) else none
    | _ => none

/-- The home directory: what the environment says, or else what the table of the users says. An
empty text counts as nothing. -/
def home? (named? recorded? : Option String) : Option String :=
  named?.filter (!·.isEmpty) <|> recorded?.filter (!·.isEmpty)

theorem isEmpty_eq_false_of_home? {named? recorded? : Option String} {home : String}
    (h : home? named? recorded? = some home) : home.isEmpty = false := by
  rw [home?] at h
  cases named : named?.filter (!·.isEmpty) with
  | some name =>
    rw [named] at h
    cases h
    simpa using (Option.filter_eq_some_iff.mp named).2
  | none =>
    rw [named] at h
    simpa using (Option.filter_eq_some_iff.mp h).2

end RowCheck.Config
