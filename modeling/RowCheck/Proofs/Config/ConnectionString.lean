import Mathlib.Data.List.Basic
import RowCheck.Config.Libpq

/-!
# Connection strings read back

What the reader of connection strings makes of the parts of a written one: it takes a key up to its
equals sign, a value up to the quote that closes it, whatever the value is, and then the next pair.
Main statement: of the connection string of a profile exactly the settings of the profile are read,
so that no setting can reach into another one.
-/

namespace RowCheck.Config

namespace Libpq

/-- Keys that need no quotes. -/
structure IsKey (k : List Char) : Prop where
  ne_nil : k ≠ []
  plain : ∀ c ∈ k, Text.isBlank c = false ∧ c ≠ '='

namespace Reading

variable {pairs : List (List Char × List Char)} {k v : List Char}

/-- The rest of a key is added to the key. -/
theorem foldlM_key {cs : List Char} (plain : ∀ c ∈ cs, Text.isBlank c = false ∧ c ≠ '=') :
    cs.foldlM step ⟨pairs, .key k⟩ = some ⟨pairs, .key (k ++ cs)⟩ := by
  induction cs generalizing k with
  | nil => simp
  | cons c cs ih =>
    obtain ⟨⟨visible, other⟩, later⟩ := List.forall_mem_cons.mp plain
    have first : step ⟨pairs, .key k⟩ c = some ⟨pairs, .key (k ++ [c])⟩ := by
      simp [step, visible, other]
    rw [List.foldlM_cons, first, Option.bind_eq_bind, Option.bind_some, ih later]
    simp

/-- An escaped character inside quotes is added to the value, and is no quote that closes it. -/
theorem foldlM_escapeChar (c : Char) :
    (escapeChar c).foldlM step ⟨pairs, .value true k v⟩
      = some ⟨pairs, .value true k (v ++ [c])⟩ := by
  by_cases special : c = '\\' ∨ c = '\''
  · have opened : step ⟨pairs, .value true k v⟩ '\\' = some ⟨pairs, .escape true k v⟩ := rfl
    rw [escapeChar, if_pos special, List.foldlM_cons, opened]
    rfl
  · obtain ⟨backslash, quote⟩ := not_or.mp special
    rw [escapeChar, if_neg special, List.foldlM_cons]
    simp [step, backslash, quote]

/-- The escaped text of a value is read as that value. -/
theorem foldlM_escaped (s : List Char) :
    (s.flatMap escapeChar).foldlM step ⟨pairs, .value true k v⟩
      = some ⟨pairs, .value true k (v ++ s)⟩ := by
  induction s generalizing v with
  | nil => simp
  | cons c s ih =>
    rw [List.flatMap_cons, List.foldlM_append, foldlM_escapeChar, Option.bind_eq_bind,
      Option.bind_some, ih]
    simp

/-- A value in quotes ends a pair. -/
theorem foldlM_quotedValue (s : List Char) :
    (quotedValue s).foldlM step ⟨pairs, .start k⟩ = some ⟨pairs ++ [(k, s)], .closed⟩ := by
  have opened : step ⟨pairs, .start k⟩ '\'' = some ⟨pairs, .value true k []⟩ := rfl
  have closing : step ⟨pairs, .value true k s⟩ '\'' = some ⟨pairs ++ [(k, s)], .closed⟩ := rfl
  rw [quotedValue, List.cons_append, List.foldlM_cons, opened, Option.bind_eq_bind,
    Option.bind_some, List.foldlM_append, foldlM_escaped, Option.bind_eq_bind, Option.bind_some,
    List.nil_append, List.foldlM_cons, closing]
  rfl

/-- A pair as it is written is read as that pair. -/
theorem foldlM_pair (isKey : IsKey k) (s : List Char) :
    (k ++ '=' :: quotedValue s).foldlM step ⟨pairs, .gap⟩
      = some ⟨pairs ++ [(k, s)], .closed⟩ := by
  obtain ⟨c, cs, rfl⟩ := List.exists_cons_of_ne_nil isKey.ne_nil
  obtain ⟨⟨visible, other⟩, later⟩ := List.forall_mem_cons.mp isKey.plain
  have begins : step ⟨pairs, .gap⟩ c = some ⟨pairs, .key [c]⟩ := by simp [step, visible, other]
  have sign : step ⟨pairs, .key (c :: cs)⟩ '=' = some ⟨pairs, .start (c :: cs)⟩ := rfl
  rw [List.cons_append, List.foldlM_cons, begins, Option.bind_eq_bind, Option.bind_some,
    List.foldlM_append, foldlM_key later, Option.bind_eq_bind, Option.bind_some,
    List.singleton_append, List.foldlM_cons, sign]
  exact foldlM_quotedValue s

/-- Pairs as they are written are read one after the other. -/
theorem foldlM_render {p : List Char × List Char} {ps : List (List Char × List Char)}
    (keys : ∀ q ∈ p :: ps, IsKey q.1) :
    (render (p :: ps)).foldlM step ⟨pairs, .gap⟩ = some ⟨pairs ++ p :: ps, .closed⟩ := by
  induction ps generalizing p pairs with
  | nil =>
    have whole : render [p] = p.1 ++ '=' :: quotedValue p.2 := by simp [render]
    rw [whole]
    exact foldlM_pair (keys p List.mem_cons_self) p.2
  | cons q qs ih =>
    obtain ⟨isKey, later⟩ := List.forall_mem_cons.mp keys
    have whole : render (p :: q :: qs)
        = p.1 ++ '=' :: quotedValue p.2 ++ ' ' :: render (q :: qs) := by
      simp [render, List.intercalate_cons_cons]
    have blank (r : List (List Char × List Char)) : step ⟨r, .closed⟩ ' ' = some ⟨r, .gap⟩ := rfl
    rw [whole, List.foldlM_append, foldlM_pair isKey p.2, Option.bind_eq_bind, Option.bind_some,
      List.foldlM_cons, blank, Option.bind_eq_bind, Option.bind_some, ih later]
    simp

end Reading

/-- What is written is read back, whatever the values are. -/
theorem read?_render {pairs : List (List Char × List Char)} (keys : ∀ p ∈ pairs, IsKey p.1) :
    read? (render pairs) = some pairs := by
  cases pairs with
  | nil => rfl
  | cons p ps =>
    rw [read?, Reading.foldlM_render keys]
    rfl

end Libpq

theorem Profile.isKey_of_mem_pairs (p : Profile) {pair : String × String}
    (h : pair ∈ p.pairs) : Libpq.IsKey pair.1.toList := by
  have named : pair.1 ∈ ["host", "port", "dbname", "user", "sslmode", "password"] := by
    rw [Profile.pairs] at h
    rcases List.mem_append.mp h with plain | secret
    · have word : pair.1 ∈ ["host", "port", "dbname", "user", "sslmode"] :=
        List.mem_map_of_mem (f := Prod.fst) plain
      exact List.mem_append_left ["password"] word
    · obtain ⟨w, -, rfl⟩ := List.mem_map.mp secret
      simp
  have all : ∀ word ∈ ["host", "port", "dbname", "user", "sslmode", "password"],
      word.toList ≠ [] ∧ word.toList.all (fun c => !Text.isBlank c && c != '=') := by
    decide
  obtain ⟨filled, plain⟩ := all _ named
  exact ⟨filled, by simpa using plain⟩

/-- The settings of a profile are read back from its connection string. -/
theorem Profile.settings?_eq_pairs (p : Profile) : Libpq.settings? p.libpq = some p.pairs := by
  have keys : ∀ q ∈ p.pairs.map Libpq.charsOf, Libpq.IsKey q.1 := by
    intro q mem
    obtain ⟨pair, listed, rfl⟩ := List.mem_map.mp mem
    exact p.isKey_of_mem_pairs listed
  have texts : (p.pairs.map Libpq.charsOf).map Libpq.textsOf = p.pairs := by
    rw [List.map_map, Function.comp_def]
    simp only [Libpq.textsOf_charsOf, List.map_id']
  rw [Libpq.settings?, Profile.libpq, String.toList_ofList, Libpq.read?_render keys,
    Option.map_some, texts]

/-- Two profiles have the same settings if and only if they agree in every field but the name. -/
theorem Profile.pairs_inj {p q : Profile} :
    p.pairs = q.pairs ↔ p.host = q.host ∧ p.port = q.port ∧ p.database = q.database ∧
      p.username = q.username ∧ p.sslMode = q.sslMode ∧ p.password? = q.password? := by
  constructor
  · intro h
    have ports {m n : UInt16}
        (h : String.ofList (Text.decimal m.toNat) = String.ofList (Text.decimal n.toNat)) :
        m = n := by
      have digits := congrArg Text.ofDigits (String.ofList_injective h)
      rw [Text.ofDigits_decimal, Text.ofDigits_decimal] at digits
      exact UInt16.toNat_inj.mp digits
    have modes {m n : SslMode} (h : m.word = n.word) : m = n := by
      have found := congrArg SslMode.ofWord? h
      rw [SslMode.ofWord?_word, SslMode.ofWord?_word] at found
      exact Option.some.inj found
    have passwords {a b : Option String}
        (h : a.toList.map (fun w => ("password", w)) = b.toList.map fun w => ("password", w)) :
        a = b := by
      cases a <;> cases b <;> simp_all
    simp only [Profile.pairs, List.cons_append, List.nil_append, List.cons.injEq,
      Prod.mk.injEq, true_and] at h
    obtain ⟨host, port, database, username, mode, password⟩ := h
    exact ⟨host, ports port, database, username, modes mode, passwords password⟩
  · rintro ⟨host, port, database, username, mode, password⟩
    rw [Profile.pairs, Profile.pairs, host, port, database, username, mode, password]

/-- Nothing that a profile says can change what another part of its connection string means: the
string is read as host, port, database, user and mode, and as the password if there is one, each
with its very value. So profiles that differ in one of these have different connection strings. -/
theorem Profile.settings?_libpq (p : Profile) :
    Libpq.settings? p.libpq
        = some ([("host", p.host), ("port", String.ofList (Text.decimal p.port.toNat)),
            ("dbname", p.database), ("user", p.username), ("sslmode", p.sslMode.word)]
          ++ p.password?.toList.map fun w => ("password", w)) ∧
      ∀ q : Profile, p.libpq = q.libpq ↔
        p.host = q.host ∧ p.port = q.port ∧ p.database = q.database ∧
          p.username = q.username ∧ p.sslMode = q.sslMode ∧ p.password? = q.password? := by
  refine ⟨p.settings?_eq_pairs, fun q => ?_⟩
  rw [← Profile.pairs_inj]
  constructor
  · intro same
    have read := congrArg Libpq.settings? same
    rw [p.settings?_eq_pairs, q.settings?_eq_pairs] at read
    exact Option.some.inj read
  · intro same
    rw [Profile.libpq, Profile.libpq, same]

/-- A password that looks like the end of its value and like further settings. -/
example : Libpq.settings? (Profile.libpq ⟨"", "h", 1, "d\\", "u", some "\\' host='x", .disable⟩)
    = some [("host", "h"), ("port", "1"), ("dbname", "d\\"), ("user", "u"),
      ("sslmode", "disable"), ("password", "\\' host='x")] := by
  decide +kernel

end RowCheck.Config
