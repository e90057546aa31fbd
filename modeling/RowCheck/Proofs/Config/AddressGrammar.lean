import RowCheck.Proofs.Config.Address
import RowCheck.Proofs.Except
import RowCheck.Proofs.Text.Joined

/-!
# The grammar of addresses

An address in its parts, the conditions under which they make an address that is accepted, and what
they say. Main statement: the addresses of this grammar are accepted and no others, each of them has
its parts in one way only, and every other text is refused as invalid.
-/

namespace RowCheck.Config

open Text (joined)

/-! ## Addresses in parts -/

/-- An address in its parts, as they are spelt. -/
structure Address where
  scheme : List Char
  user : List Char
  /-- What stands behind the first colon of the credentials. -/
  password? : Option (List Char)
  host : List Char
  /-- What stands behind the last colon in front of the path. -/
  port? : Option (List Char)
  database : List Char
  /-- What stands behind the first question mark of the path, between ampersands. -/
  parameters? : Option (List (List Char))

/-- A port is spelt by at least one decimal digit, behind a plus sign or without one. -/
def SpellsPort (w : List Char) (port : UInt16) : Prop :=
  ∃ ds, (w = ds ∨ w = '+' :: ds) ∧ ds ≠ [] ∧ (∀ d ∈ ds, Text.isDigit d = true) ∧
    Text.ofDigits ds = port.toNat

/-- Parameters that an ampersand keeps apart. -/
def Separate (parameters? : Option (List (List Char))) : Prop :=
  ∀ ps ∈ parameters?, ps ≠ [] ∧ ∀ p ∈ ps, '&' ∉ p

/-- The value of a parameter whose key is the one for the mode of encryption. -/
def sslValue? (parameter : List Char) : Option (List Char) :=
  "sslmode=".toList.isPrefixOf? parameter

namespace Address

/-- The user, and the password behind it. -/
def credentials (a : Address) : List Char := joined ':' a.user a.password?

/-- The host, and the port behind it. -/
def place (a : Address) : List Char := joined ':' a.host a.port?

/-- The database, and the parameters behind it. -/
def path (a : Address) : List Char :=
  joined '?' a.database (a.parameters?.map fun ps => ['&'].intercalate ps)

/-- The whole text of an address. -/
def chars (a : Address) : List Char :=
  a.scheme ++ (a.credentials ++ '@' :: a.place ++ '/' :: a.path)

/-- The same address with other parameters. -/
def withParameters (a : Address) (parameters? : Option (List (List Char))) : Address :=
  { a with parameters? := parameters? }

/-- The values that the parameters give for the mode of encryption. -/
def sslValues (a : Address) : List (List Char) := (a.parameters?.getD []).filterMap sslValue?

/-- The parts make an address. -/
structure IsGrammatical (a : Address) : Prop where
  scheme : a.scheme ∈ schemes
  credentials_slash : '/' ∉ a.credentials
  user_colon : ':' ∉ a.user
  user_decodes : (Percent.decode? a.user).isSome
  password_decodes : ∀ w ∈ a.password?, (Percent.decode? w).isSome
  place_slash : '/' ∉ a.place
  place_sign : '@' ∉ a.place
  host_ne : a.host ≠ []
  port : a.port?.elim (':' ∉ a.host) fun w => ∃ port, SpellsPort w port
  database_ne : a.database ≠ []
  database_mark : '?' ∉ a.database
  parameters : Separate a.parameters?
  modes : ∀ v ∈ a.sslValues, ∃ mode : SslMode, v = mode.word.toList

/-- What an address says about a server. The last mode that is given counts. -/
structure Describes (a : Address) (p : Profile) : Prop where
  username : Percent.decode? a.user = some p.username.toList
  password : a.password?.map Percent.decode? = p.password?.map fun w => some w.toList
  host : a.host = p.host.toList
  port : a.port?.elim (p.port = 5432) fun w => SpellsPort w p.port
  database : a.database = p.database.toList
  name : p.name = p.database ++ "@" ++ p.host
  sslMode : a.sslValues.getLast?.getD SslMode.prefer.word.toList = p.sslMode.word.toList

end Address

/-! ## Ports -/

/-- The port that decimal digits give. -/
def digitsPort? (ds : List Char) : Option UInt16 :=
  if ds.isEmpty || !ds.all Text.isDigit then none
  else if Text.ofDigits ds < 65536 then some (.ofNat (Text.ofDigits ds)) else none

theorem digitsPort?_eq_some_iff {ds : List Char} {port : UInt16} :
    digitsPort? ds = some port ↔
      ds ≠ [] ∧ (∀ d ∈ ds, Text.isDigit d = true) ∧ Text.ofDigits ds = port.toNat := by
  unfold digitsPort?
  constructor
  · intro read
    split at read
    · cases read
    next sound =>
    split at read <;> cases read
    next small =>
    simp only [Bool.or_eq_true, List.isEmpty_iff, Bool.not_eq_true', not_or, Bool.not_eq_false,
      List.all_eq_true] at sound
    refine ⟨sound.1, sound.2, ?_⟩
    rw [UInt16.toNat_ofNat_of_lt' small]
  · rintro ⟨filled, digits, value⟩
    have sound : ¬(ds.isEmpty || !ds.all Text.isDigit) = true := by
      simpa [filled] using digits
    rw [if_neg sound, value, if_pos port.toNat_lt, UInt16.ofNat_toNat]

theorem port?_eq_digitsPort? {w : List Char} (unsigned : ∀ r, w ≠ '+' :: r) :
    port? w = digitsPort? w := by
  unfold port?
  split
  · next r => exact absurd rfl (unsigned r)
  · rfl

theorem port?_eq_some_iff {w : List Char} {port : UInt16} :
    port? w = some port ↔ SpellsPort w port := by
  constructor
  · intro read
    by_cases unsigned : ∀ r, w ≠ '+' :: r
    · rw [port?_eq_digitsPort? unsigned] at read
      exact ⟨w, .inl rfl, digitsPort?_eq_some_iff.mp read⟩
    · simp only [ne_eq, not_forall, not_not] at unsigned
      obtain ⟨ds, rfl⟩ := unsigned
      exact ⟨ds, .inr rfl, digitsPort?_eq_some_iff.mp read⟩
  · rintro ⟨ds, rfl | rfl, spelt⟩
    · have unsigned (r : List Char) : w ≠ '+' :: r := by
        rintro rfl
        exact absurd (spelt.2.1 '+' List.mem_cons_self) (by decide)
      rw [port?_eq_digitsPort? unsigned]
      exact digitsPort?_eq_some_iff.mpr spelt
    · exact digitsPort?_eq_some_iff.mpr spelt

theorem SpellsPort.not_mem {w : List Char} {port : UInt16} (spells : SpellsPort w port) :
    ':' ∉ w := by
  obtain ⟨ds, spelt, -, digits, -⟩ := spells
  have none : ':' ∉ ds := fun mem => absurd (digits ':' mem) (by decide)
  rcases spelt with rfl | rfl
  · exact none
  · simp [none]

/-- The last colon of the place is the one in front of the port. -/
theorem Address.IsGrammatical.colon_last {a : Address} (h : a.IsGrammatical) :
    a.port?.elim (':' ∉ a.host) (':' ∉ ·) := by
  have port := h.port
  revert port
  cases a.port? with
  | none => exact id
  | some w =>
    rintro ⟨port, spells⟩
    exact spells.not_mem

theorem placeOf_joined {host host' : List Char} {port? : Option (List Char)} {port : UInt16}
    (last : port?.elim (':' ∉ host) (':' ∉ ·)) :
    placeOf (joined ':' host port?) = .ok (host', port) ↔
      host = host' ∧ port?.elim (port = 5432) fun w => SpellsPort w port := by
  rw [placeOf, Text.cutLast_joined last]
  cases port? with
  | none => simp [joined, defaultPort, eq_comm]
  | some w =>
    simp only [Option.map_some, Option.elim_some, ← port?_eq_some_iff]
    cases Config.port? w <;> simp

/-! ## Credentials -/

theorem component_eq_ok_iff {raw : List Char} {s : String} :
    component raw = .ok s ↔ Percent.decode? raw = some s.toList := by
  unfold component
  cases Percent.decode? raw with
  | none => simp
  | some w => simp [← String.toList_inj]

theorem credentialsOf_joined {user : List Char} {password? : Option (List Char)} {u : String}
    {p? : Option String} (none : ':' ∉ user) :
    credentialsOf (joined ':' user password?) = .ok (u, p?) ↔
      Percent.decode? user = some u.toList ∧
        password?.map Percent.decode? = p?.map fun w => some w.toList := by
  rw [credentialsOf, Text.cutFirst_joined none]
  cases password? with
  | none =>
    cases p? <;> simp [joined, bind_eq_ok_iff, pure_ok, component_eq_ok_iff]
  | some w =>
    cases p? <;> simp [bind_eq_ok_iff, pure_ok, component_eq_ok_iff]

/-! ## Modes of encryption -/

theorem SslMode.word_inj {a b : SslMode} : a.word = b.word ↔ a = b := by
  refine ⟨fun same => ?_, congrArg word⟩
  have found := ofWord?_word a
  rwa [same, ofWord?_word, Option.some.injEq, eq_comm] at found

/-- The mode that a word asks for. -/
def askedMode (word : List Char) : Except Error SslMode :=
  match SslMode.ofWord? (String.ofList word) with
  | some mode => .ok mode
  | none => .error (.invalid s!"unsupported sslmode '{String.ofList word}'")

theorem askedMode_eq_ok_iff {word : List Char} {mode : SslMode} :
    askedMode word = .ok mode ↔ word = mode.word.toList := by
  unfold askedMode
  constructor
  · intro asked
    split at asked <;> cases asked
    next found =>
    have named := List.find?_some found
    rw [beq_iff_eq] at named
    rw [named, String.toList_ofList]
  · rintro rfl
    rw [String.ofList_toList, SslMode.ofWord?_word]

theorem sslValue?_eq_some_iff {parameter value : List Char} :
    sslValue? parameter = some value ↔
      Text.cutFirst '=' parameter = some ("sslmode".toList, value) := by
  have sign : "sslmode=".toList = "sslmode".toList ++ ['='] := rfl
  rw [sslValue?, List.isPrefixOf?_eq_some_iff_append_eq, sign, List.append_assoc,
    List.singleton_append]
  constructor
  · rintro rfl
    exact Text.cutFirst_append (by decide)
  · intro cut
    exact (Text.cutFirst_eq_some cut).1.symm

/-- Parameters with another key are passed over. -/
theorem sslModeOf_eq (query : List Char) :
    sslModeOf query = ((Text.splitAt '&' query).filterMap sslValue?).foldlM
      (fun _ word => askedMode word) .prefer := by
  rw [List.foldlM_filterMap, sslModeOf]
  congr 1
  -- Both go over the same parameters, so that they are compared at one of them.
  funext mode parameter
  cases given : sslValue? parameter with
  | some value =>
    rw [sslValue?_eq_some_iff.mp given]
    rfl
  | none =>
    split
    · next key value cut =>
      rw [if_neg]
      · rfl
      · rintro rfl
        rw [sslValue?_eq_some_iff.mpr cut] at given
        cases given
    · rfl

/-- Each word that is given is checked, and the last one counts. -/
theorem foldlM_askedMode {words : List (List Char)} {start mode : SslMode} :
    words.foldlM (fun _ word => askedMode word) start = .ok mode ↔
      (∀ word ∈ words, ∃ mode : SslMode, word = mode.word.toList) ∧
        words.getLast?.getD start.word.toList = mode.word.toList := by
  induction words generalizing start with
  | nil => simp [pure_ok, String.toList_inj, SslMode.word_inj]
  | cons word words ih =>
    rw [List.foldlM_cons, bind_eq_ok_iff, List.forall_mem_cons, List.getLast?_cons]
    simp only [ih, askedMode_eq_ok_iff, Option.getD_some]
    constructor
    · rintro ⟨next, rfl, others, last⟩
      exact ⟨⟨⟨next, rfl⟩, others⟩, last⟩
    · rintro ⟨⟨⟨next, rfl⟩, others⟩, last⟩
      exact ⟨next, rfl, others, last⟩

/-! ## Accepted addresses in their parts -/

namespace Address

/-- The parts make an address that a text spells, with or without white space around it. -/
def IsSpeltBy (a : Address) (url : String) : Prop :=
  a.IsGrammatical ∧ Text.trim url.toList = a.chars

variable {a b : Address} {url url' : String} {p : Profile}

theorem pathParts_path (mark : '?' ∉ a.database) :
    pathParts a.path =
      (a.database, (a.parameters?.map fun ps => ['&'].intercalate ps).getD []) := by
  rw [pathParts, path, Text.cutFirst_joined mark]
  cases a.parameters? <;> simp [joined]

/-- Where there are no parameters the empty text is split, which gives no mode. -/
theorem filterMap_splitAt (mark : '?' ∉ a.database) (parameters : Separate a.parameters?) :
    (Text.splitAt '&' (pathParts a.path).2).filterMap sslValue? = a.sslValues := by
  rw [pathParts_path mark, sslValues]
  cases given : a.parameters? with
  | none => rfl
  | some ps =>
    obtain ⟨filled, none⟩ := parameters ps given
    rw [Option.map_some, Option.getD_some, Option.getD_some,
      Text.splitAt_intercalate_of_not_mem filled none]

theorem sslModeOf_path (mark : '?' ∉ a.database) (parameters : Separate a.parameters?)
    {mode : SslMode} :
    sslModeOf (pathParts a.path).2 = .ok mode ↔
      (∀ v ∈ a.sslValues, ∃ mode : SslMode, v = mode.word.toList) ∧
        a.sslValues.getLast?.getD SslMode.prefer.word.toList = mode.word.toList := by
  rw [sslModeOf_eq, filterMap_splitAt mark parameters, foldlM_askedMode]

/-- What an address says is read from it. -/
theorem IsSpeltBy.ofUrl_of_describes (spelt : a.IsSpeltBy url) (meant : a.Describes p) :
    Profile.ofUrl url = .ok p := by
  obtain ⟨h, front⟩ := spelt
  rw [Config.ofUrl_eq_ok_iff]
  refine ⟨a.scheme, h.scheme, a.credentials, a.place, a.path, ?_, h.credentials_slash,
    h.place_slash, h.place_sign, ?_, ?_, ?_, ?_, ?_, ?_, meant.name⟩
  · rw [front, chars]
  · exact (credentialsOf_joined h.user_colon).mpr ⟨meant.username, meant.password⟩
  · exact (placeOf_joined h.colon_last).mpr ⟨meant.host, meant.port⟩
  · rw [pathParts_path h.database_mark, meant.database]
  · exact (sslModeOf_path h.database_mark h.parameters).mpr ⟨h.modes, meant.sslMode⟩
  · rw [ne_eq, ← String.toList_eq_nil_iff, ← meant.host]
    exact h.host_ne
  · rw [ne_eq, ← String.toList_eq_nil_iff, ← meant.database]
    exact h.database_ne

/-- Every address says something. -/
theorem IsGrammatical.exists_describes (h : a.IsGrammatical) : ∃ p, a.Describes p := by
  obtain ⟨user, decodes⟩ := Option.isSome_iff_exists.mp h.user_decodes
  obtain ⟨password?, decoded⟩ : ∃ p? : Option String,
      a.password?.map Percent.decode? = p?.map fun w => some w.toList := by
    cases given : a.password? with
    | none => exact ⟨none, rfl⟩
    | some w =>
      obtain ⟨password, decodes⟩ := Option.isSome_iff_exists.mp (h.password_decodes w given)
      exact ⟨some (String.ofList password), by simp [decodes]⟩
  obtain ⟨port, spelt⟩ : ∃ port, a.port?.elim (port = 5432) fun w => SpellsPort w port := by
    have port := h.port
    revert port
    cases a.port? with
    | none => exact fun _ => ⟨5432, rfl⟩
    | some w => exact id
  obtain ⟨mode, asked⟩ : ∃ mode : SslMode,
      a.sslValues.getLast?.getD SslMode.prefer.word.toList = mode.word.toList := by
    cases last : a.sslValues.getLast? with
    | none => exact ⟨.prefer, rfl⟩
    | some v => exact h.modes v (List.mem_of_getLast? last)
  refine ⟨⟨String.ofList a.database ++ "@" ++ String.ofList a.host, String.ofList a.host, port,
    String.ofList a.database, String.ofList user, password?, mode⟩, ?_, decoded, ?_, spelt, ?_, rfl,
    asked⟩
  · rw [decodes, String.toList_ofList]
  · rw [String.toList_ofList]
  · rw [String.toList_ofList]

/-- What is read from an address that is accepted is what the address says. -/
theorem exists_isSpeltBy_of_ofUrl (read : Profile.ofUrl url = .ok p) :
    ∃ a : Address, a.IsSpeltBy url ∧ a.Describes p := by
  obtain ⟨scheme, mem, credentials, place, path, front, slash, slash', sign, hu, hh, hd, hm, host,
    database, name⟩ := Config.ofUrl_eq_ok_iff.mp read
  -- Each part is cut once more, at the sign at which the reader cuts it.
  obtain ⟨user, password?, rfl, colon⟩ := Text.exists_joined ':' credentials
  obtain ⟨place, port?, rfl, last⟩ := Text.exists_joined_last ':' place
  obtain ⟨db, query?, rfl, mark⟩ := Text.exists_joined '?' path
  obtain ⟨username, password⟩ := (credentialsOf_joined colon).mp hu
  obtain ⟨rfl, port⟩ := (placeOf_joined last).mp hh
  let a : Address :=
    ⟨scheme, user, password?, p.host.toList, port?, db, query?.map (Text.splitAt '&')⟩
  have whole : joined '?' db query? = a.path := by
    cases query? with
    | none => rfl
    | some query => simp [a, Address.path, Text.intercalate_splitAt]
  have parameters : Separate a.parameters? := by
    intro ps given
    obtain ⟨query, -, rfl⟩ := Option.map_eq_some_iff.mp given
    exact ⟨Text.splitAt_ne_nil '&' query, fun p mem => Text.not_mem_of_mem_splitAt mem⟩
  rw [whole] at front hd hm
  rw [pathParts_path mark] at hd
  obtain ⟨modes, mode⟩ := (sslModeOf_path mark parameters).mp hm
  refine ⟨a,
    ⟨⟨mem, slash, colon, ?_, ?_, slash', sign, ?_, ?_, ?_, mark, parameters, modes⟩, front⟩,
    ⟨username, password, rfl, port, hd, name, mode⟩⟩
  · exact Option.isSome_iff_exists.mpr ⟨_, username⟩
  · intro w given
    obtain rfl : password? = some w := given
    obtain ⟨s, -, decodes⟩ := Option.map_eq_some_iff.mp password.symm
    exact Option.isSome_iff_exists.mpr ⟨_, decodes.symm⟩
  · exact fun empty => host (String.toList_eq_nil_iff.mp empty)
  · cases port? with
    | none => exact last
    | some w => exact ⟨p.port, port⟩
  · exact fun empty => database (String.toList_eq_nil_iff.mp (hd.symm.trans empty))

/-- An address has its scheme, its credentials, its place and its path in one way. -/
theorem IsGrammatical.cut_inj (ha : a.IsGrammatical) (hb : b.IsGrammatical)
    (same : a.chars = b.chars) :
    a.scheme = b.scheme ∧ a.credentials = b.credentials ∧ a.place = b.place ∧ a.path = b.path := by
  have begins := findSome?_schemes.mpr ⟨a.scheme, ha.scheme, chars.eq_1 a⟩
  have begins' := findSome?_schemes.mpr ⟨b.scheme, hb.scheme, same.trans (chars.eq_1 b)⟩
  have rest := Option.some.inj (begins.symm.trans begins')
  have scheme : a.scheme = b.scheme := by
    rw [chars, chars, rest] at same
    exact List.append_cancel_right same
  obtain ⟨authority, first, last⟩ := cuts_iff.mpr
    ⟨rfl, ha.credentials_slash, ha.place_slash, ha.place_sign⟩
  obtain ⟨authority', first', last'⟩ := cuts_iff.mpr
    ⟨rest, hb.credentials_slash, hb.place_slash, hb.place_sign⟩
  obtain ⟨rfl, path⟩ := Prod.mk.inj (Option.some.inj (first.symm.trans first'))
  obtain ⟨credentials, place⟩ := Prod.mk.inj (Option.some.inj (last.symm.trans last'))
  exact ⟨scheme, credentials, place, path⟩

/-- An address has its parts in one way. -/
theorem IsGrammatical.chars_inj (ha : a.IsGrammatical) (hb : b.IsGrammatical)
    (same : a.chars = b.chars) : a = b := by
  obtain ⟨scheme, credentials, place, path⟩ := ha.cut_inj hb same
  obtain ⟨user, password⟩ := Text.joined_inj ha.user_colon hb.user_colon credentials
  obtain ⟨host, port⟩ := Text.joined_inj_last ha.colon_last hb.colon_last place
  obtain ⟨database, query⟩ := Text.joined_inj ha.database_mark hb.database_mark path
  have parameters : a.parameters? = b.parameters? := by
    have split {c : Address} (h : c.IsGrammatical) : c.parameters? =
        (c.parameters?.map fun ps => ['&'].intercalate ps).map (Text.splitAt '&') := by
      cases given : c.parameters? with
      | none => rfl
      | some ps =>
        obtain ⟨filled, none⟩ := h.parameters ps given
        simp [Text.splitAt_intercalate_of_not_mem filled none]
    rw [split ha, split hb, query]
  cases a
  cases b
  simp_all

variable {parameters? : Option (List (List Char))}

/-- Parameters without a mode of encryption may stand in every address, -/
theorem IsGrammatical.withParameters (h : a.IsGrammatical) (apart : Separate parameters?)
    (same : (a.withParameters parameters?).sslValues = a.sslValues) :
    (a.withParameters parameters?).IsGrammatical where
  scheme := h.scheme
  credentials_slash := h.credentials_slash
  user_colon := h.user_colon
  user_decodes := h.user_decodes
  password_decodes := h.password_decodes
  place_slash := h.place_slash
  place_sign := h.place_sign
  host_ne := h.host_ne
  port := h.port
  database_ne := h.database_ne
  database_mark := h.database_mark
  parameters := apart
  modes := by
    rw [same]
    exact h.modes

/-- and do not change what it says. -/
theorem Describes.withParameters (meant : a.Describes p)
    (same : (a.withParameters parameters?).sslValues = a.sslValues) :
    (a.withParameters parameters?).Describes p where
  username := meant.username
  password := meant.password
  host := meant.host
  port := meant.port
  database := meant.database
  name := meant.name
  sslMode := by rw [same, meant.sslMode]

end Address

/-! ## Texts that are refused -/

theorem component_eq_error {raw : List Char} {e : Error} (h : component raw = .error e) :
    ∃ reason, e = .invalid reason := by
  unfold component at h
  split at h <;> cases h
  exact ⟨_, rfl⟩

theorem credentialsOf_eq_error {s : List Char} {e : Error} (h : credentialsOf s = .error e) :
    ∃ reason, e = .invalid reason := by
  unfold credentialsOf at h
  split at h
  · rcases bind_eq_error h with user | ⟨user, h⟩
    · exact component_eq_error user
    · rcases bind_eq_error h with password | ⟨password, h⟩
      · exact component_eq_error password
      · cases h
  · rcases bind_eq_error h with user | ⟨user, h⟩
    · exact component_eq_error user
    · cases h

theorem placeOf_eq_error {s : List Char} {e : Error} (h : placeOf s = .error e) :
    ∃ reason, e = .invalid reason := by
  unfold placeOf at h
  split at h
  · split at h <;> cases h
    exact ⟨_, rfl⟩
  · cases h

theorem sslModeOf_eq_error {query : List Char} {e : Error} (h : sslModeOf query = .error e) :
    ∃ reason, e = .invalid reason := by
  rw [sslModeOf_eq] at h
  obtain ⟨_, word, asked⟩ := foldlM_eq_error h
  unfold askedMode at asked
  split at asked <;> cases asked
  exact ⟨_, rfl⟩

/-- An address that is not accepted is invalid. -/
theorem ofUrl_eq_error {url : String} {e : Error} (h : Profile.ofUrl url = .error e) :
    ∃ reason, e = .invalid reason := by
  unfold Profile.ofUrl at h
  dsimp only at h
  split at h
  swap
  · cases h
    exact ⟨_, rfl⟩
  split at h
  swap
  · cases h
    exact ⟨_, rfl⟩
  split at h
  swap
  · cases h
    exact ⟨_, rfl⟩
  rcases bind_eq_error h with refused | ⟨user, h⟩
  · exact credentialsOf_eq_error refused
  rcases bind_eq_error h with refused | ⟨place, h⟩
  · exact placeOf_eq_error refused
  rcases bind_eq_error h with refused | ⟨mode, h⟩
  · exact sslModeOf_eq_error refused
  split at h
  · cases h
    exact ⟨_, rfl⟩
  · cases h

/-! ## The grammar -/

/-- An address is accepted if it has the parts of the grammar, and gives the profile that they
describe. It has them in one way, parameters that give no mode of encryption make no difference, and
every text without such parts is invalid. -/
theorem ofUrl_accepts_grammar (url : String) :
    (∀ p, Profile.ofUrl url = .ok p ↔ ∃ a : Address, a.IsSpeltBy url ∧ a.Describes p) ∧
    (∀ a : Address, a.IsSpeltBy url →
      (∃ p, a.Describes p ∧ Profile.ofUrl url = .ok p) ∧
      (∀ b : Address, b.IsSpeltBy url → b = a) ∧
      ∀ url' parameters?, Separate parameters? →
        (a.withParameters parameters?).sslValues = a.sslValues →
        Text.trim url'.toList = (a.withParameters parameters?).chars →
        Profile.ofUrl url' = Profile.ofUrl url) ∧
    ((∀ a : Address, ¬a.IsSpeltBy url) →
      ∃ reason, Profile.ofUrl url = .error (.invalid reason)) := by
  refine ⟨fun p => ⟨Address.exists_isSpeltBy_of_ofUrl, ?_⟩, fun a spelt => ⟨?_, ?_, ?_⟩, ?_⟩
  · rintro ⟨a, spelt, meant⟩
    exact spelt.ofUrl_of_describes meant
  · obtain ⟨p, meant⟩ := spelt.1.exists_describes
    exact ⟨p, meant, spelt.ofUrl_of_describes meant⟩
  · intro b spelt'
    exact spelt'.1.chars_inj spelt.1 (spelt'.2.symm.trans spelt.2)
  · intro url' parameters? apart same front
    obtain ⟨p, meant⟩ := spelt.1.exists_describes
    have spelt' : (a.withParameters parameters?).IsSpeltBy url' :=
      ⟨spelt.1.withParameters apart same, front⟩
    rw [spelt.ofUrl_of_describes meant, spelt'.ofUrl_of_describes (meant.withParameters same)]
  · intro outside
    cases read : Profile.ofUrl url with
    | error e =>
      obtain ⟨reason, rfl⟩ := ofUrl_eq_error read
      exact ⟨reason, rfl⟩
    | ok p =>
      obtain ⟨a, spelt, -⟩ := Address.exists_isSpeltBy_of_ofUrl read
      exact absurd spelt (outside a)

/-- An address in which most of the separators occur where they do not separate. -/
def colonAddress : Address where
  scheme := "postgresql://".toList
  user := "u@x".toList
  password? := some "p%40:q".toList
  host := "[::1]".toList
  port? := some "+0080".toList
  database := "d/e".toList
  parameters? := some ["x=sslmode".toList, "sslmode=require".toList, "sslmode=disable".toList,
    "sslmode".toList]

/-- What it says. -/
def colonProfile : Profile := ⟨"d/e@[::1]", "[::1]", 80, "d/e", "u@x", some "p@:q", .disable⟩

/-- Its text, with white space around it. -/
def colonUrl : String :=
  " postgresql://u@x:p%40:q@[::1]:+0080/d/e?x=sslmode&sslmode=require&sslmode=disable&sslmode\n"

theorem spellsPort_colonAddress : SpellsPort "+0080".toList 80 :=
  ⟨"0080".toList, .inr rfl, by decide, List.all_eq_true.mp rfl, rfl⟩

theorem colonAddress_isSpeltBy : colonAddress.IsSpeltBy colonUrl where
  left :=
    { scheme := by decide
      credentials_slash := by decide
      user_colon := by decide
      user_decodes := by decide
      password_decodes := by decide +kernel
      place_slash := by decide
      place_sign := by decide
      host_ne := by decide
      port := ⟨80, spellsPort_colonAddress⟩
      database_ne := by decide
      database_mark := by decide
      parameters := by
        unfold Separate
        decide
      modes := by
        have values : colonAddress.sslValues = ["require".toList, "disable".toList] := by decide
        simp only [values, List.forall_mem_cons]
        exact ⟨⟨.require, rfl⟩, ⟨.disable, rfl⟩, List.forall_mem_nil _⟩ }
  right := by decide

theorem colonAddress_read :
    Profile.ofUrl colonUrl = .ok colonProfile ∧
    Profile.ofUrl "postgresql://u@x:p%40:q@[::1]:+0080/d/e?sslmode=require&sslmode=disable"
      = .ok colonProfile ∧
    ∃ reason, Profile.ofUrl "postgres://u@h:65536/d" = .error (.invalid reason) := by
  have meant : colonAddress.Describes colonProfile :=
    { username := by decide
      password := by decide +kernel
      host := rfl
      port := spellsPort_colonAddress
      database := rfl
      name := by decide
      sslMode := by decide }
  have read := ((ofUrl_accepts_grammar _).1 colonProfile).mpr
    ⟨colonAddress, colonAddress_isSpeltBy, meant⟩
  obtain ⟨-, -, others⟩ := (ofUrl_accepts_grammar _).2.1 colonAddress colonAddress_isSpeltBy
  have refused (a : Address) : ¬a.IsSpeltBy "postgres://u@h:65536/d" := by
    intro spelt
    obtain ⟨⟨p, -, accepted⟩, -⟩ := (ofUrl_accepts_grammar _).2.1 a spelt
    have none : (Profile.ofUrl "postgres://u@h:65536/d").isOk = false := by decide +kernel
    rw [accepted] at none
    cases none
  refine ⟨read, ?_, (ofUrl_accepts_grammar _).2.2 refused⟩
  rw [others _ (some ["sslmode=require".toList, "sslmode=disable".toList])
    (by unfold Separate; decide) (by decide) (by decide)]
  exact read

end RowCheck.Config
