import Mathlib.Data.List.Basic
import RowCheck.Config.Url
import RowCheck.Proofs.Config.Percent
import RowCheck.Proofs.Text.Digits

/-!
# Addresses and profiles

`ofUrl_eq_ok_iff` says once what an accepted address looks like and what each of its parts says.
Main statement: the address of a profile is read back as that profile, whatever its user, password,
host and database are, and reading gives no other profiles than these.
-/

namespace RowCheck.Config

/-! ## Accepted addresses -/

/-- The database of a path, and the parameters behind it. -/
def pathParts (path : List Char) : List Char × List Char :=
  (Text.cutFirst '?' path).getD (path, [])

/-- No text begins with both schemes. -/
theorem schemes_apart {r t : List Char} :
    "postgres://".toList ++ r ≠ "postgresql://".toList ++ t := by
  have front : "postgres://".toList = "postgres".toList ++ [':', '/', '/'] := rfl
  have front' : "postgresql://".toList = "postgres".toList ++ ['q', 'l', ':', '/', '/'] := rfl
  rw [front, front', List.append_assoc, List.append_assoc]
  intro h
  cases List.append_cancel_left h

/-- An address begins with one of the schemes, and only in one way. -/
theorem findSome?_schemes {url rest : List Char} :
    (schemes.findSome? fun scheme => scheme.isPrefixOf? url) = some rest ↔
      ∃ scheme ∈ schemes, url = scheme ++ rest := by
  rw [schemes, List.findSome?_cons, List.findSome?_singleton]
  simp only [List.mem_cons, List.not_mem_nil, or_false, exists_eq_or_imp, exists_eq_left]
  split
  · next r first =>
    obtain rfl := List.isPrefixOf?_eq_some_iff_append_eq.mp first
    rw [List.append_cancel_left_eq, Option.some.injEq]
    exact ⟨.inl, fun h => h.resolve_right schemes_apart⟩
  · next first =>
    rw [List.isPrefixOf?_eq_some_iff_append_eq, eq_comm]
    refine ⟨.inr, fun h => h.resolve_left ?_⟩
    rintro rfl
    rw [List.isPrefixOf?_eq_some_iff_append_eq.mpr rfl] at first
    cases first

/-- The first slash ends the authority, the last sign in it begins the host. -/
theorem cuts_iff {rest credentials place path : List Char} :
    (∃ authority, Text.cutFirst '/' rest = some (authority, path) ∧
        Text.cutLast '@' authority = some (credentials, place)) ↔
      rest = credentials ++ '@' :: place ++ '/' :: path ∧
        '/' ∉ credentials ∧ '/' ∉ place ∧ '@' ∉ place := by
  constructor
  · rintro ⟨authority, first, last⟩
    obtain ⟨rfl, slash⟩ := Text.cutFirst_eq_some first
    obtain ⟨rfl, sign⟩ := Text.cutLast_eq_some last
    simp only [List.mem_append, List.mem_cons, not_or] at slash
    exact ⟨rfl, slash.1, slash.2.2, sign⟩
  · rintro ⟨rfl, slash, slash', sign⟩
    have none : '/' ∉ credentials ++ '@' :: place := by simp [slash, slash']
    exact ⟨_, Text.cutFirst_append none, Text.cutLast_append sign⟩

theorem ofUrl_eq_ok_iff {url : String} {p : Profile} :
    Profile.ofUrl url = .ok p ↔
      ∃ scheme ∈ schemes, ∃ credentials place path : List Char,
        Text.trim url.toList = scheme ++ (credentials ++ '@' :: place ++ '/' :: path) ∧
        '/' ∉ credentials ∧ '/' ∉ place ∧ '@' ∉ place ∧
        credentialsOf credentials = .ok (p.username, p.password?) ∧
        placeOf place = .ok (p.host.toList, p.port) ∧
        (pathParts path).1 = p.database.toList ∧
        sslModeOf (pathParts path).2 = .ok p.sslMode ∧
        p.host ≠ "" ∧ p.database ≠ "" ∧ p.name = p.database ++ "@" ++ p.host := by
  unfold Profile.ofUrl
  constructor
  · intro read
    simp only [bind, Except.bind, pure, Except.pure] at read
    split at read <;> try cases read
    next rest begins =>
    split at read <;> try cases read
    next authority path first =>
    split at read <;> try cases read
    next credentials place last =>
    split at read <;> try cases read
    next user hu =>
    split at read <;> try cases read
    next host hh =>
    split at read <;> try cases read
    next mode hm =>
    split at read <;> cases read
    next named =>
    obtain ⟨scheme, mem, front⟩ := findSome?_schemes.mp begins
    obtain ⟨rfl, slash, slash', sign⟩ := cuts_iff.mp ⟨authority, first, last⟩
    simp only [Bool.or_eq_true, List.isEmpty_iff, not_or] at named
    refine ⟨scheme, mem, credentials, place, path, front, slash, slash', sign, hu, ?_, ?_, hm,
      ?_, ?_, ?_⟩
    · simp [hh]
    · simp [pathParts]
    · simpa using named.1
    · simpa using named.2
    · simp [String.ofList_append, String.ofList_cons, String.append_assoc]
  · rintro ⟨scheme, mem, credentials, place, path, front, slash, slash', sign, hu, hh, hd, hm,
      host, database, name⟩
    obtain ⟨authority, first, last⟩ : ∃ authority,
        Text.cutFirst '/' (credentials ++ '@' :: place ++ '/' :: path) = some (authority, path) ∧
          Text.cutLast '@' authority = some (credentials, place) :=
      cuts_iff.mpr ⟨rfl, slash, slash', sign⟩
    have begins := findSome?_schemes.mpr ⟨scheme, mem, front⟩
    unfold pathParts at hd hm
    simp only [begins, first, last, hu, hh, hm, hd, bind, Except.bind, pure, Except.pure]
    rw [if_neg (by simp [String.toList_eq_nil_iff, host, database])]
    have named : String.ofList (p.database.toList ++ '@' :: p.host.toList) = p.name := by
      simp [name, String.ofList_append, String.ofList_cons, String.append_assoc]
    simp [named]

/-! ## What the parts of an accepted address say -/

theorem not_mem_of_placeOf {c : Char} {place host : List Char} {port : UInt16} (none : c ∉ place)
    (read : placeOf place = .ok (host, port)) : c ∉ host := by
  unfold placeOf at read
  split at read
  · next h w cut =>
    split at read <;> cases read
    rw [(Text.cutLast_eq_some cut).1, List.mem_append, not_or] at none
    exact none.1
  · cases read
    exact none

theorem not_mem_pathParts (path : List Char) : '?' ∉ (pathParts path).1 := by
  unfold pathParts
  cases cut : Text.cutFirst '?' path with
  | none => exact Text.cutFirst_eq_none.mp cut
  | some parts => exact (Text.cutFirst_eq_some cut).2

/-- What a text says about host and database without escapes: neither is empty, the host does not
end early at a separator, and no parameters begin inside the database. -/
structure Profile.Addressable (p : Profile) : Prop where
  host_ne : p.host ≠ ""
  slash : '/' ∉ p.host.toList
  sign : '@' ∉ p.host.toList
  database_ne : p.database ≠ ""
  mark : '?' ∉ p.database.toList

/-- A profile under the name that it has if it comes from an address. -/
def Profile.named (p : Profile) : Profile := { p with name := p.database ++ "@" ++ p.host }

theorem addressable_of_ofUrl {url : String} {p : Profile} (read : Profile.ofUrl url = .ok p) :
    p.Addressable ∧ p.named = p := by
  obtain ⟨scheme, -, credentials, place, path, -, -, slash, sign, -, hh, hd, -, host, database,
    name⟩ := ofUrl_eq_ok_iff.mp read
  refine ⟨⟨host, not_mem_of_placeOf slash hh, not_mem_of_placeOf sign hh, database, ?_⟩, ?_⟩
  · rw [← hd]
    exact not_mem_pathParts path
  · rw [Profile.named, ← name]

/-! ## Addresses that are written -/

theorem trim_eq_self {s : List Char} (first : ∀ c ∈ s.head?, Text.isBlank c = false)
    (last : ∀ c ∈ s.getLast?, Text.isBlank c = false) : Text.trim s = s := by
  have keeps (t : List Char) (h : ∀ c ∈ t.head?, Text.isBlank c = false) :
      t.dropWhile Text.isBlank = t := by
    cases t with
    | nil => rfl
    | cons c t => simp [h c rfl]
  rw [Text.trim, keeps s first, keeps s.reverse (by rwa [List.head?_reverse]), List.reverse_reverse]

theorem port?_decimal (port : UInt16) : port? (Text.decimal port.toNat) = some port := by
  have digits := List.all_eq_true.mpr (Text.isDigit_of_mem_decimal port.toNat)
  have some_digit := Text.decimal_ne_nil port.toNat
  have value := Text.ofDigits_decimal port.toNat
  have small := port.toNat_lt
  generalize Text.decimal port.toNat = s at *
  unfold port?
  -- A digit is no sign, so that all characters are taken for digits.
  split
  · simp [Text.isDigit] at digits
  · simp [digits, some_digit, value, small]

theorem placeOf_append (host : List Char) (port : UInt16) :
    placeOf (host ++ ':' :: Text.decimal port.toNat) = .ok (host, port) := by
  rw [placeOf, Text.cutLast_append (Text.not_mem_decimal rfl port.toNat)]
  simp only [port?_decimal]

theorem component_encode (s : String) : component (Percent.encode s.toList) = .ok s := by
  simp [component, Percent.decode?_encode]

theorem credentialsOf_encode (user : String) (password? : Option String) :
    credentialsOf (Percent.encode user.toList
      ++ (password?.elim [] fun w => ':' :: Percent.encode w.toList)) = .ok (user, password?) := by
  have none : ':' ∉ Percent.encode user.toList := Percent.not_mem_encode _ rfl
  unfold credentialsOf
  cases password? with
  | none =>
    rw [Option.elim_none, List.append_nil, Text.cutFirst_eq_none.mpr none]
    simp only [component_encode]
    rfl
  | some w =>
    rw [Option.elim_some, Text.cutFirst_append none]
    simp only [component_encode]
    rfl

theorem sslModeOf_word (mode : SslMode) :
    sslModeOf ("sslmode=".toList ++ mode.word.toList) = .ok mode := by
  cases mode <;> rfl

/-- The address of a profile in the parts of which it is put together. -/
theorem toList_url (p : Profile) :
    p.url.toList = "postgres://".toList ++ (Percent.encode p.username.toList
      ++ (p.password?.elim [] fun w => ':' :: Percent.encode w.toList)
      ++ '@' :: (p.host.toList ++ ':' :: Text.decimal p.port.toNat)
      ++ '/' :: (p.database.toList ++ '?' :: ("sslmode=".toList ++ p.sslMode.word.toList))) := by
  have mark : "?sslmode=".toList = '?' :: "sslmode=".toList := rfl
  unfold Profile.url
  simp only [String.toList_ofList, mark, List.append_assoc, List.cons_append]

/-- The words for modes end in letters. -/
theorem getLast?_word (mode : SslMode) :
    mode.word.toList ≠ [] ∧ ∀ c ∈ mode.word.toList.getLast?, Text.isBlank c = false := by
  cases mode <;> exact ⟨List.cons_ne_nil _ _, fun c last => by cases last; rfl⟩

theorem trim_url (p : Profile) : Text.trim p.url.toList = p.url.toList := by
  obtain ⟨word, last⟩ := getLast?_word p.sslMode
  apply trim_eq_self
  · rw [toList_url]
    intro c hc
    cases hc
    rfl
  · have whole : ∃ front, p.url.toList = front ++ p.sslMode.word.toList := by
      unfold Profile.url
      exact ⟨_, String.toList_ofList⟩
    obtain ⟨front, whole⟩ := whole
    rw [whole, List.getLast?_append_of_ne_nil _ word]
    exact last

/-- The address of a profile is read back as that profile, under the name of its database and its
host. -/
theorem ofUrl_url_of_addressable {p : Profile} (h : p.Addressable) :
    Profile.ofUrl p.url = .ok p.named := by
  have colon : '/' ∉ p.password?.elim [] fun w => ':' :: Percent.encode w.toList := by
    cases p.password? with
    | none => simp
    | some w => simp [Percent.not_mem_encode w.toList (c := '/') rfl]
  have path : pathParts (p.database.toList ++ '?' :: ("sslmode=".toList ++ p.sslMode.word.toList))
      = (p.database.toList, "sslmode=".toList ++ p.sslMode.word.toList) := by
    rw [pathParts, Text.cutFirst_append h.mark, Option.getD_some]
  have front := (trim_url p).trans (toList_url p)
  have scheme : "postgres://".toList ∈ schemes := List.mem_cons_self
  rw [ofUrl_eq_ok_iff]
  refine ⟨_, scheme, _, _, _, front, ?_, ?_, ?_, ?_, ?_, ?_, ?_, h.host_ne, h.database_ne, ?_⟩
  · simp [Percent.not_mem_encode p.username.toList (c := '/') rfl, colon]
  · simp [h.slash, Text.not_mem_decimal (c := '/') rfl]
  · simp [h.sign, Text.not_mem_decimal (c := '@') rfl]
  · exact credentialsOf_encode p.username p.password?
  · exact placeOf_append p.host.toList p.port
  · rw [path]
    rfl
  · rw [path]
    exact sslModeOf_word p.sslMode
  · rfl

/-- Reading addresses undoes writing them, and gives no other profiles than those whose addresses
can be written: a profile whose host and database need no escapes is read back from its address
whatever its user and password are, and each profile that is read from an address is one of these.
-/
theorem ofUrl_url :
    (∀ p : Profile, p.Addressable → Profile.ofUrl p.url = .ok p.named) ∧
    ∀ (url : String) (p : Profile), Profile.ofUrl url = .ok p →
      p.Addressable ∧ p.named = p ∧ Profile.ofUrl p.url = .ok p := by
  refine ⟨fun p h => ofUrl_url_of_addressable h, fun url p read => ?_⟩
  obtain ⟨h, named⟩ := addressable_of_ofUrl read
  have back := ofUrl_url_of_addressable h
  rw [named] at back
  exact ⟨h, named, back⟩

/-- A profile full of separators: the user is empty, the password looks like the end of an address,
the host is one of many colons and the database has a path and parameters of its own. -/
def separatedProfile : Profile where
  name := "local"
  host := "::1"
  port := 65535
  database := "a/b@c:d&sslmode=x"
  username := ""
  password? := some "p:@/%41?é'"
  sslMode := .require

/-- What a server at a port written with a plus sign is read as. -/
def plusProfile : Profile := ⟨"d@h", "h", 80, "d", "u", some "p@", .prefer⟩

theorem separatedProfile_read_back :
    separatedProfile.Addressable ∧
      Profile.ofUrl separatedProfile.url = .ok separatedProfile.named ∧
      Profile.ofUrl " postgresql://u:p%40@h:+80/d?x=1 " = .ok plusProfile ∧
      Profile.ofUrl plusProfile.url = .ok plusProfile := by
  have addressable : separatedProfile.Addressable :=
    ⟨by decide, by decide, by decide, by decide, by decide⟩
  have credentials : credentialsOf "u:p%40".toList = .ok ("u", some "p@") :=
    credentialsOf_encode "u" (some "p@")
  have read : Profile.ofUrl " postgresql://u:p%40@h:+80/d?x=1 " = .ok plusProfile :=
    ofUrl_eq_ok_iff.mpr ⟨"postgresql://".toList, by decide, "u:p%40".toList, "h:+80".toList,
      "d?x=1".toList, by decide, by decide, by decide, by decide, credentials, rfl, by decide, rfl,
      by decide, by decide, by decide⟩
  exact ⟨addressable, ofUrl_url.1 _ addressable, read, (ofUrl_url.2 _ _ read).2.2⟩

end RowCheck.Config
