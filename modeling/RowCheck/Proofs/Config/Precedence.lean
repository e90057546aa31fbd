import RowCheck.Factory
import RowCheck.Proofs.Except
import Mathlib.Data.List.TakeWhile
import Mathlib.Logic.Relation

/-!
# What the external server is found by

The settings come first: without them no external backend is opened, whatever else there is. With
them, an address that is a text and not blank is all that counts, and what is wrong with it is never
made up for by a profile. Without one the profile of the name in the settings counts, and of the
file of profiles nothing but the first one of that name, as long as all of them are sound.

Two things are passed over in silence: a file of settings that is there but cannot be seen counts as
absent, and an address that is no text counts as unset.
-/

namespace RowCheck

namespace Config

variable {α : Type}

/-! ## Files -/

namespace FileState

/-- That a file gives nothing but an error: there is no place for it, it cannot be read, or its text
is of the wrong form. -/
inductive Fails (label : String) (parse : String → Except FileFault α) : FileState → Error → Prop
  | homeless : Fails label parse .homeless .noHomeDirectory
  | unreadable (reason : String) (code : Nat) : Fails label parse (.unreadable reason code)
      (.unreadable s!"Failed to read {label} file: {reason} (os error {code})")
  | undecodable (content : List UInt8) (fault : Text.Utf8.Fault) :
    Text.Utf8.toString content = .error fault → Fails label parse (.bytes content)
      (.unreadable s!"Failed to read {label} file: stream did not contain valid UTF-8")
  | malformed (content : List UInt8) (text : String) (fault : FileFault) :
    Text.Utf8.toString content = .ok text → parse text = .error fault →
      Fails label parse (.bytes content) (.malformed fault)

/-- That a file is there and what its text says. -/
def Holds (parse : String → Except FileFault α) (file : FileState) (a : α) : Prop :=
  ∃ content text, file = .bytes content ∧ Text.Utf8.toString content = .ok text ∧
    parse text = .ok a

/-- That a file cannot be seen, whether or not it is there. -/
inductive IsUnseen : FileState → Prop
  | absent : IsUnseen .absent
  | hidden : IsUnseen .hidden

theorem IsUnseen.read {file : FileState} (h : file.IsUnseen) (label : String) :
    file.read label = .ok none := by
  cases h with
  | absent | hidden => rfl

/-- A file cannot be seen, holds something, or fails. -/
theorem unseen_or_holds_or_fails (label : String) (parse : String → Except FileFault α)
    (file : FileState) :
    file.IsUnseen ∨ (∃ a, file.Holds parse a) ∨ ∃ e, file.Fails label parse e := by
  cases file with
  | homeless => exact .inr (.inr ⟨_, .homeless⟩)
  | absent => exact .inl .absent
  | hidden => exact .inl .hidden
  | unreadable reason code => exact .inr (.inr ⟨_, .unreadable reason code⟩)
  | bytes content =>
    cases decoded : Text.Utf8.toString content with
    | error fault => exact .inr (.inr ⟨_, .undecodable content fault decoded⟩)
    | ok text =>
      cases parsed : parse text with
      | error fault => exact .inr (.inr ⟨_, .malformed content text fault decoded parsed⟩)
      | ok a => exact .inr (.inl ⟨a, content, text, rfl, decoded, parsed⟩)

variable {label : String} {parse : String → Except FileFault α} {file : FileState}

/-- A file fails when it is read, or its text fails when it is parsed. -/
theorem Fails.read {e : Error} (h : file.Fails label parse e) :
    file.read label = .error e ∨ ∃ text fault, file.read label = .ok (some text) ∧
      parse text = .error fault ∧ e = .malformed fault := by
  cases h with
  | homeless | unreadable => exact .inl rfl
  | undecodable content fault decoded => exact .inl (by simp only [FileState.read, decoded])
  | malformed content text fault decoded parsed =>
    exact .inr ⟨text, fault, by simp only [FileState.read, decoded], parsed, rfl⟩

theorem Holds.read {a : α} (h : file.Holds parse a) (label : String) :
    ∃ text, file.read label = .ok (some text) ∧ parse text = .ok a := by
  obtain ⟨content, text, rfl, decoded, parsed⟩ := h
  exact ⟨text, by simp only [FileState.read, decoded], parsed⟩

end FileState

namespace Sources

variable {s : Sources} {e : Error}

/-! ## Settings -/

theorem settings_of_fails (h : s.settingsFile.Fails "settings" settingsOf e) :
    s.settings = .error e := by
  rcases h.read with failed | ⟨text, fault, given, parsed, rfl⟩
  · rw [settings, failed]
    rfl
  · simp only [settings, given, ok_bind, parsed]
    rfl

theorem settings_of_holds {settings : Settings} (h : s.settingsFile.Holds settingsOf settings) :
    s.settings = .ok settings := by
  obtain ⟨text, given, parsed⟩ := h.read "settings"
  simp only [Sources.settings, given, ok_bind, parsed]
  rfl

theorem settings_of_isUnseen (h : s.settingsFile.IsUnseen) : s.settings = .ok .default := by
  rw [settings, h.read]
  rfl

/-! ## Addresses -/

/-- That the environment has an address: a text in which there is more than white space. -/
def IsAddressed (s : Sources) (url : String) : Prop :=
  ∃ address, s.address? = some address ∧ Text.Utf8.toString address = .ok url ∧
    ∃ c ∈ url.toList, Text.isBlank c = false

/-- That the environment has no address: there is none, or it is no text, or there is nothing but
white space in it. -/
def IsUnaddressed (s : Sources) : Prop :=
  ∀ address, s.address? = some address →
    (∃ fault, Text.Utf8.toString address = .error fault) ∨
      ∃ url, Text.Utf8.toString address = .ok url ∧ ∀ c ∈ url.toList, Text.isBlank c = true

theorem isAddressed_or_isUnaddressed (s : Sources) :
    (∃ url, s.IsAddressed url) ∨ s.IsUnaddressed := by
  by_cases addressed : ∃ url, s.IsAddressed url
  · exact .inl addressed
  · right
    intro address given
    cases decoded : Text.Utf8.toString address with
    | error fault => exact .inl ⟨fault, rfl⟩
    | ok url =>
      refine .inr ⟨url, rfl, fun c mem => ?_⟩
      by_contra shown
      exact addressed ⟨url, address, given, decoded, c, mem, by simpa using shown⟩

theorem url?_eq_some {address : List UInt8} {url : String} (given : s.address? = some address)
    (decoded : Text.Utf8.toString address = .ok url) : s.url? = some url := by
  rw [url?, given, Option.bind_some, decoded]
  rfl

theorem url?_eq_none {address : List UInt8} {fault : Text.Utf8.Fault}
    (given : s.address? = some address)
    (mangled : Text.Utf8.toString address = .error fault) : s.url? = none := by
  rw [url?, given, Option.bind_some, mangled]
  rfl

theorem trim_eq_nil_iff {text : List Char} :
    Text.trim text = [] ↔ ∀ c ∈ text, Text.isBlank c = true := by
  rw [Text.trim, List.reverse_eq_nil_iff, List.dropWhile_eq_nil_iff]
  constructor
  · intro blank c mem
    rw [← List.takeWhile_append_dropWhile (p := Text.isBlank) (l := text), List.mem_append] at mem
    rcases mem with front | rest
    · exact List.mem_takeWhile_imp front
    · exact blank c (List.mem_reverse.mpr rest)
  · intro blank c mem
    exact blank c ((List.dropWhile_sublist _).mem (List.mem_reverse.mp mem))

theorem foodmart_of_isAddressed {url : String} (h : s.IsAddressed url) (settings : Settings) :
    s.foodmart settings = Profile.ofUrl url := by
  obtain ⟨address, given, decoded, c, mem, shown⟩ := h
  have filled : Text.trim url.toList ≠ [] := by
    intro none
    rw [trim_eq_nil_iff.mp none c mem] at shown
    cases shown
  simp only [foodmart, url?_eq_some given decoded]
  rw [if_neg (by simpa using filled)]

theorem foodmart_of_isUnaddressed (h : s.IsUnaddressed) (settings : Settings) :
    s.foodmart settings = s.findProfile settings.foodmartProfile := by
  cases given : s.address? with
  | none =>
    have none : s.url? = none := by rw [url?, given, Option.bind_none]
    simp only [foodmart, none]
  | some address =>
    rcases h address given with ⟨fault, mangled⟩ | ⟨url, decoded, blank⟩
    · simp only [foodmart, url?_eq_none given mangled]
    · simp only [foodmart, url?_eq_some given decoded, trim_eq_nil_iff.mpr blank]
      rfl

/-! ## Profiles -/

theorem findProfile_of_isUnseen (h : s.profilesFile.IsUnseen) (name : String) :
    s.findProfile name = .error (.profileNotFound name) := by
  rw [findProfile, h.read]
  rfl

theorem findProfile_of_fails (h : s.profilesFile.Fails "connections" profilesOf e)
    (name : String) : s.findProfile name = .error e := by
  rcases h.read with failed | ⟨text, fault, given, parsed, rfl⟩
  · rw [findProfile, failed]
    rfl
  · simp only [findProfile, given, ok_bind, parsed]
    rfl

/-- The first profile of a name, or the error that there is none. -/
def firstNamed (name : String) (profiles : List Profile) : Except Error Profile :=
  (profiles.find? (·.name == name)).elim (.error (.profileNotFound name)) .ok

theorem findProfile_of_holds {profiles : List Profile}
    (h : s.profilesFile.Holds profilesOf profiles) (name : String) :
    s.findProfile name = firstNamed name profiles := by
  obtain ⟨text, given, parsed⟩ := h.read "connections"
  simp only [findProfile, given, ok_bind, parsed, ofFile, firstNamed]
  cases profiles.find? (·.name == name) <;> rfl

/-- That a text has an entry among its profiles that is none. -/
def HasMalformedProfile (text : String) : Prop :=
  ∃ members v entries entry fault, document text = .ok members ∧
    Toml.get? "connections" members = some v ∧ Records.items v = .ok entries ∧ entry ∈ entries ∧
    Records.profile entry = .error fault

theorem profilesOf_of_hasMalformedProfile {text : String} (h : HasMalformedProfile text) :
    ∃ fault, profilesOf text = .error fault := by
  obtain ⟨members, v, entries, entry, fault, read, listed, items, mem, malformed⟩ := h
  have parsed : profilesOf text = entries.mapM Records.profile := by
    simp only [profilesOf, read, ok_bind, listed, items]
  cases all : entries.mapM Records.profile with
  | error fault' => exact ⟨fault', parsed.trans all⟩
  | ok profiles =>
    obtain ⟨p, sound⟩ := exists_mapM_eq_ok_iff.mp ⟨profiles, all⟩ entry mem
    rw [malformed] at sound
    cases sound

/-- What is found for a name, by what the file of the profiles has. -/
structure FindsFirst (s : Sources) (name : String) (found : Except Error Profile) : Prop where
  unseen : s.profilesFile.IsUnseen → found = .error (.profileNotFound name)
  fails : ∀ e, s.profilesFile.Fails "connections" profilesOf e → found = .error e
  first : ∀ front p back, s.profilesFile.Holds profilesOf (front ++ p :: back) →
    (∀ q ∈ front, q.name ≠ name) → p.name = name → found = .ok p
  missing : ∀ profiles, s.profilesFile.Holds profilesOf profiles →
    (∀ p ∈ profiles, p.name ≠ name) → found = .error (.profileNotFound name)
  malformed : ∀ content text, s.profilesFile = .bytes content →
    Text.Utf8.toString content = .ok text → HasMalformedProfile text →
    ∃ fault, found = .error (.malformed fault)

theorem findsFirst_findProfile (s : Sources) (name : String) :
    s.FindsFirst name (s.findProfile name) where
  unseen unseen := findProfile_of_isUnseen unseen name
  fails e fails := findProfile_of_fails fails name
  first front p back holds others named := by
    have skipped : front.find? (·.name == name) = none :=
      List.find?_eq_none.mpr fun q mem => by simpa using others q mem
    rw [findProfile_of_holds holds, firstNamed, List.find?_append, skipped]
    simp [named]
  missing profiles holds others := by
    have none : profiles.find? (·.name == name) = none :=
      List.find?_eq_none.mpr fun p mem => by simpa using others p mem
    rw [findProfile_of_holds holds, firstNamed, none]
    rfl
  malformed content text file decoded malformed := by
    obtain ⟨fault, parsed⟩ := profilesOf_of_hasMalformedProfile malformed
    have fails : s.profilesFile.Fails "connections" profilesOf (.malformed fault) := by
      rw [file]
      exact .malformed content text fault decoded parsed
    exact ⟨fault, findProfile_of_fails fails name⟩

/-! ## Edits of the profiles -/

/-- A change of the profiles that is of no account for the one of a name: one of another name is
added or left out or changes places with its neighbour, or a further one of the name is added at the
end. -/
inductive Edit (name : String) : List Profile → List Profile → Prop
  | add (front back : List Profile) (p : Profile) :
    p.name ≠ name → Edit name (front ++ back) (front ++ p :: back)
  | remove (front back : List Profile) (p : Profile) :
    p.name ≠ name → Edit name (front ++ p :: back) (front ++ back)
  | swap (front back : List Profile) (p q : Profile) :
    p.name ≠ name ∨ q.name ≠ name → Edit name (front ++ p :: q :: back) (front ++ q :: p :: back)
  | append (profiles : List Profile) (p q : Profile) :
    q ∈ profiles → q.name = name → p.name = name → Edit name profiles (profiles ++ [p])

theorem find?_edit {name : String} {profiles edited : List Profile}
    (h : Edit name profiles edited) :
    edited.find? (·.name == name) = profiles.find? (·.name == name) := by
  cases h with
  | add front back p other | remove front back p other =>
    simp [List.find?_append, other]
  | swap front back p q other =>
    rcases other with other | other
    · simp [List.find?_append, List.find?_cons, other]
    · simp [List.find?_append, List.find?_cons, other]
  | append _ p q mem named _ =>
    have found : (profiles.find? (·.name == name)).isSome :=
      List.find?_isSome.mpr ⟨q, mem, by simpa using named⟩
    obtain ⟨first, found⟩ := Option.isSome_iff_exists.mp found
    simp [List.find?_append, found]

/-- However many such changes there are, the profile of the name stays. -/
theorem firstNamed_edits {name : String} {profiles edited : List Profile}
    (h : Relation.ReflTransGen (Edit name) profiles edited) :
    firstNamed name edited = firstNamed name profiles := by
  induction h with
  | refl => rfl
  | tail _ edit ih =>
    rw [← ih, firstNamed, firstNamed, find?_edit edit]

end Sources

end Config

/-! ## External backends -/

namespace Surroundings

open Config (Settings Profile settingsOf profilesOf)
open Config.Sources (Edit FindsFirst)

variable {s s' : Surroundings} {settings settings' : Settings} {b : Backend}

theorem externalProfile_of_settings (h : s.sources.settings = .ok settings) :
    s.externalProfile = ((s.sources.foodmart settings).map fun p => (settings, p)).mapError
      .configuration := by
  rw [externalProfile, h]
  dsimp only
  cases s.sources.foodmart settings <;> rfl

theorem openBackend_of_externalProfile (external : b.isExternal = true) {e : SetupError}
    (h : s.externalProfile = .error e) : s.openBackend b = (.empty, .error e) := by
  cases b with
  | regular => cases external
  | foodmart | foodmartNative => simp only [openBackend, openServer, h]
  | foodmartClone => simp only [openBackend, openClone, h]

/-- Two surroundings that both have settings, with the same server in reach and the same tables to
copy from it. -/
structure Alike (s s' : Surroundings) (settings settings' : Settings) : Prop where
  given : s.sources.settings = .ok settings
  given' : s'.sources.settings = .ok settings'
  endpoint : s'.endpoint? = s.endpoint?
  schema : settings'.foodmartSchema = settings.foodmartSchema
  tables : settings'.cloneTables = settings.cloneTables

/-- In such surroundings everything depends on the profile that is found. -/
theorem Alike.openBackend_eq (alike : s.Alike s' settings settings')
    (found : s'.sources.foodmart settings' = s.sources.foodmart settings) (b : Backend) :
    s'.openBackend b = s.openBackend b := by
  have profile := externalProfile_of_settings alike.given
  have profile' := externalProfile_of_settings alike.given'
  rw [found] at profile'
  cases resolved : s.sources.foodmart settings with
  | error e =>
    rw [resolved] at profile profile'
    cases b with
    | regular => rfl
    | foodmart | foodmartNative | foodmartClone =>
      rw [openBackend_of_externalProfile rfl profile, openBackend_of_externalProfile rfl profile']
  | ok p =>
    rw [resolved] at profile profile'
    have profile : s.externalProfile = .ok (settings, p) := profile
    have profile' : s'.externalProfile = .ok (settings', p) := profile'
    cases b with
    | regular => rfl
    | foodmart | foodmartNative =>
      simp only [openBackend, openServer, profile, profile', alike.endpoint]
    | foodmartClone =>
      simp only [openBackend, openClone, profile, profile', alike.endpoint, alike.schema,
        alike.tables]

/-- What an external backend is opened from. If there are no settings because of their file, that
is the error, whatever the address and the profiles are; a file that cannot be seen leaves the
settings at their defaults, even if it is there. If there are settings, an address that is a text
and not blank is all that counts, errors included. Without one, be it that the address is no text,
nothing counts but the name in the settings and the file of the profiles, and of that file only the
first profile of the name, unless the file has an entry that is none. -/
theorem external_precedence (s : Surroundings) :
    (∀ (e : Config.Error) (b : Backend), b.isExternal = true →
      s.sources.settingsFile.Fails "settings" settingsOf e →
      s.openBackend b = (.empty, .error (.configuration e))) ∧
    ((s.sources.settingsFile.IsUnseen ∧ s.sources.settings = .ok .default) ∨
      (∃ settings, s.sources.settingsFile.Holds settingsOf settings ∧
        s.sources.settings = .ok settings) ∨
      ∃ e, s.sources.settingsFile.Fails "settings" settingsOf e) ∧
    ((∃ url, s.sources.IsAddressed url) ∨ s.sources.IsUnaddressed) ∧
    (∀ (settings : Settings) (url : String),
      s.sources.settings = .ok settings → s.sources.IsAddressed url →
      s.sources.foodmart settings = Profile.ofUrl url ∧
      ∀ (e : Config.Error) (b : Backend), Profile.ofUrl url = .error e → b.isExternal = true →
        s.openBackend b = (.empty, .error (.configuration e))) ∧
    (∀ (s' : Surroundings) (settings settings' : Settings) (url : String) (b : Backend),
      s.Alike s' settings settings' → s.sources.IsAddressed url → s'.sources.IsAddressed url →
      s'.openBackend b = s.openBackend b) ∧
    (∀ settings : Settings, s.sources.settings = .ok settings → s.sources.IsUnaddressed →
      s.sources.FindsFirst settings.foodmartProfile (s.sources.foodmart settings) ∧
      ∀ (e : Config.Error) (b : Backend), s.sources.foodmart settings = .error e →
        b.isExternal = true → s.openBackend b = (.empty, .error (.configuration e))) ∧
    (∀ (s' : Surroundings) (settings settings' : Settings), s.sources.IsUnaddressed →
      s'.sources.IsUnaddressed → settings'.foodmartProfile = settings.foodmartProfile →
      s'.sources.profilesFile = s.sources.profilesFile →
      s'.sources.foodmart settings' = s.sources.foodmart settings ∧
        (s.Alike s' settings settings' → ∀ b, s'.openBackend b = s.openBackend b)) ∧
    (∀ (s' : Surroundings) (settings settings' : Settings) (profiles edited : List Profile),
      s.sources.IsUnaddressed → s'.sources.IsUnaddressed →
      settings'.foodmartProfile = settings.foodmartProfile →
      s.sources.profilesFile.Holds profilesOf profiles →
      s'.sources.profilesFile.Holds profilesOf edited →
      Relation.ReflTransGen (Edit settings.foodmartProfile) profiles edited →
      s'.sources.foodmart settings' = s.sources.foodmart settings ∧
        (s.Alike s' settings settings' → ∀ b, s'.openBackend b = s.openBackend b)) := by
  have refused (settings : Settings) (e : Config.Error) (b : Backend)
      (given : s.sources.settings = .ok settings) (failed : s.sources.foodmart settings = .error e)
      (external : b.isExternal = true) : s.openBackend b = (.empty, .error (.configuration e)) := by
    refine openBackend_of_externalProfile external ?_
    rw [externalProfile_of_settings given, failed]
    rfl
  refine ⟨?_, ?_, s.sources.isAddressed_or_isUnaddressed, ?_, ?_, ?_, ?_, ?_⟩
  · intro e b external fails
    refine openBackend_of_externalProfile external ?_
    rw [externalProfile, Config.Sources.settings_of_fails fails]
  · rcases s.sources.settingsFile.unseen_or_holds_or_fails "settings" settingsOf with
      unseen | ⟨settings, holds⟩ | fails
    · exact .inl ⟨unseen, Config.Sources.settings_of_isUnseen unseen⟩
    · exact .inr (.inl ⟨settings, holds, Config.Sources.settings_of_holds holds⟩)
    · exact .inr (.inr fails)
  · intro settings url given addressed
    have found := Config.Sources.foodmart_of_isAddressed addressed settings
    exact ⟨found, fun e b failed external =>
      refused settings e b given (found.trans failed) external⟩
  · intro s' settings settings' url b alike addressed addressed'
    refine alike.openBackend_eq ?_ b
    rw [Config.Sources.foodmart_of_isAddressed addressed,
      Config.Sources.foodmart_of_isAddressed addressed']
  · intro settings given unaddressed
    refine ⟨?_, fun e b failed external => refused settings e b given failed external⟩
    rw [Config.Sources.foodmart_of_isUnaddressed unaddressed]
    exact Config.Sources.findsFirst_findProfile ..
  · intro s' settings settings' unaddressed unaddressed' name file
    have found : s'.sources.foodmart settings' = s.sources.foodmart settings := by
      rw [Config.Sources.foodmart_of_isUnaddressed unaddressed,
        Config.Sources.foodmart_of_isUnaddressed unaddressed', name, Config.Sources.findProfile,
        Config.Sources.findProfile, file]
    exact ⟨found, fun alike b => alike.openBackend_eq found b⟩
  · intro s' settings settings' profiles edited unaddressed unaddressed' name holds holds' edits
    have found : s'.sources.foodmart settings' = s.sources.foodmart settings := by
      rw [Config.Sources.foodmart_of_isUnaddressed unaddressed,
        Config.Sources.foodmart_of_isUnaddressed unaddressed', name,
        Config.Sources.findProfile_of_holds holds, Config.Sources.findProfile_of_holds holds',
        Config.Sources.firstNamed_edits edits]
    exact ⟨found, fun alike b => alike.openBackend_eq found b⟩

/-! A profile `a` before the profile `b` that the settings name. -/

/-- A file with a text. -/
def fileOf (text : String) : Config.FileState := .bytes (Text.Utf8.encode text.toList)

/-- A file of settings that names the profile `b`. -/
def namingFile : Config.FileState := fileOf "foodmart_profile = 'b'"

/-- What that file says. -/
def namingSettings : Settings := { Settings.default with foodmartProfile := "b" }

/-- A file with both profiles. -/
def pairFile : Config.FileState :=
  fileOf "connections = [['a', 'h', 1, 'd', 'u'], ['b', 'h', 2, 'd', 'u']]"

/-- A file with the profile `b` alone. -/
def lonelyFile : Config.FileState := fileOf "connections = [['b', 'h', 2, 'd', 'u']]"

/-- The profile `a`. -/
def profileA : Profile := ⟨"a", "h", 1, "d", "u", none, .prefer⟩

/-- The profile `b`. -/
def profileB : Profile := ⟨"b", "h", 2, "d", "u", none, .prefer⟩

/-- An address that is sound. -/
def soundAddress : List UInt8 := Text.Utf8.ofString "postgres://u@h/d"

/-- An address of another sort, which is refused. -/
def strangeAddress : List UInt8 := Text.Utf8.ofString "mysql://u@h/d"

/-- That address with a byte at its end that makes it no text. -/
def mangledAddress : List UInt8 := strangeAddress ++ [0xff]

theorem holds_fileOf {α : Type} {parse : String → Except Config.FileFault α} {text : String} {a : α}
    (decoded : Text.Utf8.toString (Text.Utf8.encode text.toList) = .ok text)
    (parsed : parse text = .ok a) : (fileOf text).Holds parse a :=
  ⟨_, text, rfl, decoded, parsed⟩

theorem settings_namingFile (profiles : Config.FileState) (address? : Option (List UInt8)) :
    Config.Sources.settings ⟨namingFile, profiles, address?⟩ = .ok namingSettings :=
  Config.Sources.settings_of_holds (holds_fileOf (by decide +kernel) (by decide +kernel))

theorem holds_pairFile : pairFile.Holds profilesOf [profileA, profileB] :=
  holds_fileOf (by decide +kernel) (by decide +kernel)

theorem openBackend_of_files :
    openBackend ⟨⟨.directory, pairFile, some soundAddress⟩, none⟩ .foodmartClone
        = (.empty, .error (.configuration
          (.unreadable "Failed to read settings file: Is a directory (os error 21)"))) ∧
      openBackend ⟨⟨namingFile, pairFile, some strangeAddress⟩, none⟩ .foodmartNative
        = (.empty, .error (.configuration (.invalid "URL must start with postgres://"))) ∧
      openBackend ⟨⟨namingFile, .directory, some soundAddress⟩, none⟩ .foodmart
        = openBackend ⟨⟨.absent, pairFile, some soundAddress⟩, none⟩ .foodmart ∧
      Config.Sources.foodmart ⟨namingFile, pairFile, some [9, 32]⟩ namingSettings = .ok profileB ∧
      openBackend ⟨⟨namingFile, lonelyFile, none⟩, none⟩ .foodmart
        = openBackend ⟨⟨namingFile, pairFile, some [9, 32]⟩, none⟩ .foodmart := by
  have lonely : lonelyFile.Holds profilesOf [profileB] :=
    holds_fileOf (by decide +kernel) (by decide +kernel)
  have blank : Config.Sources.IsUnaddressed ⟨namingFile, pairFile, some [9, 32]⟩ := by
    intro address given
    cases given
    exact .inr ⟨"\t ", by decide +kernel, List.all_eq_true.mp rfl⟩
  have sound (settings profiles : Config.FileState) :
      Config.Sources.IsAddressed ⟨settings, profiles, some soundAddress⟩ "postgres://u@h/d" :=
    ⟨_, rfl, by decide +kernel, '/', by decide, rfl⟩
  have strange : Config.Sources.IsAddressed ⟨namingFile, pairFile, some strangeAddress⟩
      "mysql://u@h/d" :=
    ⟨_, rfl, by decide +kernel, '/', by decide, rfl⟩
  refine ⟨?_, ?_, ?_, ?_, ?_⟩
  · obtain ⟨broken, -⟩ :=
      external_precedence ⟨⟨.directory, pairFile, some soundAddress⟩, none⟩
    exact broken _ _ rfl (.unreadable ..)
  · obtain ⟨-, -, -, invalid, -⟩ :=
      external_precedence ⟨⟨namingFile, pairFile, some strangeAddress⟩, none⟩
    obtain ⟨-, refused⟩ := invalid _ _ (settings_namingFile ..) strange
    exact refused _ _ (by decide +kernel) rfl
  · obtain ⟨-, -, -, -, addressed, -⟩ :=
      external_precedence ⟨⟨.absent, pairFile, some soundAddress⟩, none⟩
    exact addressed ⟨⟨namingFile, .directory, some soundAddress⟩, none⟩ .default _ _ _
      ⟨rfl, settings_namingFile .., rfl, rfl, rfl⟩ (sound ..) (sound ..)
  · obtain ⟨-, -, -, -, -, unaddressed, -⟩ :=
      external_precedence ⟨⟨namingFile, pairFile, some [9, 32]⟩, none⟩
    obtain ⟨found, -⟩ := unaddressed _ (settings_namingFile ..) blank
    exact found.first [profileA] profileB [] holds_pairFile (by decide) rfl
  · obtain ⟨-, -, -, -, -, -, -, edited⟩ :=
      external_precedence ⟨⟨namingFile, pairFile, some [9, 32]⟩, none⟩
    have fewer : Relation.ReflTransGen (Edit "b") [profileA, profileB] [profileB] :=
      .single (.remove [] [profileB] profileA (by decide))
    obtain ⟨-, same⟩ := edited ⟨⟨namingFile, lonelyFile, none⟩, none⟩ namingSettings namingSettings
      _ _ blank nofun rfl holds_pairFile lonely fewer
    exact same ⟨settings_namingFile .., settings_namingFile .., rfl, rfl, rfl⟩ .foodmart

/-- An address that is no text is passed over, though it is there and not blank and would be refused
as a text, and the profile is used in its place. A file of settings that is there but cannot be seen
is passed over as well. -/
theorem foodmart_of_mangledAddress :
    Text.Utf8.toString mangledAddress = .error ⟨13, some 1⟩ ∧
      Config.Sources.foodmart ⟨namingFile, pairFile, some strangeAddress⟩ namingSettings
        = .error (.invalid "URL must start with postgres://") ∧
      Config.Sources.foodmart ⟨namingFile, pairFile, some mangledAddress⟩ namingSettings
        = .ok profileB ∧
      Config.Sources.foodmart ⟨namingFile, .absent, some mangledAddress⟩ namingSettings
        = .error (.profileNotFound "b") ∧
      Config.Sources.settings ⟨.hidden, pairFile, some strangeAddress⟩ = .ok .default := by
  have mangled : Text.Utf8.toString mangledAddress = .error ⟨13, some 1⟩ := by decide +kernel
  have passed (profiles : Config.FileState) :
      Config.Sources.IsUnaddressed ⟨namingFile, profiles, some mangledAddress⟩ := by
    intro address given
    cases given
    exact .inl ⟨_, mangled⟩
  refine ⟨mangled, by decide +kernel, ?_, ?_, Config.Sources.settings_of_isUnseen .hidden⟩
  · rw [Config.Sources.foodmart_of_isUnaddressed (passed pairFile),
      Config.Sources.findProfile_of_holds holds_pairFile]
    rfl
  · rw [Config.Sources.foodmart_of_isUnaddressed (passed .absent),
      Config.Sources.findProfile_of_isUnseen .absent]
    rfl

end Surroundings

end RowCheck
