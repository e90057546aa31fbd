import RowCheck.Config.Profile
import RowCheck.Toml.Reader

/-!
# Profiles and settings in configuration files

The records that the two configuration files hold. Keys that are not known are left aside; a value
of the wrong type is a fault, and so is a missing field that has no default. Of several faults the
one that comes first in the document counts, missing fields of a record after its other faults.
-/

namespace RowCheck.Config

/-- Settings of the checks. -/
structure Settings where
  /-- The profile of the external server. -/
  foodmartProfile : String
  /-- The schema of its tables, on the server and in copies. -/
  foodmartSchema : String
  /-- The tables that a copy has. -/
  cloneTables : List String
  deriving DecidableEq, Repr

/-- The settings that hold unless a file says otherwise. -/
def Settings.default : Settings where
  foodmartProfile := "foodmart"
  foodmartSchema := "foodmart"
  cloneTables := ["customer", "product", "sales_fact_1997", "store", "time_by_day"]

namespace Records

/-- A text. -/
def string : Toml → Except FileFault String
  | .string s => .ok s
  | _ => .error .malformed

/-- A port number. -/
def port : Toml → Except FileFault UInt16
  | .integer i => if 0 ≤ i ∧ i < 65536 then .ok (.ofNat i.toNat) else .error .malformed
  | _ => .error .malformed

/-- The mode that a name stands for. -/
def sslModeNamed (s : String) : Except FileFault SslMode :=
  match SslMode.ofWord? s with
  | some mode => .ok mode
  | none => .error (.unknownVariant s (SslMode.all.map SslMode.word))

/-- Whether a value holds nothing. -/
def isHollow : Toml → Bool
  | .array [] | .table _ [] | .tables [] => true
  | _ => false

/-- A mode: its name, or a table that has the name as its only key and nothing below it. -/
def sslMode : Toml → Except FileFault SslMode
  | .string s => sslModeNamed s
  | .table _ [(key, v)] => do
    let mode ← sslModeNamed key
    if isHollow v then return mode else .error .malformed
  | _ => .error .malformed

/-- The fields of a profile as far as they have been given. -/
structure Partial where
  name? : Option String
  host? : Option String
  port? : Option UInt16
  database? : Option String
  username? : Option String
  password? : Option String
  sslMode? : Option SslMode

/-- Takes one field into account. -/
def Partial.put (p : Partial) (key : String) (v : Toml) : Except FileFault Partial :=
  match key with
  | "name" => return { p with name? := some (← string v) }
  | "host" => return { p with host? := some (← string v) }
  | "port" => return { p with port? := some (← Records.port v) }
  | "database" => return { p with database? := some (← string v) }
  | "username" => return { p with username? := some (← string v) }
  | "password" => return { p with password? := some (← string v) }
  | "ssl_mode" => return { p with sslMode? := some (← sslMode v) }
  | _ => return p

/-- The profile of the fields given; the port and the mode have defaults, the password is optional,
and `missing` says what is wrong when another field is not there. -/
def Partial.finish (missing : String → FileFault) (p : Partial) : Except FileFault Profile := do
  let need (field : String) : Option String → Except FileFault String
    | some s => .ok s
    | none => .error (missing field)
  return {
    name := ← need "name" p.name?
    host := ← need "host" p.host?
    port := p.port?.getD defaultPort
    database := ← need "database" p.database?
    username := ← need "username" p.username?
    password? := p.password?
    sslMode := p.sslMode?.getD .prefer }

def Partial.empty : Partial := ⟨none, none, none, none, none, none, none⟩

/-- The fields of a profile in the order in which a list gives them. -/
def fieldOrder : List String :=
  ["name", "host", "port", "database", "username", "password", "ssl_mode"]

/-- A profile from a table, or from a list of its fields. A date counts as a table without any of
them. -/
def profile : Toml → Except FileFault Profile
  | .table _ ms => do (← fields ms).finish .missingField
  | .dateTime _ => Partial.empty.finish .missingField
  | .array items => do (← fields (fieldOrder.zip items)).finish fun _ => .malformed
  | .tables items =>
    do (← fields (fieldOrder.zip (items.map (.table .header)))).finish fun _ => .malformed
  | _ => .error .malformed
where
  fields (ms : Toml.Members) : Except FileFault Partial :=
    ms.foldlM (fun p m => p.put m.1 m.2) .empty

/-- The items of a list. -/
def items : Toml → Except FileFault (List Toml)
  | .array vs => .ok vs
  | .tables ts => .ok (ts.map (.table .header))
  | _ => .error .malformed

end Records

/-- The members of a document, or the fault that it is no TOML. -/
def document (text : String) : Except FileFault Toml.Members :=
  match Toml.parse text with
  | some ms => .ok ms
  | none => .error .malformed

/-- The profiles of a file. -/
def profilesOf (text : String) : Except FileFault (List Profile) := do
  match Toml.get? "connections" (← document text) with
  | none => return []
  | some v => (← Records.items v).mapM Records.profile

/-- The settings of a file; what it does not say keeps its default. -/
def settingsOf (text : String) : Except FileFault Settings := do
  (← document text).foldlM (fun settings (key, v) =>
    match key with
    | "foodmart_profile" => return { settings with foodmartProfile := ← Records.string v }
    | "foodmart_schema" => return { settings with foodmartSchema := ← Records.string v }
    | "clone_tables" =>
      return { settings with cloneTables := ← (← Records.items v).mapM Records.string }
    | _ => return settings) Settings.default

end RowCheck.Config
