import RowCheck.Server.Error

/-!
# Scripted servers

A server as a list of replies, one for each statement text that it knows. Every request is answered
from the script alone, apart from what the connection has been through.
-/

namespace RowCheck.Server

/-- How the server lets a client in. -/
inductive Auth where
  | trust
  | password
  | reject (report : Report)

/-- A type that the database has added, as it describes it. -/
structure TypeEntry where
  oid : Nat
  name : String
  /-- The letter for the sort of type. -/
  sort : String
  labels : List String
  /-- The type that a domain is over; zero if there is none. -/
  base : Nat
  /-- The type of an array's items; zero if there is none. -/
  item : Nat

/-- A message in reply to a simple query. -/
inductive Message where
  | description (labels : List String)
  | row (values : List (Option (List UInt8)))
  | complete
  | emptyQuery
  | error (report : Report)
  | notice (report : Report)
  | unexpected
  | close

/-- Where the server hangs up instead of answering. -/
inductive Hangup where
  | prepare
  | execute
  deriving DecidableEq

/-- What the server does with one statement. -/
structure Reply where
  sql : String
  /-- Labels and type numbers of the columns. -/
  columns : List (String × Nat)
  rows : List (List (Option (List UInt8)))
  parameters : Nat
  prepareError? : Option Report
  executeError? : Option Report
  hangup? : Option Hangup
  messages : List Message
  /-- An error that the server sends unasked after a successful reply. -/
  thenLost? : Option Report

/-- A server: how it lets clients in, the types of its database, and its replies. -/
structure Script where
  auth : Auth
  types : List TypeEntry
  replies : List Reply

/-- The reply to a text that is not in the script. -/
def Reply.unscripted (sql : String) : Reply :=
  let report : Report := ⟨"ERROR", "42P01", "statement not scripted", none, none, none⟩
  ⟨sql, [], [], 0, some report, none, none, [.error report], none⟩

/-- The reply to a statement: the first one for exactly its text. -/
def Script.reply (script : Script) (sql : String) : Reply :=
  (script.replies.find? (·.sql == sql)).getD (.unscripted sql)

/-- The type with a number, following the descriptions at most `fuel` steps. -/
def Script.typeAt (script : Script) : Nat → Nat → Option ServerType
  | 0, _ => none
  | fuel + 1, oid =>
    match BuiltIn.ofOid? oid, unreadTypes.lookup oid with
    | some t, _ => some (.builtIn t)
    | none, some (name, tag) => some (.unread name tag)
    | none, none => do
      let entry ← script.types.find? (·.oid == oid)
      let kind : TypeKind ServerType ←
        if entry.sort = "e" then some (.enum entry.labels)
        else if entry.sort = "p" then some .pseudo
        else if entry.base ≠ 0 then (script.typeAt fuel entry.base).map .domain
        else if entry.item ≠ 0 then (script.typeAt fuel entry.item).map .array
        else if entry.sort = "c" then some .composite
        else some .simple
      return .added entry.name oid kind

/-- The type with a number, if the server knows it. -/
def Script.type? (script : Script) (oid : Nat) : Option ServerType :=
  script.typeAt (script.types.length + 1) oid

end RowCheck.Server
