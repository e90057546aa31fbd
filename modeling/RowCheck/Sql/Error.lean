import RowCheck.Fault
import RowCheck.Text.Quoted
import RowCheck.Text.Digits

/-!
# Errors of the in-process engine

What the engine reports when it rejects or fails a statement: a result code with a message, or,
for a fault that it can point at in the statement, also the statement and the byte offset.
-/

namespace RowCheck.Sql

/-- The engine's classes of failure. -/
inductive ResultCode where
  | error
  | full
  | mismatch
  | misuse
  | notNull
  | primaryKey
  | unique
  /-- A row number that is there already. -/
  | rowNumber
  deriving DecidableEq, Repr

namespace ResultCode

/-- The number of a result code. -/
def number : ResultCode → Nat
  | .error => 1
  | .full => 13
  | .mismatch => 20
  | .misuse => 21
  | .notNull => 1299
  | .primaryKey => 1555
  | .unique => 2067
  | .rowNumber => 2579

/-- The name of the class that a code belongs to. -/
def className : ResultCode → String
  | .error => "Unknown"
  | .full => "DiskFull"
  | .mismatch => "TypeMismatch"
  | .misuse => "ApiMisuse"
  | .notNull | .primaryKey | .unique | .rowNumber => "ConstraintViolation"

/-- A code in words. -/
def describe : ResultCode → String
  | .error => "SQL error or missing database"
  | .full => "Insertion failed because database is full"
  | .mismatch => "Data type mismatch"
  | .misuse => "Library used incorrectly"
  | .notNull => "A NOT NULL constraint failed"
  | .primaryKey => "A PRIMARY KEY constraint failed"
  | .unique => "A UNIQUE constraint failed"
  | .rowNumber => "rowid is not unique"

/-- The line that a code adds to a chain of causes. -/
def cause (code : ResultCode) : String := s!"Error code {code.number}: {code.describe}"

/-- A code as the record it is reported in. -/
def record (code : ResultCode) : String :=
  s!"Error \x7b code: {code.className}, extended_code: {code.number} \x7d"

/-- A code as what an error was caused by. -/
def fault (code : ResultCode) : Fault := .root code.cause code.record

end ResultCode

/-- Why the engine rejected or failed a statement. -/
inductive Error where
  | failed (code : ResultCode) (message : String)
  /-- A fault at a byte offset of the statement. -/
  | atOffset (message sql : String) (offset : Nat)
  /-- The statement has parameters, and values were given for another number of them. -/
  | parameterCount (given needed : Nat)
  /-- A value cannot be handed over, for a reason of its own type. -/
  | unconvertible (source : Fault)
  deriving DecidableEq, Repr

namespace Error

/-- The error in words. -/
def message : Error → String
  | .failed _ message => message
  | .atOffset message sql offset => s!"{message} in {sql} at offset {offset}"
  | .parameterCount given needed =>
    s!"Wrong number of parameters passed to query. Got {given}, needed {needed}"
  | .unconvertible source => source.message

/-- What the error was caused by. -/
def source? : Error → Option Fault
  | .failed code _ => some code.fault
  | .atOffset .. => some ResultCode.error.fault
  | .parameterCount .. => none
  | .unconvertible source => some source

/-- The error as the record it is reported in. -/
def record : Error → String
  | .failed code message =>
    let quotedMessage := Text.quoted message
    s!"SqliteFailure({code.record}, Some({quotedMessage}))"
  | .atOffset message sql offset =>
    let code := ResultCode.error.record
    let quotedMessage := Text.quoted message
    let quotedSql := Text.quoted sql
    s!"SqlInputError \x7b error: {code}, msg: {quotedMessage}, sql: {quotedSql}, offset: {offset} \x7d"
  | .parameterCount given needed => s!"InvalidParameterCount({given}, {needed})"
  | .unconvertible source => s!"ToSqlConversionFailure({source.record})"

/-- The error with all that is behind it. -/
def fault (e : Error) : Fault := .of e.message e.record e.source?

end Error

end RowCheck.Sql
