import RowCheck.Config.Error
import RowCheck.Text.Digits

/-!
# Connection profiles

Where a server is and how to reach it.
-/

namespace RowCheck.Config

/-- When a connection is encrypted. -/
inductive SslMode where
  | disable
  | prefer
  | require
  deriving DecidableEq, Repr

namespace SslMode

/-- The word for a mode. -/
def word : SslMode → String
  | .disable => "disable"
  | .prefer => "prefer"
  | .require => "require"

def all : List SslMode := [.disable, .prefer, .require]

/-- The mode that a word names; letter case counts. -/
def ofWord? (s : String) : Option SslMode := all.find? fun mode => mode.word == s

/-- Each mode is found by its own word. -/
theorem ofWord?_word (mode : SslMode) : ofWord? mode.word = some mode := by
  cases mode <;> decide

end SslMode

/-- The port of a server that is given none. -/
def defaultPort : UInt16 := 5432

/-- Where a server is and how to reach it. -/
structure Profile where
  /-- The name of the profile, or `database@host` if it comes from an address. -/
  name : String
  host : String
  port : UInt16
  database : String
  username : String
  password? : Option String
  sslMode : SslMode
  deriving DecidableEq, Repr

end RowCheck.Config
