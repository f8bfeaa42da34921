/-!
The settings of the client and their defaults.
-/

namespace VirtualTables

structure Settings.Connection where
  /-- Milliseconds to wait for a connection; zero for any time. -/
  connectTimeout : Nat
  /-- Milliseconds to wait for a whole response; zero for any time. -/
  requestTimeout : Nat
  maxRedirects : Nat
  userAgent : String
deriving DecidableEq

structure Settings.Logging where
  level : String
  format : String
  /-- The file, unless the log goes to the standard error output. -/
  file : Option String
deriving DecidableEq

structure Settings where
  connection : Settings.Connection
  logging : Settings.Logging
deriving DecidableEq

namespace Settings

def version : String := "0.1.0"

def versionNumbers : Nat × Nat := (0, 1)

def Connection.default : Connection :=
  ⟨10000, 60000, 5, "pdi-dataservice-client/" ++ version⟩

def Logging.default : Logging :=
  ⟨"warn", "text", none⟩

def default : Settings :=
  ⟨.default, .default⟩

def limited (milliseconds : Nat) : Option Nat :=
  if milliseconds = 0 then none else some milliseconds

end Settings

end VirtualTables
