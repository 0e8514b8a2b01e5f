/-
Launch — starting the service from its environment.

The settings come first, then the level of the log, then the service itself; the first of them that
fails decides.
-/
import Winnow.Service.App
import Winnow.Service.EnvFile

namespace Winnow

/-- Why the service does not start. -/
inductive LaunchFault where
  /-- A variable of the file cannot be set. -/
  | badVariable
  | settings (fault : SettingsFault)
  /-- The level of the log has no known name. -/
  | unknownLevel
  | app (fault : AppFault)
deriving DecidableEq, Repr

/-- The message about a fault. -/
def LaunchFault.message : LaunchFault → String
  | .badVariable => "a variable of the file cannot be set"
  | .settings fault => fault.message
  | .unknownLevel => "LOG_LEVEL must name a level"
  | .app .invalidUrl => "FILLOUT_BASE_URL must be an address"
  | .app .keyNotAscii => "API_KEY must be in ASCII"

/-- A started service, and the lines that it has written to its log. -/
structure Launch where
  title : String
  host : String
  port : Int
  log : List String
deriving DecidableEq, Repr

namespace Launch

/-- The severity of a level of the log. -/
def severity? : String → Option Nat
  | "CRITICAL" | "FATAL" => some 50
  | "ERROR" => some 40
  | "WARN" | "WARNING" => some 30
  | "INFO" => some 20
  | "DEBUG" => some 10
  | "NOTSET" => some 0
  | _ => none

/-- The severity of information. -/
def informationSeverity : Nat := 20

/-- The settings of an environment and the text of a file beside it. -/
def settings (env : Environment) (file : Option String) : Except LaunchFault Settings := do
  let env ← match file with
    | none => pure env
    | some text => match EnvFile.load? env text with
      | some env => pure env
      | none => throw .badVariable
  (Settings.ofEnvironment env).mapError .settings

/-- Starts the service. -/
def start (env : Environment) (file : Option String) : Except LaunchFault Launch := do
  let s ← settings env file
  let some severity := severity? s.logLevel | throw .unknownLevel
  let _ ← (App.ofSettings s).mapError LaunchFault.app
  let line := "INFO Server is running at http://localhost:" ++ toString s.port
  return {
    title := "Fillout Filtered Responses"
    host := "0.0.0.0"
    port := s.port
    log := if severity ≤ informationSeverity then [line] else [] }

end Launch

end Winnow
