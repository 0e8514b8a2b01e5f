/-
Main — the command that starts the service.

The settings come from the environment.  With a hyphen as its argument the command also reads the
text of an environment file from standard input.  It writes the log of the launch to standard
error, and where the service is to listen to standard output.
-/
import Winnow.Service.Launch

namespace Winnow.Command

/-- The lines that are left on a stream. -/
partial def remainingText (input : IO.FS.Stream) : IO String := do
  let line ← input.getLine
  if line.isEmpty then return "" else return line ++ (← remainingText input)

/-- The variables of the process that have one of some names. -/
def environment (names : List String) : IO Environment :=
  names.eraseDups.filterMapM fun name => do return (← IO.getEnv name).map (name, ·)

/-- Starts the service and reports how that went. -/
def run (file : Option String) : IO UInt32 := do
  let env ← environment (Settings.variableNames ++ (file.map EnvFile.names).getD [])
  match Launch.start env file with
  | .error fault =>
    IO.eprintln fault.message
    return 1
  | .ok launch =>
    launch.log.forM IO.eprintln
    IO.println (launch.title ++ " at " ++ launch.host ++ ":" ++ toString launch.port)
    return 0

end Winnow.Command

/-- Starts the service with the settings of the environment. -/
def main (args : List String) : IO UInt32 := do
  let file ← if args = ["-"] then some <$> Winnow.Command.remainingText (← IO.getStdin)
    else pure none
  Winnow.Command.run file
