import Daybook.Http.Cors
import Daybook.Settings.Basic

/-!
# The command line

The settings of the server are read from the command line and the environment, and checked.

## Main definitions

* `CommandLine.summary` : what is reported about settings that are in order.
-/

namespace Daybook.CommandLine

/-- What is reported about settings, or what is wrong with them: their zone has to be known, and
their list of origins may not hold the wildcard. -/
def summary (s : Settings) : Except String String := do
  let _ ← s.zone.mapError DateError.message
  if (Cors.Policy.ofSetting? s.origins).isNone then
    throw "The wildcard cannot stand in the list of origins"
  pure ("Settings are in order for " ++ s.bindAddress ++ " in " ++ s.timezone ++ "\n" ++
    s.login.summary)

/-- The variables of the environment that give settings. -/
def environment : IO (List (String × String)) :=
  Flag.all.filterMapM fun f => do
    let value ← IO.getEnv f.environmentName
    pure (value.map fun v => (f.environmentName, v))

/-- Reads and checks the settings.  The exit code is two for a mistake in giving them, and one when
they are not in order. -/
def run (arguments : List String) : IO UInt32 := do
  match Settings.read arguments (← environment) with
  | .error .help => do
    IO.println UsageError.help.message
    for f in Flag.all do
      IO.println ("  --" ++ f.name ++ "  " ++ f.environmentName)
    pure 0
  | .error e => do
    IO.eprintln e.message
    pure 2
  | .ok s =>
    match summary s with
    | .ok text => do
      IO.println text
      pure 0
    | .error message => do
      IO.eprintln message
      pure 1

end Daybook.CommandLine

/-- Checks the settings that are given on the command line. -/
def main (arguments : List String) : IO UInt32 :=
  Daybook.CommandLine.run arguments
