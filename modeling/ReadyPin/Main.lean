import ReadyPin.Launch.Startup

/-!
# The program

The command line around `Startup.run`: it reads the arguments and the environment, and writes the log to standard output
and errors to standard error. It has no connection to a cluster, so it ends where that would be made.

In the program: `main`.
-/

namespace ReadyPin

/-- The variables that the program looks at. -/
def environmentNames : List String :=
  OptionKey.keys.map OptionKey.environmentName ++ [Startup.filterVariable]

/-- Reads the variables that are set. -/
def readEnvironment : IO Environment :=
  environmentNames.filterMapM fun name => do
    return (← IO.getEnv name).map fun value => (name, value)

/-- Writes lines to the log in the form that the options ask for. -/
def writeLog (options : Options) (lines : List LogLine) : IO Unit := do
  for line in lines do
    IO.println (if options.logJson then line.json.text else line.plain)

end ReadyPin

/-- Starts the program. -/
def main (arguments : List String) : IO UInt32 := do
  let environment ← ReadyPin.readEnvironment
  match ReadyPin.Startup.run environment arguments with
  | .ended code output errors => do
    IO.print output
    IO.eprint errors
    return code.toUInt32
  | .failed options log error => do
    ReadyPin.writeLog options log
    IO.eprint (ReadyPin.Startup.fatal error)
    return 1
  | .ready options log => do
    ReadyPin.writeLog options log
    IO.eprintln "Error: there is no cluster to connect to"
    return 1
