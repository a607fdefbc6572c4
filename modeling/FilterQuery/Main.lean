/-
# FilterQuery.Main -- the program

Reads the command line, the settings file and the file of the command, reports remarks
on standard error, prints what the command prints, and exits with its code. All that is
decided is decided elsewhere.
-/
import FilterQuery.CommandLine.Remarks

namespace FilterQuery

namespace CommandLine

/-- The settings file of the working directory. -/
def settingsFile : String := ".env"

/-- Reads a file, and tells a missing one from one that cannot be read. -/
def readFile (name : String) : IO FileContent := do
  try
    return .text (← IO.FS.readFile name)
  catch e =>
    match e with
    | .noFileOrDirectory _ _ _ => return .missing
    | _ => return .unreadable

/-- The variables of the environment that some settings mention. -/
def readEnvironment (settings : List Setting) : IO (List (String × String)) := do
  let names := rulesVariable :: logVariable :: settings.flatMap Setting.mentioned
  let found ← names.mapM fun name => do return (← IO.getEnv name).map ((name, ·))
  return found.filterMap id

/-- The variables that the environment and the settings file set, if they can be set. -/
def readVariables : IO (Option (List (String × String))) := do
  let settings :=
    match ← readFile settingsFile with
    | .text text => Setting.ofText text
    | _ => []
  return Setting.complete? (← readEnvironment settings) settings

/-- Reports a failure and returns its exit code. -/
def report (failure : Failure) : IO UInt32 := do
  IO.eprintln (failure.message?.getD "Error: the settings, arguments or rules cannot be read")
  return failure.exitCode.toUInt32

/-- Runs the program on its arguments. -/
def run (args : List String) : IO UInt32 := do
  match ← readVariables, read? args with
  | none, _ => report .settings
  | some _, none => report .usage
  | some environment, some command =>
    let file := file? (environment.lookup rulesVariable) command
    let content ←
      match file with
      | some name => readFile name
      | none => pure .missing
    for line in reportedLines (environment.lookup logVariable) (remarks file content command) do
      IO.eprintln line
    match output file content command with
    | .error failure => report failure
    | .ok text =>
      IO.print text
      return 0

end CommandLine

end FilterQuery

/-- Runs the program. -/
def main (args : List String) : IO UInt32 := FilterQuery.CommandLine.run args
