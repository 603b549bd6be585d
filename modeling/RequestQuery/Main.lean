import RequestQuery.CommandLine.Run
import RequestQuery.Json.Printer

/-! The program: it gathers what a run may read, runs it and prints the outcome. -/
namespace RequestQuery.CommandLine

def usage : String :=
  "Usage: quarry [--config FILE] [--log-level LEVEL] [--json-logs] COMMAND\n\n" ++
  "Commands:\n" ++
  "  parse QUERY                               filters and includes of a query\n" ++
  "  eval --schema FILE --records FILE QUERY   records that satisfy a query's filters\n"

/-- A variable from its name and value with an equals sign between them. -/
def variableOf? (s : String) : Option (String × String) :=
  match s.splitOn "=" with
  | name :: value@(_ :: _) => some (name, "=".intercalate value)
  | _ => none

/-- The variables of the process, where the system lists them in a file. -/
def processVariables : IO Configuration.Variables := do
  try
    let bytes ← IO.FS.readBinFile "/proc/self/environ"
    let text := (String.fromUTF8? bytes).getD ""
    return (text.splitOn "\x00").filterMap variableOf?
  catch _ =>
    return (← IO.getEnv configurationVariable).toList.map (configurationVariable, ·)

def readFile? (path : String) : IO (Option (String × String)) := do
  try
    return some (path, ← IO.FS.readFile path)
  catch _ =>
    return none

def environment (args : List String) : IO Environment := do
  let vars ← processVariables
  let paths := match Invocation.ofEnvironment vars args with
    | .ok i => i.paths
    | .error _ => []
  let files ← paths.filterMapM readFile?
  return { vars, read? := fun path => files.lookup path }

def print : Outcome → IO Unit
  | .answered answer => IO.println (answer.indented "")
  | .failed failure => IO.eprintln s!"Error: {failure.message}"
  | .stopped .shown => IO.print usage
  | .stopped .misuse => IO.eprint usage

/-- Runs the program and returns its exit status. -/
def runProgram (args : List String) : IO UInt32 := do
  let outcome := run (← environment args) args
  print outcome
  return outcome.status.toUInt32

end RequestQuery.CommandLine

def main (args : List String) : IO UInt32 := RequestQuery.CommandLine.runProgram args
