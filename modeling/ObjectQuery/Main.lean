/-
The command line.
-/
import ObjectQuery.Command.Local
import ObjectQuery.Command.Run

namespace ObjectQuery
namespace Command

/-- How the command line is used. -/
def usage : String :=
  "\n".intercalate
    ["Usage: objectquery --schema <PATH> <explain|run|catalog> [ARGUMENTS]", "",
      "  explain <QUERY> [--plan]    print the SQL of a query, with its values in it",
      "  run <QUERY> [--pretty]      run a query and print its rows as JSON",
      "  catalog                     list the object types and the data sources left out", ""]

/-- The wording of a fault, without the usage. -/
def UsageFault.message : UsageFault → String
  | help => ""
  | version => "objectquery 0.1.0\n"
  | nothingGiven => ""
  | missingArgument => "error: a required argument is missing\n"
  | missingCommand => "error: a subcommand is missing\n"
  | unknownCommand => "error: unrecognized subcommand\n"
  | unknownArgument => "error: unexpected argument\n"
  | missingValue => "error: a value is missing\n"
  | surplusValue => "error: an option takes no value\n"
  | repeated => "error: an option is given more than once\n"

/-- Why a file cannot be read, in the words of the operating system. -/
def fileFault : IO.Error → String
  | .noFileOrDirectory _ code _ => "No such file or directory (os error " ++ toString code ++ ")"
  | .permissionDenied _ code _ => "Permission denied (os error " ++ toString code ++ ")"
  | .inappropriateType _ code _ => "Is a directory (os error " ++ toString code ++ ")"
  | fault => toString fault

partial def readLines (input : IO.FS.Stream) (text : String) : IO String := do
  let line ← input.getLine
  if line.isEmpty then return text else readLines input (text ++ line)

def readFile (path : String) : IO (Except String String) := do
  try return .ok (← IO.FS.readFile path)
  catch fault => return .error (fileFault fault)

def Task.queryPath? : Task → Option String
  | .catalog => none
  | .explain path _ => some path
  | .run path _ => some path

/-- Read the query of a task; a dash stands for standard input. -/
def readQueryFile (task : Task) : IO (Except String String) := do
  match task.queryPath? with
  | none => return .error ""
  | some path =>
    if path = "-" then return .ok (← readLines (← IO.getStdin) "") else readFile path

/-- Read the files of a command line and carry it out. -/
def carryOut (invocation : Invocation) : IO UInt32 := do
  let schema ← readFile invocation.schemaPath
  let query ← readQueryFile invocation.task
  let files : Files := fun path => if path = invocation.schemaPath then schema else query
  let outcome := run files connect invocation
  IO.print outcome.output
  match outcome.failure with
  | none => return 0
  | some failure =>
    IO.eprintln ("error: " ++ failure.message)
    return 1

end Command
end ObjectQuery

open ObjectQuery.Command in
/-- Carry out a command line. Wrong usage ends with the status 2. -/
def main (arguments : List String) : IO UInt32 := do
  match Invocation.read (← IO.getEnv "ONTOQUERY_SCHEMA") arguments with
  | .ok invocation => carryOut invocation
  | .error .help =>
    IO.print usage
    return 0
  | .error .version =>
    IO.print UsageFault.version.message
    return 0
  | .error fault =>
    IO.eprint (fault.message ++ usage)
    return 2
