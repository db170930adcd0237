/-
Command lines: the path of a schema and what to do with it.
-/
import ObjectQuery.Command.Level

namespace ObjectQuery
namespace Command

/-- What to do: list the object types, show the statement of a query, or run it. -/
inductive Task
  | catalog
  | explain (queryPath : String) (showsPlan : Bool)
  | run (queryPath : String) (indented : Bool)
  deriving DecidableEq

structure Invocation where
  schemaPath : String
  task : Task
  deriving DecidableEq

namespace Invocation

/-- The option that asks for help. -/
def helpSwitch : Switch := ⟨"help", some 'h', .ask .help⟩

/-- The arguments before the name of a subcommand. -/
def root : Level where
  switches := [⟨"schema", some 's', .value⟩, helpSwitch, ⟨"version", some 'V', .ask .version⟩]
  positional := none
  commands := ["explain", "run", "catalog", "help"]

/-- The arguments of a subcommand that takes a query and has an option of its own. -/
def queryLevel (flag : String) : Level := ⟨[⟨flag, none, .flag⟩, helpSwitch], some "query", []⟩

/-- The arguments of a subcommand that takes none. -/
def plainLevel : Level := ⟨[helpSwitch], none, []⟩

/-- What the subcommand for help answers; it takes the name of another subcommand. -/
def helpOn : List String → UsageFault
  | [] => .help
  | [command] => if root.commands.contains command then .help else .unknownCommand
  | _ => .unknownCommand

/-- Read a level that has no subcommands. -/
def readLast (level : Level) (arguments : List String) : Except UsageFault Reading := do
  (← level.read arguments .start).1.settle

/-- Read the arguments of a subcommand that takes a query: its path, and whether its option is
set. -/
def readQuery (flag : String) (arguments : List String) : Except UsageFault (String × Bool) := do
  let r ← readLast (queryLevel flag) arguments
  match r.values.get? "query" with
  | some path => return (path, r.values.contains flag)
  | none => throw .missingArgument

def readTask (command : String) (arguments : List String) : Except UsageFault Task :=
  match command with
  | "explain" => (readQuery "plan" arguments).map fun (path, flag) => .explain path flag
  | "run" => (readQuery "pretty" arguments).map fun (path, flag) => .run path flag
  | _ => (readLast plainLevel arguments).map fun _ => .catalog

/-- Read a command line. A path in the environment serves when none is given. -/
def read (environmentPath : Option String) (arguments : List String) :
    Except UsageFault Invocation := do
  let (r, command) ← root.read arguments .start
  match command with
  | none =>
    let r ← r.settle
    throw (if r.values.entries.isEmpty && environmentPath.isNone then .nothingGiven
      else .missingCommand)
  | some ("help", names) => throw (helpOn names)
  | some (command, arguments) =>
    let r ← r.settle
    let task ← readTask command arguments
    match (r.values.get? "schema").or environmentPath with
    | some path => return ⟨path, task⟩
    | none => throw .missingArgument

end Invocation
end Command
end ObjectQuery
