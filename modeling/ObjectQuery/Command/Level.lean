/-
Levels of a command line: options, one positional argument, and the names of subcommands.

Arguments are read from the left up to the name of a subcommand, which has a level of its own. A
value is held back until the next option or argument settles it, so a fault further to the right
can win over a faulty value. After two dashes nothing is an option.
-/
import ObjectQuery.Dict

namespace ObjectQuery
namespace Command

/-- Why a command line is not carried out. A request for help or for the version is a reason too. -/
inductive UsageFault
  | help
  | version
  | nothingGiven
  | missingArgument
  | missingCommand
  | unknownCommand
  | unknownArgument
  | missingValue
  | surplusValue
  | repeated
  deriving DecidableEq

/-- What an option does: take a value, be set, or ask for something. -/
inductive Action
  | value
  | flag
  | ask (fault : UsageFault)
  deriving DecidableEq

/-- An option with its name after two dashes, and its letter after one. -/
structure Switch where
  long : String
  short : Option Char
  action : Action
  deriving DecidableEq

/-- What may stand at a level. -/
structure Level where
  switches : List Switch
  positional : Option String
  commands : List String

/-- What has been read at a level: the settled values by name, a name whose value is held back or
still to come, and whether two dashes have been read. -/
structure Reading where
  values : Dict String
  pending : Option (String × Option String)
  escaped : Bool

namespace Reading

/-- Nothing read yet. -/
def start : Reading := ⟨.empty, none, false⟩

/-- Settle a value. A name has one value, which is not empty. -/
def enter (r : Reading) (name value : String) : Except UsageFault Reading :=
  if r.values.contains name then .error .repeated
  else if value = "" then .error .missingValue
  else .ok { r with values := r.values.insert name value, pending := none }

/-- Settle the value that is held back. -/
def settle (r : Reading) : Except UsageFault Reading :=
  match r.pending with
  | none => .ok r
  | some (_, none) => .error .missingValue
  | some (name, some value) => r.enter name value

/-- The option whose value is still to come. -/
def awaited? (r : Reading) : Option String :=
  match r.pending with
  | some (name, none) => some name
  | _ => none

/-- Whether a name has a value, settled or held back. -/
def has (r : Reading) (name : String) : Bool :=
  r.values.contains name || r.pending.any fun entry => entry.1 == name

end Reading

namespace Switch

/-- The option is given, perhaps with a value attached. -/
def given (switch : Switch) (attached : Option String) (r : Reading) : Except UsageFault Reading :=
  match switch.action, attached with
  | .value, some value => do (← r.settle).enter switch.long value
  | .value, none => do return { ← r.settle with pending := some (switch.long, none) }
  | _, some _ => .error .surplusValue
  | .flag, none => do (← r.settle).enter switch.long "true"
  | .ask fault, none => do
    let _ ← r.settle
    .error fault

end Switch

namespace Level

/-- Read an option after its two dashes. -/
def readLong (level : Level) (cs : List Char) (r : Reading) : Except UsageFault Reading :=
  let name := String.ofList (cs.takeWhile (· ≠ '='))
  let attached :=
    match cs.dropWhile (· ≠ '=') with
    | [] => none
    | _ :: value => some (String.ofList value)
  match level.switches.find? fun switch => switch.long == name with
  | some switch => switch.given attached r
  | none => .error .unknownArgument

/-- Read the letters of options after their dash. What follows the letter of an option that takes a
value is its value. -/
def readShort (level : Level) : List Char → Reading → Except UsageFault Reading
  | [], r => .ok r
  | c :: rest, r =>
    match level.switches.find? fun switch => switch.short == some c with
    | none => .error .unknownArgument
    | some switch =>
      if switch.action = .value then
        let attached :=
          match rest with
          | [] => none
          | '=' :: value => some (String.ofList value)
          | value => some (String.ofList value)
        switch.given attached r
      else do level.readShort rest (← switch.given none r)

/-- What is wrong with an argument that the level has no place for. -/
def surplus (level : Level) (escaped : Bool) (argument : String) : UsageFault :=
  if level.commands.isEmpty || escaped && level.commands.contains argument then .unknownArgument
  else .unknownCommand

def readPositional (level : Level) (argument : String) (r : Reading) : Except UsageFault Reading :=
  match level.positional with
  | none => .error (level.surplus r.escaped argument)
  | some name =>
    if r.has name then .error (level.surplus r.escaped argument)
    else do return { ← r.settle with pending := some (name, some argument) }

/-- Read an argument that is not the name of a subcommand. -/
def readArgument (level : Level) (argument : String) (r : Reading) : Except UsageFault Reading :=
  if r.escaped then level.readPositional argument r
  else
    match argument.toList with
    | ['-', '-'] => .ok { r with escaped := true }
    | '-' :: '-' :: name => level.readLong name r
    | '-' :: c :: letters => level.readShort (c :: letters) r
    | _ =>
      match r.awaited? with
      | some name => .ok { r with pending := some (name, some argument) }
      | none => level.readPositional argument r

/-- Whether an argument is the name of a subcommand where it stands. -/
def startsCommand (level : Level) (argument : String) (r : Reading) : Bool :=
  !r.escaped && r.awaited?.isNone && level.commands.contains argument

/-- Read the arguments of a level: what was read, and the subcommand with its arguments. A value may
still be held back. -/
def read (level : Level) :
    List String → Reading → Except UsageFault (Reading × Option (String × List String))
  | [], r => .ok (r, none)
  | argument :: rest, r =>
    if level.startsCommand argument r then .ok (r, some (argument, rest))
    else do level.read rest (← level.readArgument argument r)

end Level
end Command
end ObjectQuery
