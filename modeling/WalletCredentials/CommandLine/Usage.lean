import WalletCredentials.Dictionary
import WalletCredentials.Text.Natural
import WalletCredentials.Text.Split

/-!
# Reading command lines

A command line names a command and gives values to its options. A value follows its
option as an argument of its own or after an equals sign, and one that starts with a
hyphen only after an equals sign. The values of an option are looked at when the next
argument has been told apart, so that a mistake there is reported first.
-/

namespace WalletCredentials.CommandLine

/-- What is wrong with a command line, or why it is answered with help. -/
inductive UsageFault
  | missingArgument
  | unknownArgument
  | missingValue
  /-- A flag that is given a value. -/
  | unneededValue
  /-- An option that is given twice. -/
  | repeated
  | invalidValue
  | unknownCommand
  | missingCommand
  | help
  | version
  /-- There is nothing on the command line where a command has to be named. -/
  | helpForNothing
  deriving DecidableEq, Repr

/-- The name of a kind of fault. -/
def UsageFault.name : UsageFault → String
  | .missingArgument => "MissingRequiredArgument"
  | .unknownArgument => "UnknownArgument"
  | .missingValue => "InvalidValue"
  | .unneededValue => "TooManyValues"
  | .repeated => "ArgumentConflict"
  | .invalidValue => "ValueValidation"
  | .unknownCommand => "InvalidSubcommand"
  | .missingCommand => "MissingSubcommand"
  | .help => "DisplayHelp"
  | .version => "DisplayVersion"
  | .helpForNothing => "DisplayHelpOnMissingArgumentOrSubcommand"

/-- What an option takes. -/
inductive Kind
  /-- Nothing; the option may be given any number of times. -/
  | flag
  /-- Nothing; the option ends the reading. -/
  | stop (fault : UsageFault)
  | text
  /-- A whole number of 64 bits. -/
  | number
  /-- The path of a file, which is not empty. -/
  | path
  deriving DecidableEq, Repr

/-- An option of a command. -/
structure Flag where
  name : String
  short : Option Char
  kind : Kind
  required : Bool
  deriving DecidableEq, Repr

/-- A command, with its options, its arguments and its own commands. -/
inductive Command
  | mk (flags : List Flag) (arguments : List String) (commands : List (String × Command))

namespace Command

/-- The options of a command. -/
def flags : Command → List Flag
  | .mk flags _ _ => flags

/-- The names of the arguments of a command. -/
def arguments : Command → List String
  | .mk _ arguments _ => arguments

/-- The commands of a command, by their names. -/
def commands : Command → List (String × Command)
  | .mk _ _ commands => commands

/-- The command of a command with a name. -/
def find? (command : Command) (name : String) : Option Command :=
  Dictionary.find? name command.commands

end Command

/-- What has been read of the arguments of a command. -/
structure Reading where
  /-- The values of options and arguments. -/
  values : List (String × String)
  /-- The option read last, and its value as far as it has been read. -/
  pending : Option (Flag × Option String)
  /-- The number of arguments that have been read. -/
  arguments : Nat
  /-- Tells whether only arguments may follow. -/
  onlyArguments : Bool
  /-- Tells whether any option has been given. -/
  isUsed : Bool

namespace Reading

/-- Nothing has been read. -/
def start : Reading := ⟨[], none, 0, false, false⟩

/-- Tells whether the option read last still needs its value. -/
def isAwaiting (reading : Reading) : Bool :=
  match reading.pending with
  | some (_, none) => true
  | _ => false

/-- Checks the value of an option. -/
def checkValue (flag : Flag) (value : String) : Except UsageFault Unit :=
  match flag.kind with
  | .number => ((Text.readInt64 value).mapError fun _ => .invalidValue).map fun _ => ()
  | .path => if value.isEmpty then .error .missingValue else .ok ()
  | _ => .ok ()

/-- Keeps the value of the option read last. -/
def settle (reading : Reading) : Except UsageFault Reading :=
  match reading.pending with
  | none => .ok reading
  | some (_, none) => .error .missingValue
  | some (flag, some value) => do
      if (Dictionary.find? flag.name reading.values).isSome then throw .repeated
      checkValue flag value
      return { reading with values := reading.values ++ [(flag.name, value)], pending := none }

/-- Reads an option, with the value that is attached to it, if there is one. -/
def give (flag : Flag) (value : Option String) (reading : Reading) : Except UsageFault Reading := do
  let reading ← reading.settle
  let reading := { reading with isUsed := true }
  match flag.kind, value with
  | .flag, _ => return reading
  | .stop fault, _ => throw fault
  | _, none => return { reading with pending := some (flag, none) }
  | _, some _ => settle { reading with pending := some (flag, value) }

/-- Reads an option by its name. -/
def readLong (command : Command) (name : List Char) (value : Option (List Char))
    (reading : Reading) : Except UsageFault Reading :=
  match command.flags.find? fun flag => flag.name.toList = name with
  | none => .error .unknownArgument
  | some flag =>
      match flag.kind, value with
      | .flag, some _ => .error .unneededValue
      | .stop _, some _ => .error .unneededValue
      | _, _ => reading.give flag (value.map String.ofList)

/-- Reads options by their letters. What follows the letter of an option with a value is
its value. -/
def readShort (command : Command) : List Char → Reading → Except UsageFault Reading
  | [], reading => .ok reading
  | c :: rest, reading =>
      match command.flags.find? fun flag => flag.short = some c with
      | none => .error .unknownArgument
      | some flag =>
          match flag.kind with
          | .flag => do readShort command rest (← reading.give flag none)
          | .stop fault => reading.settle >>= fun _ => .error fault
          | _ =>
              match rest with
              | [] => reading.give flag none
              | '=' :: value => reading.give flag (some (String.ofList value))
              | value => reading.give flag (some (String.ofList value))

/-- Reads an argument. -/
def readArgument (command : Command) (argument : String) (reading : Reading) :
    Except UsageFault Reading :=
  match command.arguments[reading.arguments]? with
  | some name => do
      let reading ← reading.settle
      return { reading with
        values := reading.values ++ [(name, argument)], arguments := reading.arguments + 1,
        isUsed := true }
  | none =>
      if command.commands.isEmpty ∨ (reading.onlyArguments ∧ (command.find? argument).isSome) then
        .error .unknownArgument
      else .error .unknownCommand

/-- Checks that nothing is missing at the end of a command line. -/
def finish (command : Command) (reading : Reading) :
    Except UsageFault (List (String × String)) := do
  let reading ← reading.settle
  let isMissing (name : String) : Bool := (Dictionary.find? name reading.values).isNone
  if !command.commands.isEmpty then
    throw (if reading.isUsed then .missingCommand else .helpForNothing)
  if command.flags.any (fun flag => flag.required && isMissing flag.name) ||
      command.arguments.any isMissing then
    throw .missingArgument
  return reading.values

end Reading

/-- The answer to a request for help on a command of a command. -/
def helpOn : Command → List String → UsageFault
  | _, [] => .help
  | command, name :: rest =>
      match command.find? name with
      | some command => helpOn command rest
      | none => .unknownCommand

/-- Reads a command line: the names of the commands, and the values of the last one. -/
def read (command : Command) : List String → Reading →
    Except UsageFault (List String × List (String × String))
  | [], reading => do return ([], ← reading.finish command)
  | argument :: rest, reading =>
      if reading.onlyArguments then do
        read command rest (← reading.readArgument command argument)
      else
        match if reading.isAwaiting then none else command.find? argument with
        | some next =>
            if argument = "help" then .error (helpOn command rest)
            else do
              let (names, values) ← read next rest .start
              return (argument :: names, values)
        | none =>
            match argument.toList with
            | ['-', '-'] => read command rest { reading with onlyArguments := true }
            | '-' :: '-' :: option => do
                let (name, value) := Text.cut '=' option
                read command rest (← reading.readLong command name value)
            | '-' :: c :: letters => do
                read command rest (← reading.readShort command (c :: letters))
            | _ => do
                match reading.pending with
                | some (flag, none) =>
                    read command rest { reading with pending := some (flag, some argument) }
                | _ => read command rest (← reading.readArgument command argument)

end WalletCredentials.CommandLine
