/-!
# Arguments of the command line

The program has five commands.  Arguments are read from left to right, and the first one that does
not fit decides: an option that is not known or is given twice, an option without its value, an
operand too many.  Two dashes end the options.  The file of a command may come from the
environment instead.

* `Request`: what is asked for.
* `Refusal`: why nothing is done.
* `Request.ofArguments`: reading the arguments.
-/

namespace GameBox

/-- What is asked for. -/
inductive Request where
  /-- All that is known about a file. -/
  | info (file : String) (json : Bool)
  /-- The chunk table of a file. -/
  | chunks (file : String)
  /-- The references of a file. -/
  | refs (file : String)
  /-- The known classes, or those of a category. -/
  | classes (category : Option String)
  /-- A survey of all files that a pattern describes. -/
  | scan (pattern : String) (json : Bool)
  deriving DecidableEq, Repr

/-- Why nothing is done. -/
inductive Refusal where
  /-- Help was asked for. -/
  | help
  /-- The version of the program was asked for. -/
  | version
  | unknownCommand (name : String)
  | unknownOption (argument : String)
  | repeatedOption (name : String)
  | missingValue (name : String)
  | emptyFile
  | surplusOperand (operand : String)
  | missingCommand
  | missingOperand
  deriving DecidableEq, Repr

namespace Request

/-- The commands. -/
inductive Command where
  | info
  | chunks
  | refs
  | classes
  | scan
  deriving DecidableEq, Repr

namespace Command

/-- The command with a name. -/
def ofName? : String → Option Command
  | "info" => some info
  | "chunks" => some chunks
  | "refs" => some refs
  | "classes" => some classes
  | "scan" => some scan
  | _ => none

/-- Whether a command can answer in JSON. -/
def hasJson : Command → Bool
  | info | scan => true
  | _ => false

/-- Whether a command takes a category. -/
def hasCategory : Command → Bool
  | classes => true
  | _ => false

/-- Whether a command takes an operand. -/
def hasOperand : Command → Bool
  | classes => false
  | _ => true

/-- Whether the operand is a file, which must have a name and may come from the environment. -/
def takesFile : Command → Bool
  | info | chunks | refs => true
  | _ => false

end Command

/-- What was given so far. -/
structure Given where
  json : Bool := false
  category : Option String := none
  operand : Option String := none

/-- Adds an operand. -/
def Given.addOperand (command : Command) (operand : String) (given : Given) :
    Except Refusal Given :=
  if !command.hasOperand || given.operand.isSome then .error (.surplusOperand operand)
  else if command.takesFile && operand.isEmpty then .error .emptyFile
  else .ok { given with operand := some operand }

/-- Adds the category. -/
def Given.addCategory (category : String) (given : Given) : Except Refusal Given :=
  if given.category.isSome then .error (.repeatedOption "category")
  else .ok { given with category := some category }

/-- Whether an argument is an option: a dash and more. -/
def isOption (argument : String) : Bool :=
  match argument.toList with
  | '-' :: _ :: _ => true
  | _ => false

/-- What an option asks to do with the arguments that follow. -/
inductive Effect where
  | given (given : Given)
  /-- The next argument is the value of the category. -/
  | awaitCategory

/-- Reads options of one letter that share a dash.  The value of the category is the rest of the
argument, behind an equals sign or not, or the next argument. -/
def letters (command : Command) (argument : String) (given : Given) :
    List Char → Except Refusal Effect
  | [] => .ok (.given given)
  | 'v' :: rest => letters command argument given rest
  | 'h' :: _ => .error .help
  | 'c' :: rest =>
    if command.hasCategory then
      match rest with
      | [] => .ok .awaitCategory
      | '=' :: value => Effect.given <$> given.addCategory (String.ofList value)
      | value => Effect.given <$> given.addCategory (String.ofList value)
    else .error (.unknownOption argument)
  | _ => .error (.unknownOption argument)

/-- The beginning of an option whose value stands in the same argument. -/
def categoryEquals : List Char := "--category=".toList

/-- Reads an option. -/
def option (command : Command) (argument : String) (given : Given) : Except Refusal Effect :=
  if argument = "--help" then .error .help
  else if argument = "--verbose" then .ok (.given given)
  else if argument = "--json" ∧ command.hasJson then
    if given.json then .error (.repeatedOption "json")
    else .ok (.given { given with json := true })
  else if argument = "--category" ∧ command.hasCategory then .ok .awaitCategory
  else if categoryEquals.isPrefixOf argument.toList ∧ command.hasCategory then
    Effect.given <$>
      given.addCategory (String.ofList (argument.toList.drop categoryEquals.length))
  else if argument.startsWith "--" then .error (.unknownOption argument)
  else letters command argument given (argument.toList.drop 1)

/-- Reads operands only. -/
def operands (command : Command) (given : Given) : List String → Except Refusal Given
  | [] => .ok given
  | operand :: rest => do
    let given ← given.addOperand command operand
    operands command given rest

/-- Reads the arguments of a command. -/
def arguments (command : Command) (given : Given) : List String → Except Refusal Given
  | [] => .ok given
  | argument :: rest =>
    if argument = "--" then operands command given rest
    else if isOption argument then
      match option command argument given with
      | .error refusal => .error refusal
      | .ok (.given given) => arguments command given rest
      | .ok .awaitCategory =>
        match rest with
        | [] => .error (.missingValue "category")
        | value :: rest =>
          if isOption value then .error (.missingValue "category")
          else
            match given.addCategory value with
            | .error refusal => .error refusal
            | .ok given => arguments command given rest
    else
      match given.addOperand command argument with
      | .error refusal => .error refusal
      | .ok given => arguments command given rest

/-- The file of a command: the one given, or the one that the environment names. -/
def fileOf (given : Given) (environment : Option String) : Except Refusal String :=
  match given.operand, environment with
  | some file, _ => .ok file
  | none, some file => if file.isEmpty then .error .emptyFile else .ok file
  | none, none => .error .missingOperand

/-- The request that a command and its arguments make. -/
def complete (command : Command) (environment : Option String) (given : Given) :
    Except Refusal Request :=
  match command with
  | .info => (info · given.json) <$> fileOf given environment
  | .chunks => chunks <$> fileOf given environment
  | .refs => refs <$> fileOf given environment
  | .classes => .ok (classes given.category)
  | .scan =>
    match given.operand with
    | some pattern => .ok (scan pattern given.json)
    | none => .error .missingOperand

/-- What options of one letter before the command lead to; nothing if the command may follow. -/
def leadingLetters (argument : String) : List Char → Option Refusal
  | [] => none
  | 'v' :: rest => leadingLetters argument rest
  | 'h' :: _ => some .help
  | 'V' :: _ => some .version
  | _ => some (.unknownOption argument)

/-- What an option before the command leads to; nothing if the command may follow. -/
def leadingOption (argument : String) : Option Refusal :=
  if argument = "--help" then some .help
  else if argument = "--version" then some .version
  else if argument = "--verbose" then none
  else if argument.startsWith "--" then some (.unknownOption argument)
  else leadingLetters argument (argument.toList.drop 1)

/-- The commands that help can be asked for. -/
def helpTopic : List String → Refusal
  | [] => .help
  | [name] =>
    if (Command.ofName? name).isSome || name = "help" then .help else .unknownCommand name
  | name :: other :: _ =>
    if (Command.ofName? name).isSome || name = "help" then .unknownCommand other
    else .unknownCommand name

/-- The request that arguments make; `environment` is the file that the environment names. -/
def ofArguments (environment : Option String) : List String → Except Refusal Request
  | [] => .error .missingCommand
  | argument :: rest =>
    if argument = "--" then
      match rest with
      | [] => .error .missingCommand
      | operand :: _ => .error (.surplusOperand operand)
    else if isOption argument then
      match leadingOption argument with
      | some refusal => .error refusal
      | none => ofArguments environment rest
    else if argument = "help" then .error (helpTopic rest)
    else
      match Command.ofName? argument with
      | none => .error (.unknownCommand argument)
      | some command => do
        let given ← arguments command {} rest
        complete command environment given

end Request

namespace Refusal

/-- What is said about wrong arguments. -/
def message : Refusal → String
  | help => "help"
  | version => "version"
  | unknownCommand name => "unrecognized subcommand '" ++ name ++ "'"
  | unknownOption argument => "unexpected argument '" ++ argument ++ "' found"
  | repeatedOption name => "the argument '--" ++ name ++ "' cannot be used multiple times"
  | missingValue name => "a value is required for '--" ++ name ++ "' but none was supplied"
  | emptyFile => "a value is required for '<FILE>' but none was supplied"
  | surplusOperand operand => "unexpected argument '" ++ operand ++ "' found"
  | missingCommand => "a command is required"
  | missingOperand => "the following required arguments were not provided"

end Refusal
end GameBox
