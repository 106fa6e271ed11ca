/-
Module: Pushdown.Cli.Invocation
Purpose: Words of a command line as arguments and options, and what they ask for.
Main exports: Cli.UsageError, Cli.ValueForm, Cli.OptionForm, Cli.Arguments, Cli.OutputFormat,
  Cli.Command, Cli.Invocation, Cli.Request
-/
import Pushdown.Text.Value
import Pushdown.Vocabulary

namespace Pushdown.Cli

/-! ## Arguments

An option is written as two hyphens and its name, and its value follows in the same word behind
an equals sign or in the next word.  A next word that starts with a hyphen is no value, unless it
is the hyphen alone or the option takes negative numbers.  Two hyphens alone end the options.
Each option may be given once.

A value in the word of its option is looked at when that word is read, and a value in a word of
its own when the next word is read that is not the name of a command.  So a word that asks for
help comes too late behind a value that does not fit, but a command comes first.
-/

/-- Why a command line is not understood. -/
inductive UsageError where
  | missingCommand
  | unknownCommand (word : String)
  | unexpectedWord (word : String)
  | missingValue (name : String)
  | repeatedOption (name : String)
  | missingOption (name : String)
  | missingOperand (name : String)
  | invalidValue (name value : String)
deriving Repr, DecidableEq

namespace UsageError

/-- What is said about an error.  These texts stand for those of the library that reads command
lines; only that something is said belongs to the tool. -/
def message : UsageError → String
  | .missingCommand => "a command is required"
  | .unknownCommand word => "unrecognized command '" ++ word ++ "'"
  | .unexpectedWord word => "unexpected argument '" ++ word ++ "'"
  | .missingValue name => "a value is required for '--" ++ name ++ "'"
  | .repeatedOption name => "the option '--" ++ name ++ "' is given more than once"
  | .missingOption name => "the option '--" ++ name ++ "' is required"
  | .missingOperand name => "the argument <" ++ name ++ "> is required"
  | .invalidValue name value => "invalid value '" ++ value ++ "' for '--" ++ name ++ "'"

end UsageError

/-- What the value of an option may be. -/
inductive ValueForm where
  | text
  /-- A whole number from a negative bound, given without its sign, to a positive one. -/
  | number (below above : Nat)
  | oneOf (names : List String)
deriving Repr, DecidableEq

/-- Whether a text is a value of a form. -/
def ValueForm.accepts : ValueForm → String → Bool
  | .text, _ => true
  | .number below above, value => (Text.readInt? below above value).isSome
  | .oneOf names, value => names.contains value

/-- An option that a command takes. -/
structure OptionForm where
  name : String
  value : ValueForm := .text
  /-- Whether the next word may be a negative number. -/
  takesNegative : Bool := false
deriving Repr, DecidableEq

/-- The options with their values, in the order in which they are given, and the operands. -/
structure Arguments where
  options : List (String × String) := []
  operands : List String := []
deriving Repr, DecidableEq

/-- What a command line asks for: help, or something with arguments.  `rest` are the words that
have not been looked at. -/
inductive Scanned where
  | help
  | arguments (arguments : Arguments) (rest : List String)
deriving Repr, DecidableEq

namespace Arguments

/-- Whether characters behind a hyphen are a number: digits, with at most one point and one
exponent behind the first of them.  `hasPoint` and `hasExponent` tell what stood before. -/
def isNumeral (hasPoint hasExponent isFirst : Bool) : List Char → Bool
  | [] => true
  | '.' :: rest => !isFirst && !hasPoint && !hasExponent && isNumeral true hasExponent false rest
  | 'e' :: rest => !isFirst && !hasExponent && rest != [] && isNumeral hasPoint true false rest
  | c :: rest => c.isDigit && isNumeral hasPoint hasExponent false rest

/-- Whether a word starts like an option: a hyphen with something behind it. -/
def isDashed (word : String) : Bool :=
  match word.toList with
  | '-' :: _ :: _ => true
  | _ => false

/-- Whether a word is a negative number. -/
def isNegativeNumber (word : String) : Bool :=
  match word.toList with
  | '-' :: rest => isNumeral false false true rest
  | _ => false

/-- Whether a word can be the value of the option before it. -/
def isValueFor (form : OptionForm) (word : String) : Bool :=
  !isDashed word || (form.takesNegative && isNegativeNumber word)

/-- A word for an option: its name and, behind an equals sign, its value. -/
def optionWord? (word : String) : Option (String × Option String) :=
  match word.toList with
  | '-' :: '-' :: rest =>
    let name := rest.takeWhile (· != '=')
    let value := (rest.drop name.length).tail?
    some (String.ofList name, value.map String.ofList)
  | _ => none

/-- Whether a word asks for help. -/
def asksForHelp (word : String) : Bool := word == "--help" || "-h".toList.isPrefixOf word.toList

/-- Adds an option that is not there yet. -/
def addOption (arguments : Arguments) (name value : String) : Except UsageError Arguments :=
  if (arguments.options.lookup name).isSome then .error (.repeatedOption name)
  else .ok { arguments with options := arguments.options ++ [(name, value)] }

/-- Adds operands. -/
def addOperands (arguments : Arguments) (words : List String) : Arguments :=
  { arguments with operands := arguments.operands ++ words }

/-- The error of the first option whose value does not fit. -/
def misfit? (forms : List OptionForm) (arguments : Arguments) : Option UsageError :=
  arguments.options.findSome? fun (name, value) =>
    match forms.find? fun form => form.name == name with
    | some form => if form.value.accepts value then none else some (.invalidValue name value)
    | none => none

/-- Cuts words into options and operands.  `pending` is the option whose value comes next.  If
only the options before the first operand are asked for, the words from that operand on are
left. -/
def scan (forms : List OptionForm) (isLeading : Bool) :
    Arguments → (pending : Option OptionForm) → List String → Except UsageError Scanned
  | arguments, none, [] => .ok (.arguments arguments [])
  | _, some form, [] => .error (.missingValue form.name)
  | arguments, some form, word :: rest =>
    if isValueFor form word then
      match arguments.addOption form.name word with
      | .ok arguments => scan forms isLeading arguments none rest
      | .error error => .error error
    else .error (.missingValue form.name)
  | arguments, none, word :: rest =>
    if isLeading && !isDashed word then .ok (.arguments arguments (word :: rest))
    else
      match arguments.misfit? forms with
      | some error => .error error
      | none =>
        if word = "--" then .ok (.arguments (arguments.addOperands rest) [])
        else if asksForHelp word then .ok .help
        else
          match optionWord? word with
          | some (name, value) =>
            match forms.find? (fun form => form.name == name), value with
            | none, _ => .error (.unexpectedWord word)
            | some form, none => scan forms isLeading arguments (some form) rest
            | some form, some value =>
              if form.value.accepts value then
                match arguments.addOption name value with
                | .ok arguments => scan forms isLeading arguments none rest
                | .error error => .error error
              else .error (.invalidValue name value)
          | none =>
            if isDashed word then .error (.unexpectedWord word)
            else scan forms isLeading (arguments.addOperands [word]) none rest

/-- Cuts words into options and operands. -/
def read (forms : List OptionForm) (words : List String) : Except UsageError Scanned :=
  scan forms false {} none words

/-- Cuts the words before the first operand into options. -/
def readLeading (forms : List OptionForm) (words : List String) : Except UsageError Scanned :=
  scan forms true {} none words

/-- The value of an option. -/
def value? (arguments : Arguments) (name : String) : Option String :=
  arguments.options.lookup name

end Arguments

/-! ## Requests

A command line names a command with its arguments.  The output format and the log level may be
given before the command or behind it; behind it they count more.
-/

/-- For whom the output is made: people or programs. -/
inductive OutputFormat where
  | human
  | json
  | yaml
deriving Repr, DecidableEq, Inhabited

namespace OutputFormat

/-- Every format. -/
def all : List OutputFormat := [.human, .json, .yaml]

/-- The name of a format. -/
def name : OutputFormat → String
  | .human => "human"
  | .json => "json"
  | .yaml => "yaml"

instance : Vocabulary OutputFormat := ⟨all, name⟩

end OutputFormat

/-- A remote column whose type is to be mapped. -/
structure MappingRequest where
  dialectName : String
  typeCode : Int
  size : Nat
  scale : Int
  octets : Nat
  typeName : String
  hostVersion : Option String
deriving Repr, DecidableEq

/-- A command with its arguments. -/
inductive Command where
  /-- Lists the dialects. -/
  | dialects
  /-- Lists the capabilities of a dialect. -/
  | capabilities (dialectName : String) (exclusion : Option String)
  /-- Maps the type of a remote column. -/
  | mapType (request : MappingRequest)
  /-- Checks the schemas of a property file. -/
  | validate (fileName : String)
deriving Repr, DecidableEq

/-- A command and how it is to be carried out. -/
structure Invocation where
  command : Command
  format : OutputFormat
  logLevel : Option String
deriving Repr, DecidableEq

/-- What a command line asks for. -/
inductive Request where
  | help
  | run (invocation : Invocation)
deriving Repr, DecidableEq

/-! ### Options -/

/-- The name of the option for the output format. -/
def outputOption : String := "output"

/-- The name of the option for the log level. -/
def logLevelOption : String := "log-level"

/-- The options that may stand before and behind every command. -/
def commonOptions : List OptionForm :=
  [{ name := outputOption, value := .oneOf (OutputFormat.all.map OutputFormat.name) },
   { name := logLevelOption }]

/-- The names of the commands. -/
def commandNames : List String := ["dialects", "capabilities", "map-type", "validate"]

/-- Whole numbers of thirty-two bits. -/
def integerForm : ValueForm := .number 2147483648 2147483647

/-- Natural numbers of thirty-two bits. -/
def naturalForm : ValueForm := .number 0 4294967295

/-- The options of a command besides the common ones. -/
def optionsOf (commandName : String) : List OptionForm :=
  match commandName with
  | "capabilities" => [{ name := "exclude" }]
  | "map-type" =>
    [{ name := "jdbc-type", value := integerForm, takesNegative := true },
     { name := "size", value := naturalForm },
     { name := "scale", value := integerForm, takesNegative := true },
     { name := "octet-length", value := naturalForm },
     { name := "type-name" }, { name := "host-version" }]
  | _ => []

/-- The property file that is checked if none is named. -/
def defaultPropertyFile : String := "schemas.yaml"

/-- The log level if none is given. -/
def defaultLogLevel : String := "WARNING"

namespace Arguments

/-- The value of an option that takes whole numbers of thirty-two bits. -/
def integer? (arguments : Arguments) (name : String) : Except UsageError (Option Int) :=
  match arguments.value? name with
  | none => .ok none
  | some text =>
    match Text.readInt? 2147483648 2147483647 text with
    | some value => .ok (some value)
    | none => .error (.invalidValue name text)

/-- The value of an option that takes natural numbers of thirty-two bits. -/
def natural? (arguments : Arguments) (name : String) : Except UsageError (Option Nat) :=
  match arguments.value? name with
  | none => .ok none
  | some text =>
    match Text.readInt? 0 4294967295 text with
    | some value => .ok (some value.toNat)
    | none => .error (.invalidValue name text)

/-- The output format, if one is given. -/
def format? (arguments : Arguments) : Except UsageError (Option OutputFormat) :=
  match arguments.value? outputOption with
  | none => .ok none
  | some text =>
    match Vocabulary.ofName? text with
    | some format => .ok (some format)
    | none => .error (.invalidValue outputOption text)

/-- The operands, of which there may be at most one. -/
def operand? (arguments : Arguments) : Except UsageError (Option String) :=
  match arguments.operands with
  | [] => .ok none
  | [operand] => .ok (some operand)
  | _ :: word :: _ => .error (.unexpectedWord word)

/-- The operand that has to be there. -/
def operand (arguments : Arguments) (name : String) : Except UsageError String := do
  match ← arguments.operand? with
  | some operand => pure operand
  | none => .error (.missingOperand name)

end Arguments

namespace Command

/-- The column to map. -/
def mappingRequest (arguments : Arguments) : Except UsageError MappingRequest := do
  let typeCode ← arguments.integer? "jdbc-type"
  let size ← arguments.natural? "size"
  let scale ← arguments.integer? "scale"
  let octets ← arguments.natural? "octet-length"
  let dialectName ← arguments.operand "DIALECT"
  match typeCode with
  | none => .error (.missingOption "jdbc-type")
  | some typeCode =>
    pure
      { dialectName := dialectName
        typeCode := typeCode
        size := size.getD 0
        scale := scale.getD 0
        octets := octets.getD 0
        typeName := (arguments.value? "type-name").getD ""
        hostVersion := arguments.value? "host-version" }

/-- The command with a name and arguments. -/
def ofArguments (name : String) (arguments : Arguments) : Except UsageError Command :=
  match name with
  | "dialects" =>
    match arguments.operands with
    | [] => .ok .dialects
    | word :: _ => .error (.unexpectedWord word)
  | "capabilities" => do
    let dialectName ← arguments.operand "DIALECT"
    pure (.capabilities dialectName (arguments.value? "exclude"))
  | "map-type" => do
    let request ← mappingRequest arguments
    pure (.mapType request)
  | "validate" => do
    let fileName ← arguments.operand?
    pure (.validate (fileName.getD defaultPropertyFile))
  | _ => .error (.unknownCommand name)

/-- The name of the file that a command reads. -/
def fileName? : Command → Option String
  | .validate fileName => some fileName
  | _ => none

end Command

namespace Request

/-- What the words behind the name of a command ask for. -/
def ofCommandWords (leading : Arguments) (name : String) (words : List String) :
    Except UsageError Request := do
  match ← Arguments.read (commonOptions ++ optionsOf name) words with
  | .help => pure .help
  | .arguments arguments _ =>
    let leadingFormat ← leading.format?
    let format ← arguments.format?
    let command ← Command.ofArguments name arguments
    pure (.run
      { command := command
        format := (format.or leadingFormat).getD .human
        logLevel := (arguments.value? logLevelOption).or (leading.value? logLevelOption) })

/-- What a request for help is about: nothing in particular, or a command. -/
def ofHelpWords (words : List String) : Except UsageError Request :=
  match words with
  | [] => .ok .help
  | [word] => if commandNames.contains word then .ok .help else .error (.unknownCommand word)
  | _ :: word :: _ => .error (.unexpectedWord word)

/-- What the words of a command line ask for. -/
def ofWords (words : List String) : Except UsageError Request := do
  match ← Arguments.readLeading commonOptions words with
  | .help => pure .help
  | .arguments leading rest =>
    match leading.operands, rest with
    | word :: _, _ => .error (.unexpectedWord word)
    | [], [] => .error .missingCommand
    | [], name :: words =>
      if name = "help" then ofHelpWords words
      else if commandNames.contains name then ofCommandWords leading name words
      else .error (.unknownCommand name)

end Request

end Pushdown.Cli
