/-
Module: Pushdown.Cli.Outcome
Purpose: What a run of the tool shows and ends with.
Main exports: Cli.Style, Cli.ExitStatus, Cli.Envelope, Cli.Report, Cli.Failure, Cli.Outcome
-/
import Pushdown.Cli.Invocation
import Pushdown.Fault
import Pushdown.Yaml.Printer

namespace Pushdown.Cli

/-! ## Styles

A style is switched on before a text and off behind it.  Colour and weight have switches of their
own, so they can be nested.
-/

/-- How a text is shown. -/
inductive Style where
  | bold
  | dim
  | red
  | green
  | yellow
  | cyan
deriving Repr, DecidableEq

namespace Style

/-- What switches a style on. -/
def opening : Style → String
  | .bold => "\x1b[1m"
  | .dim => "\x1b[2m"
  | .red => "\x1b[31m"
  | .green => "\x1b[32m"
  | .yellow => "\x1b[33m"
  | .cyan => "\x1b[36m"

/-- What switches a style off. -/
def closing : Style → String
  | .bold | .dim => "\x1b[0m"
  | .red | .green | .yellow | .cyan => "\x1b[39m"

/-- A text in a style. -/
def apply (style : Style) (text : String) : String := style.opening ++ text ++ style.closing

/-- A name of a dialect. -/
def name (text : String) : String := cyan.apply (bold.apply text)

/-- The mark of a success. -/
def tick : String := green.apply "✔"

/-- The mark of a failure. -/
def cross : String := red.apply "✘"

end Style

/-! ## Outcomes

A command ends in a report or in a failure.  For people, the lines of a report are printed and a
failure is complained about.  For programs, either is printed as one envelope: a record that says
whether the command succeeded, and that holds the data of the report or the fault.

A report can be complete and still end badly, where what it reports on is not in order.  Its
envelope then tells of a success, since the data are there; the exit status tells that something
is wrong.
-/

/-- How a run ends. -/
inductive ExitStatus where
  | success
  | general
  | usage
  | configuration
  | connectivity
  | query
deriving Repr, DecidableEq, Inhabited

namespace ExitStatus

/-- The number of a status. -/
def code : ExitStatus → Nat
  | .success => 0
  | .general => 1
  | .usage => 2
  | .configuration => 3
  | .connectivity => 4
  | .query => 5

/-- The status of a run that ends in a fault. -/
def ofCategory : Fault.Category → ExitStatus
  | .connectivity => .connectivity
  | .query => .query
  | .config => .configuration
  | .internal => .general

/-- The status of a run that ends in a fault. -/
def ofFault (fault : Fault) : ExitStatus := ofCategory fault.category

end ExitStatus

/-- What is printed for programs. -/
structure Envelope where
  isSuccess : Bool
  message : Option String
  exitCode : Nat
  data : List (String × Yaml.Value)

namespace Envelope

/-- The envelope of data. -/
def success (data : List (String × Yaml.Value)) : Envelope :=
  ⟨true, none, ExitStatus.success.code, data⟩

/-- The envelope of a failure. -/
def error (message : String) (status : ExitStatus) (data : List (String × Yaml.Value)) :
    Envelope :=
  ⟨false, some message, status.code, data⟩

/-- An envelope as a record. -/
def toValue (envelope : Envelope) : Yaml.Value :=
  .mapping
    ([("status", .text (if envelope.isSuccess then "success" else "error"))] ++
      (match envelope.message with
        | some message => [("message", .text message)]
        | none => []) ++
      [("exit_code", .natural envelope.exitCode)] ++ envelope.data)

/-- The text of an envelope in a format for programs. -/
def render? (format : OutputFormat) (envelope : Envelope) : Option String :=
  match format with
  | .human => none
  | .json => some envelope.toValue.toJson.indented
  | .yaml => some envelope.toValue.toYaml

end Envelope

/-- The findings of a command. -/
structure Report where
  /-- The findings for people. -/
  lines : List String
  /-- The findings for programs. -/
  data : List (String × Yaml.Value)
  /-- The first thing that is not in order. -/
  blamed : Option Fault := none

/-- Why a command has no findings. -/
inductive Failure where
  | fault (fault : Fault)
  | unreadableFile (name : String)

namespace Failure

/-- What is said about a failure. -/
def message : Failure → String
  | .fault cause => cause.display
  | .unreadableFile name => "Failed to read property file '" ++ name ++ "'"

/-- How a run ends in a failure. -/
def status : Failure → ExitStatus
  | .fault cause => .ofFault cause
  | .unreadableFile _ => .usage

/-- What programs are told about a failure. -/
def data : Failure → List (String × Yaml.Value)
  | .fault cause => [("error", .ofJson cause.toJson)]
  | .unreadableFile _ => []

end Failure

/-- What a run prints, and how it ends. -/
structure Outcome where
  status : ExitStatus
  /-- What is printed for people. -/
  lines : List String := []
  /-- What is printed for programs. -/
  envelope : Option Envelope := none
  /-- What is complained about. -/
  complaints : List String := []

namespace Outcome

/-- The line that complains about an error. -/
def errorLine (message : String) : String :=
  Style.bold.apply (Style.red.apply "Error:") ++ " " ++ message

/-- The line that warns of something. -/
def warningLine (message : String) : String :=
  Style.bold.apply (Style.yellow.apply "Warning:") ++ " " ++ message

/-- The outcome of a report. -/
def ofReport (format : OutputFormat) (report : Report) : Outcome :=
  match format, report.blamed with
  | .human, none => { status := .success, lines := report.lines }
  | .human, some fault =>
    { status := .ofFault fault, lines := report.lines, complaints := [errorLine fault.display] }
  | _, none => { status := .success, envelope := some (.success report.data) }
  | _, some _ => { status := .configuration, envelope := some (.success report.data) }

/-- The outcome of a failure. -/
def ofFailure (format : OutputFormat) (failure : Failure) : Outcome :=
  match format with
  | .human => { status := failure.status, complaints := [errorLine failure.message] }
  | _ =>
    { status := failure.status
      envelope := some (.error failure.message failure.status failure.data) }

/-- Lines as a text. -/
def unlines (lines : List String) : String :=
  String.join (lines.map fun line => line ++ "\n")

/-- The text of the standard output. -/
def output (format : OutputFormat) (outcome : Outcome) : String :=
  unlines (outcome.lines ++ (outcome.envelope.bind (Envelope.render? format)).toList)

/-- The text of the standard error output. -/
def errors (outcome : Outcome) : String := unlines outcome.complaints

end Outcome

end Pushdown.Cli
