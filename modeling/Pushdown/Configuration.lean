/-
Module: Pushdown.Configuration
Purpose: The properties of a virtual schema, their errors, and the checks that all dialects share.
Main exports: ConfigurationError, ConfigurationError.message, ConfigurationError.toFault,
  Properties, Properties.value?, Properties.keys, LogLevel, LogLevel.ofText?,
  LogLevel.acceptedNames, checkCommon, checkConnection, checkStructure
-/
import Pushdown.Fault
import Pushdown.Text.Case
import Pushdown.Text.Distance
import Pushdown.Text.Value

namespace Pushdown

/-! ## Errors

Each error names the property, dialect or capability concerned.  Misspelled names carry the
closest known name, if there is one near enough.
-/

/-- What a property value should have been. -/
inductive Expectation where
  | positiveInteger
  | exactly (value : String)
  | either (first second : String)
  | oneOf (values : List String)
  | noIgnorableErrors
deriving Repr, DecidableEq

/-- The text of an expectation. -/
def Expectation.message : Expectation → String
  | .positiveInteger => "expected a positive integer"
  | .exactly value => "expected " ++ value
  | .either first second => "expected " ++ first ++ " or " ++ second
  | .oneOf values => "expected one of " ++ ", ".intercalate values
  | .noIgnorableErrors => "this dialect has no ignorable errors"

/-- What a remote source may divide its tables by. -/
inductive StructureElement where
  | catalog
  | schema
deriving Repr, DecidableEq

/-- The name of a structure element. -/
def StructureElement.name : StructureElement → String
  | .catalog => "catalog"
  | .schema => "schema"

/-- A fault of the configuration. -/
inductive ConfigurationError where
  | missingProperty (key : String)
  | invalidValue (key value : String) (expectation : Expectation)
  | unsupportedProperty (key dialect : String) (suggestion : Option String)
  | legacyValue (key value : String)
  | unsupportedStructureElement (key : String) (element : StructureElement) (dialect : String)
  | unknownCapability (name : String) (suggestion : Option String)
  | unknownDialect (name : String) (available : List String)
deriving Repr, DecidableEq

namespace ConfigurationError

/-- The property that lists excluded capabilities. -/
def exclusionKey : String := "EXCLUDED_CAPABILITIES"

/-- The only value that remains of a property with legacy values. -/
def currentValue : String := "CALCULATED"

/-- The text of an error. -/
def message : ConfigurationError → String
  | .missingProperty key => "Missing required property " ++ key
  | .invalidValue key value expectation =>
    "Invalid value '" ++ value ++ "' for property " ++ key ++ ": " ++ expectation.message
  | .unsupportedProperty key dialect _ =>
    "The dialect " ++ dialect ++ " does not support the property " ++ key
  | .legacyValue key value =>
    "The value '" ++ value ++ "' of property " ++ key ++ " is no longer supported"
  | .unsupportedStructureElement key element dialect =>
    "The dialect " ++ dialect ++ " does not support " ++ element.name ++ "s but " ++ key ++
      " is set"
  | .unknownCapability name _ =>
    "Unknown capability '" ++ name ++ "' in " ++ exclusionKey
  | .unknownDialect name _ => "Unknown SQL dialect '" ++ name ++ "'"

/-- The code of an error. -/
def code : ConfigurationError → Fault.Code
  | .missingProperty _ => .missingProperty
  | .invalidValue _ _ _ => .invalidPropertyValue
  | .unsupportedProperty _ _ _ => .unsupportedProperty
  | .legacyValue _ _ => .legacyPropertyValue
  | .unsupportedStructureElement _ _ _ => .unsupportedProperty
  | .unknownCapability _ _ => .unknownCapability
  | .unknownDialect _ _ => .unknownDialect

/-- The objects concerned. -/
def context : ConfigurationError → Fault.Context
  | .missingProperty key => .property key none none
  | .invalidValue key value _ => .property key (some value) none
  | .unsupportedProperty key dialect _ => .property key none (some dialect)
  | .legacyValue key value => .property key (some value) none
  | .unsupportedStructureElement key _ dialect => .property key none (some dialect)
  | .unknownCapability name _ => .property exclusionKey (some name) none
  | .unknownDialect name available => .dialect name available

/-- A suggestion put as a question, or something else to say. -/
def suggest (suggestion : Option String) (otherwise : String) : String :=
  match suggestion with
  | some name => "Did you mean '" ++ name ++ "'?"
  | none => otherwise

/-- What to change. -/
def hint : ConfigurationError → String
  | .missingProperty key =>
    "Please specify " ++ key ++ " when creating or altering the virtual schema"
  | .invalidValue key _ _ => "Correct the value of " ++ key
  | .unsupportedProperty key _ suggestion =>
    suggest suggestion ("Remove " ++ key ++ " from the virtual schema properties")
  | .legacyValue key _ => "Remove " ++ key ++ " or set it to " ++ currentValue
  | .unsupportedStructureElement key _ _ => "Remove the property " ++ key
  | .unknownCapability _ suggestion =>
    suggest suggestion
      "Use LITERAL_, FN_AGG_, FN_PRED_ or FN_ prefixes for non-main capabilities"
  | .unknownDialect name available =>
    suggest (Text.closest? name available)
      ("Available dialects: " ++ ", ".intercalate available)

/-- The fault that an error is answered with. -/
def toFault (error : ConfigurationError) : Fault :=
  ⟨error.code, error.message, some error.context, some error.hint⟩

end ConfigurationError

/-! ## Properties

A virtual schema is configured by a map from keys to texts.  An empty text counts as no value at
all, and every accessor goes through `value?`, which says so.  A change set maps keys to new
values or to nothing; merging it removes a key for nothing and for an empty text alike.
-/

namespace Property

/-- The connection object to use. -/
def connectionName : String := "CONNECTION_NAME"

/-- The remote catalog that is shown. -/
def catalogName : String := "CATALOG_NAME"

/-- The remote schema that is shown. -/
def schemaName : String := "SCHEMA_NAME"

/-- The tables that are shown. -/
def tableFilter : String := "TABLE_FILTER"

/-- How many tables may be shown. -/
def maxTableCount : String := "MAX_TABLE_COUNT"

/-- How the types of results are found out. -/
def importDataTypes : String := "IMPORT_DATA_TYPES"

/-- The capabilities not to make use of. -/
def excludedCapabilities : String := ConfigurationError.exclusionKey

/-- How much is logged. -/
def logLevel : String := "LOG_LEVEL"

/-- The errors that are not to stop the reading of a schema. -/
def ignoreErrors : String := "IGNORE_ERRORS"

/-- The keys that every dialect accepts. -/
def common : List String :=
  [connectionName, tableFilter, maxTableCount, importDataTypes, excludedCapabilities, logLevel]

/-- How many tables may be shown if nothing is said. -/
def defaultMaxTableCount : Nat := 1000

/-- The greatest limit on tables. -/
def greatestTableCount : Nat := 0xFFFFFFFFFFFFFFFF

/-- The value of `importDataTypes` of old, by which types came from result sets. -/
def legacyImportDataTypes : String := "FROM_RESULT_SET"

end Property

/-- How the types of results are found out: from what the remote source says about a statement. -/
inductive ImportDataTypes where
  | calculated
deriving Repr, DecidableEq, Inhabited

/-- The value by which the way is chosen. -/
def ImportDataTypes.name : ImportDataTypes → String
  | .calculated => ConfigurationError.currentValue

/-- The properties of a virtual schema. -/
structure Properties where
  stored : Dictionary String

/-- New values for some keys. -/
abbrev PropertyChanges := Dictionary (Option String)

namespace Properties

/-- No properties. -/
def empty : Properties := ⟨.empty⟩

/-- The properties of a list of keys and texts. -/
def ofList (entries : List (String × String)) : Properties := ⟨.ofList entries⟩

/-- The value of a key; an empty text is none. -/
def value? (properties : Properties) (key : String) : Option String :=
  (properties.stored.get? key).filter fun text => text != ""

/-- Whether a key has a value. -/
def has (properties : Properties) (key : String) : Bool := (properties.value? key).isSome

/-- The keys that have a value, ascending. -/
def keys (properties : Properties) : List String :=
  (properties.stored.filter fun _ text => text != "").keys

/-- The entries of a list-valued property. -/
def entries (properties : Properties) (key : String) : List String :=
  match properties.value? key with
  | some text => Text.entries text
  | none => []

/-- The name of the connection object. -/
def connectionName (properties : Properties) : Option String :=
  properties.value? Property.connectionName

/-- The name of the remote catalog. -/
def catalogName (properties : Properties) : Option String :=
  properties.value? Property.catalogName

/-- The name of the remote schema. -/
def schemaName (properties : Properties) : Option String :=
  properties.value? Property.schemaName

/-- The names of the tables to show; none means all. -/
def tableFilter (properties : Properties) : List String :=
  properties.entries Property.tableFilter

/-- How many tables may be shown. -/
def maxTableCount (properties : Properties) : Except ConfigurationError Nat :=
  match properties.value? Property.maxTableCount with
  | none => .ok Property.defaultMaxTableCount
  | some text =>
    let problem := ConfigurationError.invalidValue Property.maxTableCount text .positiveInteger
    match Text.readNat? Property.greatestTableCount (Text.trim text) with
    | some count => if count = 0 then .error problem else .ok count
    | none => .error problem

/-- How the types of results are found out. -/
def importDataTypes (properties : Properties) : Except ConfigurationError ImportDataTypes :=
  match properties.value? Property.importDataTypes with
  | none => .ok .calculated
  | some text =>
    if Text.equalIgnoringAsciiCase text ImportDataTypes.calculated.name then .ok .calculated
    else if Text.equalIgnoringAsciiCase text Property.legacyImportDataTypes then
      .error (.legacyValue Property.importDataTypes text)
    else
      .error (.invalidValue Property.importDataTypes text
        (.exactly ImportDataTypes.calculated.name))

/-- The capabilities not to make use of, as written. -/
def excludedCapabilities (properties : Properties) : List String :=
  properties.entries Property.excludedCapabilities

/-- The log level, as written. -/
def logLevel (properties : Properties) : Option String :=
  properties.value? Property.logLevel

/-- The errors to ignore, in upper case, ascending and each once. -/
def ignoredErrors (properties : Properties) : List String :=
  (Dictionary.ofList
    ((properties.entries Property.ignoreErrors).map fun entry =>
      (Text.asciiUpper entry, ()))).keys

/-- Whether an error is to be ignored. -/
def isErrorIgnored (properties : Properties) (name : String) : Bool :=
  properties.ignoredErrors.contains (Text.asciiUpper name)

/-- The stored map after one change. -/
def change (stored : Dictionary String) (key : String) (value : Option String) :
    Dictionary String :=
  match value with
  | some text => if text = "" then stored.erase key else stored.insert key text
  | none => stored.erase key

/-- The properties after a change set. -/
def merge (properties : Properties) (changes : PropertyChanges) : Properties :=
  ⟨changes.entries.foldl (fun stored entry => change stored entry.1 entry.2) properties.stored⟩

end Properties

/-! ## Log levels

A level may be given by the host's names, from SEVERE to FINEST, or by the plain ones.  Several
names of the host share a plain level.
-/

/-- How much is logged. -/
inductive LogLevel where
  | off
  | error
  | warn
  | info
  | debug
  | trace
deriving Repr, DecidableEq, Inhabited

namespace LogLevel

/-- The name of a level in log filters. -/
def directive : LogLevel → String
  | .off => "off"
  | .error => "error"
  | .warn => "warn"
  | .info => "info"
  | .debug => "debug"
  | .trace => "trace"

/-- The accepted names, as they are listed to users. -/
def acceptedNames : List String :=
  ["OFF", "SEVERE", "WARNING", "INFO", "CONFIG", "FINE", "FINER", "FINEST", "ALL", "ERROR",
   "WARN", "DEBUG", "TRACE"]

/-- The level with an accepted name in upper case. -/
def ofName? : String → Option LogLevel
  | "OFF" => some .off
  | "SEVERE" | "ERROR" => some .error
  | "WARNING" | "WARN" => some .warn
  | "INFO" | "CONFIG" => some .info
  | "FINE" | "DEBUG" => some .debug
  | "FINER" | "FINEST" | "ALL" | "TRACE" => some .trace
  | _ => none

/-- The level that a text denotes, whatever its case and the blanks around it. -/
def ofText? (text : String) : Option LogLevel :=
  ofName? (Text.asciiUpper (Text.trim text))

/-- The level used where none is asked for. -/
def default : LogLevel := .info

/-- The level to log at, or the text that denotes none. -/
def select (requested : Option String) : Except String LogLevel :=
  match requested with
  | none => .ok default
  | some text =>
    match ofText? text with
    | some level => .ok level
    | none => .error text

/-- What is said about a text that denotes no level. -/
def unsupportedMessage (text : String) : String :=
  "Unsupported log level '" ++ text ++ "'"

end LogLevel

/-! ## Checks

Each check answers with the first problem it finds.  The common checks run in a fixed order:
the connection, the structure elements, the supported keys, and then the values.
-/

namespace Configuration

/-- A connection has to be named. -/
def checkConnection (properties : Properties) : Except ConfigurationError Unit :=
  match properties.connectionName with
  | some _ => .ok ()
  | none => .error (.missingProperty Property.connectionName)

/-- Catalog and schema may only be named if the source has them. -/
def checkStructure (properties : Properties) (dialect : String) (catalogs schemas : Bool) :
    Except ConfigurationError Unit :=
  if !catalogs && properties.catalogName.isSome then
    .error (.unsupportedStructureElement Property.catalogName .catalog dialect)
  else if !schemas && properties.schemaName.isSome then
    .error (.unsupportedStructureElement Property.schemaName .schema dialect)
  else .ok ()

/-- Every key with a value has to be supported. -/
def checkKeys (properties : Properties) (dialect : String) (supported : List String) :
    Except ConfigurationError Unit :=
  match properties.keys.find? fun key => !supported.contains key with
  | some key => .error (.unsupportedProperty key dialect (Text.closest? key supported))
  | none => .ok ()

/-- The log level has to be an accepted one. -/
def checkLogLevel (properties : Properties) : Except ConfigurationError Unit :=
  match properties.logLevel with
  | none => .ok ()
  | some text =>
    match LogLevel.ofText? text with
    | some _ => .ok ()
    | none => .error (.invalidValue Property.logLevel text (.oneOf LogLevel.acceptedNames))

/-- Only known errors can be ignored. -/
def checkIgnoredErrors (properties : Properties) (known : List String) :
    Except ConfigurationError Unit :=
  match properties.ignoredErrors.find? fun name => !known.contains name with
  | some name =>
    .error (.invalidValue Property.ignoreErrors name
      (if known.isEmpty then .noIgnorableErrors else .oneOf known))
  | none => .ok ()

/-- The checks that come first for every dialect. -/
def checkCommon (properties : Properties) (dialect : String) (supported : List String)
    (catalogs schemas : Bool) : Except ConfigurationError Unit := do
  checkConnection properties
  checkStructure properties dialect catalogs schemas
  checkKeys properties dialect supported
  let _ ← properties.maxTableCount
  let _ ← properties.importDataTypes
  checkLogLevel properties

end Configuration

end Pushdown
