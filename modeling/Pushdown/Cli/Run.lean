/-
Module: Pushdown.Cli.Run
Purpose: The reports of the tool, and a whole run of it.
Main exports: Cli.dialectReport, Cli.capabilityReport, Cli.mappingReport, Cli.validationReport,
  Cli.Command.report, Cli.Invocation.perform, Cli.UsageError.outcome, Cli.run
-/
import Pushdown.Adapter
import Pushdown.Cli.Outcome
import Pushdown.PropertyFile

namespace Pushdown.Cli

/-! ## Reports

No command turns to a remote source.  Dialects are chosen and checked as the adapter does it, so
what the commands say about a configuration is what the adapter will do with it.
-/

/-! ### Dialects -/

/-- A text with blanks behind it up to a width. -/
def padded (width : Nat) (text : String) : String :=
  String.ofList (text.toList ++ List.replicate (width - text.length) ' ')

/-- The width of the column of names. -/
def nameWidth : Nat := 12

/-- What people are told about a dialect. -/
def dialectLines (descriptor : Descriptor) : List String :=
  let dialect := descriptor.build (.ofList [])
  [Style.name (padded nameWidth descriptor.name) ++ " " ++ descriptor.description,
   padded nameWidth "" ++ " " ++
     Style.dim.apply ("properties: " ++ ", ".intercalate dialect.supportedProperties)]

/-- What programs are told about a dialect. -/
def dialectData (descriptor : Descriptor) : Yaml.Value :=
  let dialect := descriptor.build (.ofList [])
  .mapping
    [("name", .text descriptor.name), ("description", .text descriptor.description),
     ("supports_catalogs", .bool dialect.hasCatalogs),
     ("supports_schemas", .bool dialect.hasSchemas),
     ("properties", .texts dialect.supportedProperties)]

/-- The report on all dialects. -/
def dialectReport (registry : Registry) : Report :=
  { lines := registry.dialects.values.flatMap dialectLines
    data := [("dialects", .sequence (registry.dialects.values.map dialectData))] }

/-! ### Capabilities -/

/-- The properties that only exclude capabilities. -/
def exclusionProperties (exclusion : Option String) : Properties :=
  .ofList (exclusion.toList.map fun text => (Property.excludedCapabilities, text))

/-- The capabilities that a dialect has left, and the excluded ones. -/
structure CapabilityListing where
  dialectName : String
  capabilities : List String
  excluded : List String

/-- Takes the excluded capabilities from those of a dialect. -/
def listCapabilities (registry : Registry) (dialectName : String) (exclusion : Option String) :
    Except ConfigurationError CapabilityListing := do
  let properties := exclusionProperties exclusion
  let dialect ← registry.create dialectName properties
  let excluded ← Capabilities.ofEntries properties.excludedCapabilities
  let names := (dialect.capabilities.subtract excluded).names
  pure ⟨dialect.name, names.mergeSort fun left right => decide (left ≤ right), excluded.names⟩

/-- The report on the capabilities of a dialect. -/
def CapabilityListing.report (listing : CapabilityListing) : Report :=
  { lines :=
      [Style.dim.apply "Dialect:" ++ " " ++ Style.name listing.dialectName ++ " (" ++
        Nat.repr listing.capabilities.length ++ " capabilities)"] ++
      listing.capabilities.map ("  " ++ ·) ++
      if listing.excluded.isEmpty then []
      else [Style.yellow.apply "Excluded:" ++ " " ++ ", ".intercalate listing.excluded]
    data :=
      [("dialect", .text listing.dialectName), ("capabilities", .texts listing.capabilities),
       ("excluded", .texts listing.excluded)] }

/-- The report on the capabilities of a dialect without the excluded ones. -/
def capabilityReport (registry : Registry) (dialectName : String) (exclusion : Option String) :
    Except Failure Report :=
  match listCapabilities registry dialectName exclusion with
  | .ok listing => .ok listing.report
  | .error error => .error (.fault error.toFault)

/-! ### Types -/

/-- The remote type of a request. -/
def MappingRequest.remoteType (request : MappingRequest) : RemoteType :=
  { typeCode := .ofCode request.typeCode
    size := request.size
    scale := request.scale
    octets := request.octets
    typeName := request.typeName }

/-- What programs are told about a type code: its name or, tagged, its number. -/
def typeCodeData (typeCode : TypeCode) : Yaml.Value :=
  match typeCode.nameOrCode with
  | .ok name => .text name
  | .error code => .tagged "Other" (.whole code)

/-- What programs are told about a remote type. -/
def remoteTypeData (type : RemoteType) : Yaml.Value :=
  .mapping
    [("type_code", typeCodeData type.typeCode), ("scale", .whole type.scale),
     ("precision_or_size", .natural type.size), ("octet_length", .natural type.octets),
     ("type_name", .text type.typeName)]

/-- The line for people on the type that a remote type is mapped to. -/
def mappedLine (mapped : DataType) : String :=
  if mapped.isSupported then Style.tick ++ " " ++ Style.bold.apply mapped.toText
  else
    Style.cross ++ " " ++ Style.bold.apply mapped.toText ++ " (the column would be skipped)"

/-- The report on the type that a remote type is mapped to. -/
def mappingReport (registry : Registry) (request : MappingRequest) : Except Failure Report :=
  match registry.create request.dialectName (.ofList []) with
  | .error error => .error (.fault error.toFault)
  | .ok dialect =>
    let type := request.remoteType
    let mapped := dialect.typeRules.map (.ofText request.hostVersion) type
    .ok
      { lines := [mappedLine mapped]
        data :=
          [("dialect", .text dialect.name), ("remote", remoteTypeData type),
           ("mapped", .text mapped.toText), ("supported", .bool mapped.isSupported)] }

/-! ### Property files -/

/-- What people are told about an entry. -/
def entryLine (registry : Registry) (entry : SchemaEntry) : String :=
  let subject := " " ++ entry.name ++ " (" ++ entry.dialectName ++ "): "
  match entry.fault? registry with
  | none => Style.tick ++ subject ++ "OK"
  | some fault => Style.cross ++ subject ++ fault.display

/-- What programs are told about an entry. -/
def entryData (registry : Registry) (entry : SchemaEntry) : Yaml.Value :=
  let fault := entry.fault? registry
  .mapping
    ([("name", .text entry.name), ("dialect", .text entry.dialectName),
      ("valid", .bool fault.isNone)] ++
      match fault with
      | some fault => [("error", .ofJson fault.toJson)]
      | none => [])

/-- The first line of the report on a property file. -/
def validationHeading (fileName : String) : String :=
  Style.dim.apply "[Properties:" ++ " " ++ Style.yellow.apply fileName ++ " " ++
    Style.name "] Validating..."

/-- The last line of the report on a property file in which all is in order. -/
def allValidLine : String :=
  Style.bold.apply (Style.green.apply "All virtual schemas are valid.")

/-- The report on the schemas of a property file. -/
def propertyFileReport (registry : Registry) (fileName : String) (file : PropertyFile) :
    Report :=
  let blamed := file.schemas.findSome? (SchemaEntry.fault? registry)
  { lines :=
      [validationHeading fileName] ++ file.schemas.map (entryLine registry) ++
      if blamed.isNone then [allValidLine] else []
    data :=
      [("valid", .bool blamed.isNone),
       ("schemas", .sequence (file.schemas.map (entryData registry)))]
    blamed := blamed }

/-- The report on a property file with given contents, if it could be read. -/
def validationReport (registry : Registry) (fileName : String) (contents : Option String) :
    Except Failure Report :=
  match contents with
  | none => .error (.unreadableFile fileName)
  | some text =>
    match PropertyFile.ofText text with
    | .error error => .error (.fault error.toFault)
    | .ok file => .ok (propertyFileReport registry fileName file)

/-! ### All commands -/

/-- What a command finds out.  `contents` is what the file that it reads holds. -/
def Command.report (registry : Registry) (contents : Option String) :
    Command → Except Failure Report
  | .dialects => .ok (dialectReport registry)
  | .capabilities dialectName exclusion => capabilityReport registry dialectName exclusion
  | .mapType request => mappingReport registry request
  | .validate fileName => validationReport registry fileName contents

/-! ## Runs

A run is a function of the words of the command line, the log level in the surroundings, and what
can be read from files.  A log level that is none is only warned of.
-/

/-- What a run depends on besides the words of the command line. -/
structure Surroundings where
  /-- The log level that is set for all runs. -/
  logLevel : Option String
  /-- What a file holds, if it can be read. -/
  contents : String → Option String

/-- How the tool is called. -/
def usage : String :=
  "\n".intercalate
    ["Usage: ferry [--output human|json|yaml] [--log-level LEVEL] COMMAND",
     "",
     "Commands:",
     "  dialects",
     "  capabilities DIALECT [--exclude CAPABILITIES]",
     "  map-type DIALECT --jdbc-type CODE [--size N] [--scale N] [--octet-length N]",
     "           [--type-name NAME] [--host-version VERSION]",
     "  validate [FILE]"]

/-- The warning of a log level that is none. -/
def logLevelWarning (surroundings : Surroundings) (invocation : Invocation) : List String :=
  let level := (invocation.logLevel.or surroundings.logLevel).getD defaultLogLevel
  match LogLevel.select (some level) with
  | .ok _ => []
  | .error text => [Outcome.warningLine (LogLevel.unsupportedMessage text)]

/-- What a command ends in. -/
def Invocation.perform (registry : Registry) (invocation : Invocation)
    (contents : Option String) : Outcome :=
  match invocation.command.report registry contents with
  | .ok report => .ofReport invocation.format report
  | .error failure => .ofFailure invocation.format failure

/-- What a run prints, and how it ends. -/
structure Transcript where
  status : ExitStatus
  output : String
  errors : String
deriving Repr, DecidableEq

/-- What a request comes to. -/
def Request.transcript (surroundings : Surroundings) : Request → Transcript
  | .help => ⟨.success, usage ++ "\n", ""⟩
  | .run invocation =>
    let outcome :=
      invocation.perform .builtin (invocation.command.fileName?.bind surroundings.contents)
    ⟨outcome.status, outcome.output invocation.format,
      Outcome.unlines (logLevelWarning surroundings invocation ++ outcome.complaints)⟩

/-- What is printed about a command line that is not understood. -/
def UsageError.transcript (error : UsageError) : Transcript :=
  ⟨.usage, "", "error: " ++ error.message ++ "\n\n" ++ usage ++ "\n"⟩

/-- Runs the tool. -/
def run (surroundings : Surroundings) (words : List String) : Transcript :=
  match Request.ofWords words with
  | .ok request => request.transcript surroundings
  | .error error => error.transcript

end Pushdown.Cli
