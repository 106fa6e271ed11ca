/-
Module: Pushdown.Fault
Purpose: The faults that every request may answer with, and their codes and JSON form.
Main exports: Fault.Code, Fault.Code.number, Fault.Code.toText, Fault, Fault.Context,
  Fault.display, Fault.Context.toJson, Fault.Context.ofJson?, Fault.toJson
-/
import Pushdown.Json.Basic
import Pushdown.Json.Value
import Pushdown.Text.Value
import Pushdown.Vocabulary

namespace Pushdown

/-! ## Codes

Every fault carries a code, and codes never change their meaning.  The thousands tell the
category: connectivity, queries, configuration, and everything else.
-/

namespace Fault

/-- What kind of fault it is. -/
inductive Code where
  | connectionFailed | connectionNotFound | metadataReadFailed | describeFailed
  | functionArity | nonSimpleFunctionAlias | invalidLiteral | invalidNode | maxRecursion
  | unsupportedResultType | tableCountExceeded | emptyResultShape
  | missingProperty | invalidPropertyValue | unsupportedProperty | legacyPropertyValue
  | unknownCapability | unknownDialect | invalidYaml
  | serializationFailed | internalPanic
  | unknown
deriving Repr, DecidableEq, Inhabited

/-- Which side a fault is to be looked for on. -/
inductive Category where
  | connectivity
  | query
  | config
  | internal
deriving Repr, DecidableEq, Inhabited

/-- The name of a category. -/
def Category.name : Category → String
  | .connectivity => "Connectivity"
  | .query => "Query"
  | .config => "Config"
  | .internal => "Internal"

namespace Code

/-- Every code, ascending by number. -/
def all : List Code :=
  [.connectionFailed, .connectionNotFound, .metadataReadFailed, .describeFailed,
   .functionArity, .nonSimpleFunctionAlias, .invalidLiteral, .invalidNode, .maxRecursion,
   .unsupportedResultType, .tableCountExceeded, .emptyResultShape,
   .missingProperty, .invalidPropertyValue, .unsupportedProperty, .legacyPropertyValue,
   .unknownCapability, .unknownDialect, .invalidYaml,
   .serializationFailed, .internalPanic, .unknown]

/-- The number of a code. -/
def number : Code → Nat
  | .connectionFailed => 1001
  | .connectionNotFound => 1002
  | .metadataReadFailed => 1003
  | .describeFailed => 1004
  | .functionArity => 2001
  | .nonSimpleFunctionAlias => 2002
  | .invalidLiteral => 2003
  | .invalidNode => 2004
  | .maxRecursion => 2005
  | .unsupportedResultType => 2006
  | .tableCountExceeded => 2007
  | .emptyResultShape => 2008
  | .missingProperty => 3001
  | .invalidPropertyValue => 3002
  | .unsupportedProperty => 3003
  | .legacyPropertyValue => 3004
  | .unknownCapability => 3005
  | .unknownDialect => 3006
  | .invalidYaml => 3007
  | .serializationFailed => 5002
  | .internalPanic => 5003
  | .unknown => 9999

/-- The name of a code. -/
def name : Code → String
  | .connectionFailed => "ConnectionFailed"
  | .connectionNotFound => "ConnectionNotFound"
  | .metadataReadFailed => "MetadataReadFailed"
  | .describeFailed => "DescribeFailed"
  | .functionArity => "FunctionArity"
  | .nonSimpleFunctionAlias => "NonSimpleFunctionAlias"
  | .invalidLiteral => "InvalidLiteral"
  | .invalidNode => "InvalidNode"
  | .maxRecursion => "MaxRecursion"
  | .unsupportedResultType => "UnsupportedResultType"
  | .tableCountExceeded => "TableCountExceeded"
  | .emptyResultShape => "EmptyResultShape"
  | .missingProperty => "MissingProperty"
  | .invalidPropertyValue => "InvalidPropertyValue"
  | .unsupportedProperty => "UnsupportedProperty"
  | .legacyPropertyValue => "LegacyPropertyValue"
  | .unknownCapability => "UnknownCapability"
  | .unknownDialect => "UnknownDialect"
  | .invalidYaml => "InvalidYaml"
  | .serializationFailed => "SerializationFailed"
  | .internalPanic => "InternalPanic"
  | .unknown => "Unknown"

instance : Vocabulary Code := ⟨all, name⟩

/-- What stands before the number in the text of a code. -/
def heading : List Char := ['F', 'E', 'R', 'R', 'Y', '-']

/-- The text of a code; every number has four digits. -/
def toText (code : Code) : String :=
  String.ofList (heading ++ Nat.toDigits 10 code.number)

/-- The category of a code. -/
def category (code : Code) : Category :=
  match code.number / 1000 with
  | 1 => .connectivity
  | 2 => .query
  | 3 => .config
  | _ => .internal

/-- Why something is not a code. -/
inductive Problem where
  | invalidFormat
  | unknownCode
  | unknownNumber (number : Nat)
deriving Repr, DecidableEq

/-- The text of a problem. -/
def Problem.message : Problem → String
  | .invalidFormat => "Invalid format"
  | .unknownCode => "Unknown code"
  | .unknownNumber number => "Unknown error code: " ++ toString number

/-- The greatest number that is looked at. -/
def greatestNumber : Nat := 0xFFFF

/-- The code with a given number. -/
def ofNumber (number : Nat) : Except Problem Code :=
  match all.find? fun code => code.number == number with
  | some code => .ok code
  | none => .error (.unknownNumber number)

/-- The list of characters after the heading of a code. -/
def afterHeading? (cs : List Char) : Option (List Char) :=
  if cs.take heading.length = heading then some (cs.drop heading.length) else none

/-- The code that a text denotes: the heading and then its number, in any spelling that a number
may have. -/
def ofText (text : String) : Except Problem Code :=
  match afterHeading? text.toList with
  | none => .error .invalidFormat
  | some rest =>
    match Text.readNat? greatestNumber (String.ofList rest) with
    | none => .error .invalidFormat
    | some number =>
      match ofNumber number with
      | .ok code => .ok code
      | .error _ => .error .unknownCode

end Code

end Fault

/-! ## Faults

Each part of the library has its own errors, named by their causes.  At its boundary they become
faults, which all look alike: a code that a program may go by, a message, the objects concerned,
and a hint on what to change.
-/

/-- The objects that a fault concerns. -/
inductive Fault.Context where
  | property (key : String) (value dialect : Option String)
  | dialect (requested : String) (available : List String)
  | function (function dialect : String) (expected actual : Option Nat)
  | tableCount (limit accepted : Nat)
  | resultColumn (position : Nat) (remoteType : String)
  | remote (connectionName : Option String) (operation : String)
  | generic (data : Dictionary Json)

/-- A failed request. -/
structure Fault where
  code : Fault.Code
  message : String
  context : Option Fault.Context := none
  hint : Option String := none

namespace Fault

/-- The category of the code of a fault. -/
def category (fault : Fault) : Category := fault.code.category

/-- The line that the host prints. -/
def display (fault : Fault) : String :=
  "[" ++ fault.code.toText ++ "] " ++ fault.message ++
    match fault.hint with
    | some hint => " (Hint: " ++ hint ++ ")"
    | none => ""

/-- A failure of the operating system. -/
def ofSystem (reason : String) : Fault := { code := .internalPanic, message := reason }

/-- A YAML document that cannot be read. -/
def ofYaml (reason : String) : Fault := { code := .invalidYaml, message := reason }

/-- A JSON document that cannot be read. -/
def ofJson (reason : String) : Fault := { code := .serializationFailed, message := reason }

end Fault

/-! ## Faults as JSON

A fault is a record with the code as text; a missing context or hint is left out.  A context is a
record with a tag; in it, what is missing is written as null.  The members of a generic context
stand beside the tag.
-/

namespace Fault

/-- A context as a tagged record. -/
def Context.toJson : Context → Json
  | .property key value dialectName =>
    .object [("type", .text "property"), ("key", .text key), ("value", .optionalText value),
      ("dialect", .optionalText dialectName)]
  | .dialect requested available =>
    .object [("type", .text "dialect"), ("requested", .text requested),
      ("available", .texts available)]
  | .function functionName dialectName expected actual =>
    .object [("type", .text "function"), ("function", .text functionName),
      ("dialect", .text dialectName), ("expected_args", .optionalNatural expected),
      ("actual_args", .optionalNatural actual)]
  | .tableCount limit accepted =>
    .object [("type", .text "table_count"), ("limit", .natural limit),
      ("accepted", .natural accepted)]
  | .resultColumn position remoteType =>
    .object [("type", .text "result_column"), ("position", .natural position),
      ("remote_type", .text remoteType)]
  | .remote connectionName operation =>
    .object [("type", .text "remote"), ("connection_name", .optionalText connectionName),
      ("operation", .text operation)]
  | .generic data => .object (("type", .text "generic") :: data.entries)

/-- The members of the record of a fault. -/
def members (fault : Fault) : List (String × Json) :=
  [("code", .text fault.code.toText), ("message", .text fault.message)] ++
    (match fault.context with
      | some context => [("context", context.toJson)]
      | none => []) ++
    match fault.hint with
    | some hint => [("hint", .text hint)]
    | none => []

/-- A fault as a record. -/
def toJson (fault : Fault) : Json := .object fault.members

/-- The JSON text of a fault. -/
def toJsonText (fault : Fault) : String := fault.toJson.compact

/-- The greatest count in a context. -/
def greatestCount : Nat := 0xFFFFFFFFFFFFFFFF

/-- A given count. -/
def readCount? (field : Option Json) : Option Nat := Json.readNatural? greatestCount field

/-- A count that may be missing or null. -/
def readOptionalCount? (field : Option Json) : Option (Option Nat) :=
  Json.readOptionalNatural? greatestCount field

/-- The context with a given tag. -/
def Context.ofFields? (tag : String) (fields : Json.Fields Json) : Option Context :=
  match tag with
  | "property" =>
    match fields.takeExactly? ["key", "value", "dialect"] with
    | some [key, value, dialectName] =>
      match Json.readText? key, Json.readOptionalText? value,
        Json.readOptionalText? dialectName with
      | some key, some value, some dialectName => some (.property key value dialectName)
      | _, _, _ => none
    | _ => none
  | "dialect" =>
    match fields.takeExactly? ["requested", "available"] with
    | some [requested, available] =>
      match Json.readText? requested, Json.readTexts? available with
      | some requested, some available => some (.dialect requested available)
      | _, _ => none
    | _ => none
  | "function" =>
    match fields.takeExactly? ["function", "dialect", "expected_args", "actual_args"] with
    | some [functionName, dialectName, expected, actual] =>
      match Json.readText? functionName, Json.readText? dialectName,
        readOptionalCount? expected, readOptionalCount? actual with
      | some functionName, some dialectName, some expected, some actual =>
        some (.function functionName dialectName expected actual)
      | _, _, _, _ => none
    | _ => none
  | "table_count" =>
    match fields.takeExactly? ["limit", "accepted"] with
    | some [limit, accepted] =>
      match readCount? limit, readCount? accepted with
      | some limit, some accepted => some (.tableCount limit accepted)
      | _, _ => none
    | _ => none
  | "result_column" =>
    match fields.takeExactly? ["position", "remote_type"] with
    | some [position, remoteType] =>
      match readCount? position, Json.readText? remoteType with
      | some position, some remoteType => some (.resultColumn position remoteType)
      | _, _ => none
    | _ => none
  | "remote" =>
    match fields.takeExactly? ["connection_name", "operation"] with
    | some [connectionName, operation] =>
      match Json.readOptionalText? connectionName, Json.readText? operation with
      | some connectionName, some operation => some (.remote connectionName operation)
      | _, _ => none
    | _ => none
  | "generic" =>
    match fields with
    | .named members => some (.generic (.ofList (Json.orderedMembers members)))
    | .listed _ => none
  | _ => none

/-- Reads a context from its tagged record. -/
def Context.ofJson? (json : Json) : Option Context :=
  match Json.Tagged.read? "type" json with
  | some tagged => Context.ofFields? tagged.tag tagged.fields
  | none => none

/-- A text in a fault, from its written form. -/
def writtenText? : Option Json.Written → Option String
  | some (.text characters) => Json.textValue? characters
  | _ => none

/-- A text in a fault that may be missing or null. -/
def writtenOptionalText? : Option Json.Written → Option (Option String)
  | none | some .null => some none
  | some (.text characters) => (Json.textValue? characters).map some
  | _ => none

/-- A context in a fault that may be missing or null.  It is one level deep already. -/
def writtenContext? : Option Json.Written → Option (Option Context)
  | none | some .null => some none
  | some document =>
    match document.value? (Json.greatestDepth - 1) with
    | some json => (Context.ofJson? json).map some
    | none => none

/-- Reads a fault from the fields of its record. -/
def ofFields? (fields : Json.Fields Json.Written) : Option Fault :=
  match fields.takeExactly? ["code", "message", "context", "hint"] with
  | some [code, message, context, hint] =>
    match writtenText? code, writtenText? message, writtenContext? context,
      writtenOptionalText? hint with
    | some code, some message, some context, some hint =>
      match Code.ofText code with
      | .ok code => some ⟨code, message, context, hint⟩
      | .error _ => none
    | _, _, _, _ => none
  | _ => none

/-- Reads a fault from its JSON text. -/
def ofJsonText? (text : String) : Option Fault :=
  match Json.Written.read? text with
  | none => none
  | some document =>
    match Json.Fields.ofWritten? document with
    | some fields => ofFields? fields
    | none => none

end Fault

end Pushdown
