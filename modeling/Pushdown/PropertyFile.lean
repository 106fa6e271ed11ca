/-
Module: Pushdown.PropertyFile
Purpose: Files that list virtual schemas with their dialects and properties.
Main exports: SchemaEntry, SchemaEntry.check, PropertyFile, PropertyFile.ofText,
  PropertyFile.Error
-/
import Pushdown.Dialect
import Pushdown.Registry
import Pushdown.Yaml.Node

namespace Pushdown

/-!
A property file is a YAML document with a list of schemas.  Each entry names a schema and its
dialect and may give properties; what else it says does not matter.  An entry is checked as the
adapter checks a request before it turns to the remote source: the dialect has to be registered,
and it has to accept the properties.
-/

/-- A virtual schema as a property file lists it. -/
structure SchemaEntry where
  name : String
  dialectName : String
  properties : Properties

/-- A property file. -/
structure PropertyFile where
  schemas : List SchemaEntry

/-- Why a text is no property file. -/
inductive PropertyFile.Error where
  /-- It is no YAML document, or one of another shape. -/
  | malformed (error : Yaml.Error)
  /-- It lists no schemas. -/
  | noSchemas
  /-- An entry has an empty name or an empty dialect. -/
  | emptyField
deriving Repr, DecidableEq

namespace SchemaEntry

open Yaml

/-- The fields of an entry. -/
def fieldNames : List String := ["name", "dialect", "properties"]

/-- Reads an entry. -/
def read (document : Yaml.Document) (node : Yaml.Node) : Reading SchemaEntry := do
  match ← Reading.record document fieldNames node with
  | [name, dialectName, properties] => do
    let name ← Reading.field "name" (Reading.text document) name
    let dialectName ← Reading.field "dialect" (Reading.text document) dialectName
    let properties ← Reading.optional [] (Reading.members document) properties
    pure ⟨name, dialectName, .ofList properties⟩
  | _ => throw .expectedMapping

/-- Whether an entry names its schema and its dialect. -/
def isComplete (entry : SchemaEntry) : Bool := entry.name != "" && entry.dialectName != ""

/-- Checks an entry: its dialect has to be registered and to accept its properties. -/
def check (registry : Registry) (entry : SchemaEntry) : Except ConfigurationError Unit := do
  let dialect ← registry.create entry.dialectName entry.properties
  dialect.validate entry.properties

/-- The fault of an entry, if it has one. -/
def fault? (registry : Registry) (entry : SchemaEntry) : Option Fault :=
  match entry.check registry with
  | .ok _ => none
  | .error error => some error.toFault

end SchemaEntry

namespace PropertyFile

open Yaml

/-- Reads a property file from its document. -/
def read (document : Yaml.Document) (node : Yaml.Node) : Reading PropertyFile := do
  match ← Reading.record document ["schemas"] node with
  | [schemas] => do
    let schemas ←
      Reading.field "schemas" (Reading.list document (SchemaEntry.read document)) schemas
    pure ⟨schemas⟩
  | _ => throw .expectedMapping

/-- The property file that a text holds. -/
def ofText (text : String) : Except Error PropertyFile :=
  match Yaml.read read text with
  | .error error => .error (.malformed error)
  | .ok file =>
    if file.schemas.isEmpty then .error .noSchemas
    else if file.schemas.all SchemaEntry.isComplete then .ok file
    else .error .emptyField

namespace Error

/-- What is wrong with a text.  These words stand for those of the libraries that read documents
and check them, behind a few words of the tool. -/
def reason : Error → String
  | .malformed error => error.message
  | .noSchemas => "no schemas are listed"
  | .emptyField => "a name or a dialect is empty"

/-- What to do about it. -/
def hint : Error → String
  | .malformed _ =>
    "Expected a top-level 'schemas' list of \x7bname, dialect, properties\x7d"
  | .noSchemas | .emptyField => "Every schema needs a non-empty name and dialect"

/-- An error as a fault. -/
def toFault (error : Error) : Fault :=
  { Fault.ofYaml ("Invalid property file: " ++ error.reason) with hint := some error.hint }

end Error

end PropertyFile

end Pushdown
