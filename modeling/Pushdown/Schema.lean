/-
Module: Pushdown.Schema
Purpose: The tables of a virtual schema, and how they are read from a remote source.
Main exports: Column, Table, Schema, Schema.toJson, SchemaError, SchemaReader,
  SchemaReader.readSchema, SchemaReader.ofDialect
-/
import Pushdown.Configuration
import Pushdown.DataType
import Pushdown.Dialect
import Pushdown.Remote

namespace Pushdown

/-! ## Schemas

A schema is told as tables with typed columns.  The notes of a schema keep the conventions of the
source; the notes of a column keep its remote type.
-/

/-- A column as told to the host. -/
structure Column where
  name : String
  type : DataType
  nullable : Bool
  identity : Bool
  defaultValue : Option String
  comment : Option String
  notes : String
deriving Repr, DecidableEq

/-- A table as told to the host. -/
structure Table where
  name : String
  comment : Option String
  columns : List Column
deriving Repr, DecidableEq

/-- A schema as told to the host. -/
structure Schema where
  tables : List Table
  notes : String
deriving Repr, DecidableEq

/-- A member of an object, if there is a text for it. -/
def optionalMember (key : String) : Option String → List (String × Json)
  | some text => [(key, .text text)]
  | none => []

/-- A column as an object. -/
def Column.toJson (column : Column) : Json :=
  .object
    ([("name", .text column.name), ("data_type", column.type.toJson),
      ("nullable", .bool column.nullable), ("identity", .bool column.identity)] ++
      optionalMember "default_value" column.defaultValue ++
      optionalMember "comment" column.comment ++
      [("adapter_notes", .text column.notes)])

/-- A table as an object. -/
def Table.toJson (table : Table) : Json :=
  .object
    ([("name", .text table.name)] ++ optionalMember "comment" table.comment ++
      [("columns", .array (table.columns.map Column.toJson))])

/-- A schema as an object. -/
def Schema.toJson (schema : Schema) : Json :=
  .object
    [("tables", .array (schema.tables.map Table.toJson)), ("adapter_notes", .text schema.notes)]

/-- Why a schema was not read. -/
inductive SchemaError where
  | connectivity (error : ConnectivityError)
  | configuration (error : ConfigurationError)
  | tableCountExceeded (limit accepted : Nat)
  | upperCaseTable (name : String)
deriving Repr, DecidableEq

namespace SchemaError

/-- The text of an error. -/
def message : SchemaError → String
  | .connectivity error => error.message
  | .configuration error => error.message
  | .tableCountExceeded limit accepted =>
    "The remote schema contains more than " ++ Nat.repr limit ++ " tables (read " ++
      Nat.repr accepted ++ " so far)"
  | .upperCaseTable name =>
    "Table '" ++ name ++ "' contains upper-case characters and cannot be mapped"

/-- The fault that an error is answered with for a connection. -/
def toFault (connectionName : Option String) : SchemaError → Fault
  | .connectivity error => error.toFault connectionName
  | .configuration error => error.toFault
  | .tableCountExceeded limit accepted =>
    ⟨.tableCountExceeded, message (.tableCountExceeded limit accepted),
     some (.tableCount limit accepted),
     some ("Narrow the mapped tables with TABLE_FILTER or SCHEMA_NAME, or raise " ++
       "MAX_TABLE_COUNT")⟩
  | .upperCaseTable name =>
    ⟨.metadataReadFailed, message (.upperCaseTable name), none,
     some ("Rename the table, preserve the original case through the dialect's identifier " ++
       "mapping, or skip such tables through IGNORE_ERRORS")⟩

end SchemaError

/-! ## Reading

Tables are read one after the other in the order in which the source lists them.  A table counts
when the filter names it, its name can be shown, and one of its columns at least has a supported
type.  Reading stops at the first table that cannot be shown or is one too many.
-/

/-- What becomes of a table with upper-case characters in its name. -/
inductive UpperCaseTables where
  | accept
  | reject
  | skip
deriving Repr, DecidableEq, Inhabited

/-- How schemas are read. -/
structure SchemaReader where
  mapType : RemoteType → DataType
  identifierCase : IdentifierCase
  upperCaseTables : UpperCaseTables

/-- The pattern that every name matches. -/
def anyName : String := "%"

/-- Whether a name has an upper-case character. -/
def hasUppercase (name : String) : Bool := name.toList.any Text.isUppercase

namespace SchemaReader

/-- The reader of a dialect for hosts of a version. -/
def ofDialect (dialect : Dialect) (properties : Properties) (version : HostVersion) :
    SchemaReader :=
  { mapType := dialect.typeRules.map version
    identifierCase := dialect.identifierCase
    upperCaseTables :=
      match dialect.upperCaseTableError with
      | none => .accept
      | some name => if properties.isErrorIgnored name then .skip else .reject }

/-- Whether a filter lets a table pass; an empty filter lets all pass. -/
def passes (filter : List String) (name : String) : Bool :=
  filter.isEmpty || filter.contains name

/-- Whether a table is shown under its name, or why there is no schema at all. -/
def acceptsName (reader : SchemaReader) (name : String) : Except SchemaError Bool :=
  if hasUppercase name then
    match reader.upperCaseTables with
    | .accept => .ok true
    | .skip => .ok false
    | .reject => .error (.upperCaseTable name)
  else .ok true

/-- The notes of a column. -/
def columnNotes (type : RemoteType) : String :=
  (Json.object
    [("jdbcDataType", .whole type.typeCode.code), ("typeName", .text type.typeName)]).compact

/-- A column as told to the host, if its type is supported. -/
def column? (reader : SchemaReader) (column : RemoteColumn) : Option Column :=
  let type := reader.mapType column.type
  if type.isSupported then
    some
      { name := reader.identifierCase.present column.name
        type := type
        nullable := column.nullable
        identity := column.identity
        defaultValue := column.defaultValue
        comment := column.comment
        notes := columnNotes column.type }
  else none

/-- A table as told to the host, if one of its columns is. -/
def table? (reader : SchemaReader) (table : RemoteTable) (columns : List RemoteColumn) :
    Option Table :=
  match columns.filterMap reader.column? with
  | [] => none
  | column :: rest =>
    some
      { name := reader.identifierCase.present table.name
        comment := table.comment
        columns := column :: rest }

open Session

/-- Reads the tables that pass, as long as there is room for them. -/
def readTables (reader : SchemaReader) (remote : Remote) (connection : Connection)
    (filter : List String) (limit : Nat) :
    (room : Nat) → List RemoteTable → Action SchemaError (List Table)
  | _, [] => pure []
  | room, table :: rest =>
    if passes filter table.name then do
      let accepted ← settled (reader.acceptsName table.name)
      if accepted then do
        let columns ← relabel .connectivity
          (columns remote connection table.catalog table.schema table.name anyName)
        match reader.table? table columns, room with
        | none, room => readTables reader remote connection filter limit room rest
        | some _, 0 => throw (.tableCountExceeded limit (limit + 1))
        | some shown, room + 1 => do
          let more ← readTables reader remote connection filter limit room rest
          pure (shown :: more)
      else readTables reader remote connection filter limit room rest
    else readTables reader remote connection filter limit room rest

/-- Reads a schema over an open connection. -/
def readSchema (reader : SchemaReader) (remote : Remote) (connection : Connection)
    (properties : Properties) : Action SchemaError Schema := do
  let limit ← relabel .configuration (settled properties.maxTableCount)
  let conventions ← relabel .connectivity (conventions remote connection)
  let tables ← relabel .connectivity
    (tables remote connection properties.catalogName properties.schemaName anyName
      Dialect.tableTypes)
  let shown ← reader.readTables remote connection properties.tableFilter limit limit tables
  pure ⟨shown, conventions.toNotes⟩

end SchemaReader

end Pushdown
