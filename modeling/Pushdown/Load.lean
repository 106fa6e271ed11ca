/-
Module: Pushdown.Load
Purpose: Load statements, by which the host executes generated SQL on the remote side.
Main exports: LoadStatement, LoadStatement.toText, LoadError, LoadRequest, LoadRequest.statement
-/
import Pushdown.Remote
import Pushdown.Sql.Render

namespace Pushdown

/-!
A load statement names a connection, carries the generated SQL as a string, and may list the
types of the columns.  Where the list comes from depends on the strategy: from nowhere, from the
remote source, which describes the statement, or from the plan of the host.
-/

/-- How a load statement refers to the connection. -/
inductive ConnectionClause where
  | named (name : String)
  | inline (information : ConnectionInformation)
deriving Repr, DecidableEq

/-- A statement that loads the result of remote SQL. -/
structure LoadStatement where
  /-- The types of the columns, if they are listed. -/
  columns : Option (List DataType)
  connection : ConnectionClause
  sql : String
deriving Repr, DecidableEq

/-- A string of the host. -/
def hostString (text : String) : String := Text.QuoteStyle.apostrophes.encode text

/-- The clause as written. -/
def ConnectionClause.toText : ConnectionClause → String
  | .named name => "AT " ++ name
  | .inline information =>
    "AT " ++ hostString information.address ++ " USER " ++ hostString information.user ++
      " IDENTIFIED BY " ++ hostString information.password

namespace LoadStatement

/-- The columns with the names `c1`, `c2` and so on, the first under a given number. -/
def columnsFrom (number : Nat) : List DataType → List String
  | [] => []
  | type :: rest =>
    ("c" ++ Nat.repr number ++ " " ++ type.toText) :: columnsFrom (number + 1) rest

/-- The list of columns with the keyword before it. -/
def columnsText : Option (List DataType) → String
  | some types => "INTO (" ++ ", ".intercalate (columnsFrom 1 types) ++ ") "
  | none => ""

/-- The statement as written. -/
def toText (statement : LoadStatement) : String :=
  "IMPORT " ++ columnsText statement.columns ++ "FROM JDBC " ++ statement.connection.toText ++
    " STATEMENT " ++ hostString statement.sql

end LoadStatement

/-- Why there is no load statement. -/
inductive LoadError where
  | generation (error : GenerationError)
  | configuration (error : ConfigurationError)
  | connectivity (error : ConnectivityError)
  | unsupportedResultType (position : Nat) (remoteType : String)
  | emptyResultShape
deriving Repr, DecidableEq

namespace LoadError

/-- The text of an error. -/
def message : LoadError → String
  | .generation error => error.message
  | .configuration error => error.message
  | .connectivity error => error.message
  | .unsupportedResultType position remoteType =>
    "Result column " ++ Nat.repr position ++ " has remote type " ++ remoteType ++
      ", which has no supported mapping"
  | .emptyResultShape => "The pushed-down statement describes no result columns"

/-- The fault that an error is answered with, in a dialect and for a connection. -/
def toFault (dialectName : String) (connectionName : Option String) : LoadError → Fault
  | .generation error => error.toFault dialectName
  | .configuration error => error.toFault
  | .connectivity error => error.toFault connectionName
  | .unsupportedResultType position remoteType =>
    ⟨.unsupportedResultType, message (.unsupportedResultType position remoteType),
     some (.resultColumn position remoteType),
     some "Exclude the capability that projects this column or cast it remotely"⟩
  | .emptyResultShape => ⟨.emptyResultShape, message .emptyResultShape, none, none⟩

end LoadError

/-- A remote type in words: its name or, if it has none, its code. -/
def RemoteType.describe (type : RemoteType) : String :=
  if type.typeName = "" then "JDBC type " ++ toString type.typeCode.code else type.typeName

/-- The logical types of columns, counted from a position on; none may be unsupported.  Each
column comes with the words for its type that an error uses. -/
def resultTypesFrom (position : Nat) :
    List (DataType × String) → Except LoadError (List DataType)
  | [] => .ok []
  | (type, words) :: rest =>
    if type.isSupported then
      match resultTypesFrom (position + 1) rest with
      | .ok types => .ok (type :: types)
      | .error error => .error error
    else .error (.unsupportedResultType position words)

/-- The types that the remote source described. -/
def describedTypes (mapType : RemoteType → DataType) (columns : List RemoteType) :
    Except LoadError (List DataType) :=
  if columns.isEmpty then .error .emptyResultShape
  else resultTypesFrom 1 (columns.map fun column => (mapType column, column.describe))

/-- The types that the host planned with. -/
def plannedTypes (types : List DataType) : Except LoadError (List DataType) :=
  resultTypesFrom 1 (types.map fun type => (type, type.toText))

/-- All that a load statement depends on. -/
structure LoadRequest where
  dialect : Dialect
  strategy : LoadStrategy
  style : ConnectionStyle
  context : QueryContext
  properties : Properties
  version : HostVersion
  /-- The types that the host planned with, in the order of the columns. -/
  planned : Option (List DataType)
  node : Node

namespace LoadRequest

open Session

/-- The SQL that is to be executed on the remote side. -/
def generate (request : LoadRequest) : Except LoadError String :=
  match Generator.ofDialect request.dialect request.context with
  | .error error => .error (.generation error)
  | .ok generator =>
    match generator.statement request.node with
    | .error error => .error (.generation error)
    | .ok sql => .ok sql.toText

/-- The name of the connection object. -/
def connectionName (request : LoadRequest) : Except LoadError String :=
  match request.properties.connectionName with
  | some name => .ok name
  | none => .error (.configuration (.missingProperty Property.connectionName))

/-- The types by which the remote source describes a statement, asked for over a connection from
a given source. -/
def describe (request : LoadRequest) (remote : Remote)
    (source : Action ConnectivityError Connection) (sql : String) :
    Action LoadError (List DataType) := do
  let connection ← relabel .connectivity source
  let columns ← relabel .connectivity (prepare remote connection sql)
  settled (describedTypes (request.dialect.typeRules.map request.version) columns)

/-- The types of the columns as the strategy finds them. -/
def columns (request : LoadRequest) (remote : Remote)
    (source : Action ConnectivityError Connection) (sql : String) :
    Action LoadError (Option (List DataType)) :=
  match request.strategy, request.planned with
  | .direct, _ => pure none
  | .planned, some (type :: types) => settled ((plannedTypes (type :: types)).map some)
  | _, _ => do
    let types ← request.describe remote source sql
    pure (some types)

/-- The load statement for a tree.  A connection is asked for only if the statement has to be
described. -/
def statement (request : LoadRequest) (remote : Remote)
    (source : Action ConnectivityError Connection) : Action LoadError LoadStatement := do
  let sql ← settled request.generate
  let name ← settled request.connectionName
  let information ← relabel .connectivity (resolve remote name)
  let columns ← request.columns remote source sql
  pure
    { columns := columns
      connection :=
        match request.style with
        | .named => .named name
        | .inline => .inline information
      sql := sql }

end LoadRequest

end Pushdown
