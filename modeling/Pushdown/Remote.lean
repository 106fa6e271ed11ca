/-
Module: Pushdown.Remote
Purpose: Remote sources: what they report, how they fail, and the session of one adapter.
Main exports: TypeCode, TypeCode.ofCode, TypeCode.code, RemoteType, RemoteColumn, RemoteTable,
  ConnectivityError, ConnectivityError.message, ConnectivityError.toFault, NullOrder,
  NullOrder.lastByDefault, NullPolicy, RemoteConventions, RemoteConventions.nullOrder,
  RemoteConventions.toNotes, Call, Connection, Remote
-/
import Pushdown.Fault
import Pushdown.Json.Basic
import Pushdown.Json.Value

namespace Pushdown

/-! ## Type codes

The codes of the standard have names; every other code is kept as it is.  Code 1111 is the one by
which drivers report types of their own, told apart only by the name of the type.
-/

/-- A JDBC type code. -/
inductive TypeCode where
  | bit | tinyInt | smallInt | integer | bigInt | float | real | double | numeric | decimal
  | char | varChar | longVarChar | nChar | nVarChar | longNVarChar
  | date | time | timestamp | timeWithTimezone | timestampWithTimezone
  | boolean
  | other (code : Int)
deriving Repr, DecidableEq, Inhabited

namespace TypeCode

/-- The code of vendor specific types. -/
def vendorCode : Int := 1111

/-- The named codes with their numbers and names. -/
def table : List (TypeCode × Int × String) :=
  [(.bit, -7, "Bit"), (.tinyInt, -6, "TinyInt"), (.smallInt, 5, "SmallInt"),
   (.integer, 4, "Integer"), (.bigInt, -5, "BigInt"), (.float, 6, "Float"), (.real, 7, "Real"),
   (.double, 8, "Double"), (.numeric, 2, "Numeric"), (.decimal, 3, "Decimal"),
   (.char, 1, "Char"), (.varChar, 12, "VarChar"), (.longVarChar, -1, "LongVarChar"),
   (.nChar, -15, "NChar"), (.nVarChar, -9, "NVarChar"), (.longNVarChar, -16, "LongNVarChar"),
   (.date, 91, "Date"), (.time, 92, "Time"), (.timestamp, 93, "Timestamp"),
   (.timeWithTimezone, 2013, "TimeWithTimezone"),
   (.timestampWithTimezone, 2014, "TimestampWithTimezone"), (.boolean, 16, "Boolean")]

/-- The type code with a given number. -/
def ofCode (code : Int) : TypeCode :=
  match table.find? fun entry => entry.2.1 == code with
  | some (typeCode, _) => typeCode
  | none => .other code

/-- The number of a type code. -/
def code : TypeCode → Int
  | .other code => code
  | typeCode =>
    match table.find? fun entry => entry.1 == typeCode with
    | some (_, code, _) => code
    | none => 0

/-- Whether the code is the one of vendor specific types. -/
def isVendorSpecific (typeCode : TypeCode) : Bool := typeCode == .other vendorCode

/-- The name of a named code, or the number of another one. -/
def nameOrCode (typeCode : TypeCode) : Except Int String :=
  match typeCode with
  | .other code => .error code
  | typeCode =>
    match table.find? fun entry => entry.1 == typeCode with
    | some (_, _, name) => .ok name
    | none => .error typeCode.code

/-- The name of a named code; a record with the number of another one. -/
def toJson (typeCode : TypeCode) : Json :=
  match typeCode.nameOrCode with
  | .ok name => .text name
  | .error code => .object [("Other", .whole code)]

end TypeCode

/-! ## Columns and tables

These are inputs: answers of the remote source, taken as they come.
-/

/-- The type of a remote column or of a column of a query result. -/
structure RemoteType where
  typeCode : TypeCode
  /-- Precision of a number or size of a text. -/
  size : Nat
  scale : Int
  /-- The greatest number of bytes of a text value. -/
  octets : Nat
  typeName : String
deriving Repr, DecidableEq, Inhabited

/-- A column of a remote table. -/
structure RemoteColumn where
  name : String
  type : RemoteType
  nullable : Bool
  identity : Bool
  defaultValue : Option String
  comment : Option String
deriving Repr, DecidableEq, Inhabited

/-- A remote table. -/
structure RemoteTable where
  catalog : Option String
  schema : Option String
  name : String
  tableType : String
  comment : Option String
deriving Repr, DecidableEq, Inhabited

/-! ## Errors -/

/-- Why a connection object, a connection or a call on it failed. -/
inductive ConnectivityError where
  | unknownConnection (name : String)
  | accessDenied (name : String)
  | connectFailed (reason : String)
  | remote (operation reason : String)
deriving Repr, DecidableEq, Inhabited

namespace ConnectivityError

/-- The operation by which a statement is described. -/
def describeOperation : String := "describe"

/-- The text of an error. -/
def message : ConnectivityError → String
  | .unknownConnection name => "Connection '" ++ name ++ "' is not defined"
  | .accessDenied name => "Access to connection '" ++ name ++ "' was denied"
  | .connectFailed reason => "Could not connect to the remote source: " ++ reason
  | .remote operation reason => "Remote " ++ operation ++ " failed: " ++ reason

/-- The operation that failed. -/
def operation : ConnectivityError → String
  | .unknownConnection _ => "resolve"
  | .accessDenied _ => "resolve"
  | .connectFailed _ => "connect"
  | .remote operation _ => operation

/-- The code of an error. -/
def code : ConnectivityError → Fault.Code
  | .unknownConnection _ => .connectionNotFound
  | .accessDenied _ => .connectionNotFound
  | .connectFailed _ => .connectionFailed
  | .remote operation _ =>
    if operation = describeOperation then .describeFailed else .metadataReadFailed

/-- What to change. -/
def hint : ConnectivityError → String
  | .unknownConnection _ => "Create the connection object or fix CONNECTION_NAME"
  | .accessDenied _ => "Grant ACCESS on the connection to the adapter's owner"
  | .connectFailed _ =>
    "Check the connection address and that the remote source is reachable"
  | .remote operation _ =>
    if operation = describeOperation then
      "The remote source could not prepare the pushed-down statement"
    else "The remote source rejected the request; see the message for details"

/-- The fault that an error is answered with. -/
def toFault (connectionName : Option String) (error : ConnectivityError) : Fault :=
  ⟨error.code, error.message, some (.remote connectionName error.operation), some error.hint⟩

end ConnectivityError

/-! ## The order of nulls

Two of the four orders keep nulls at one end of the result whatever the direction; the other two
compare nulls as higher or lower than every value, so that they change ends with the direction.
-/

/-- The place of nulls among sorted rows. -/
inductive NullOrder where
  | atEnd
  | atStart
  | high
  | low
deriving Repr, DecidableEq, Inhabited

/-- Whether nulls come last in a direction when the query does not place them. -/
def NullOrder.lastByDefault (order : NullOrder) (ascending : Bool) : Bool :=
  match order with
  | .atEnd => true
  | .atStart => false
  | .high => ascending
  | .low => !ascending

/-- How the null order of a source is known: to its dialect, or from what the source reported. -/
inductive NullPolicy where
  | fixed (order : NullOrder)
  | reported
deriving Repr, DecidableEq, Inhabited

/-! ## Conventions

The conventions are asked for once, when a schema is read.  The host keeps them as a text, the
notes of the schema, and hands that text back with every query.  Notes may be incomplete: what
they do not mention counts as unstated, which is an empty text or a flag that is not set.
-/

/-- How a remote source treats identifiers, and where it sorts nulls. -/
structure RemoteConventions where
  catalogSeparator : String
  identifierQuote : String
  storesLowerCase : Bool
  storesUpperCase : Bool
  storesMixedCase : Bool
  supportsMixedCase : Bool
  storesLowerCaseQuoted : Bool
  storesUpperCaseQuoted : Bool
  storesMixedCaseQuoted : Bool
  supportsMixedCaseQuoted : Bool
  nullsAtEnd : Bool
  nullsAtStart : Bool
  nullsHigh : Bool
  nullsLow : Bool
deriving Repr, DecidableEq, Inhabited

namespace RemoteConventions

/-- Conventions of which nothing is stated. -/
def unstated : RemoteConventions :=
  ⟨"", "", false, false, false, false, false, false, false, false, false, false, false, false⟩

/-- The conventions of a source that keeps quoted names as they are, folds other names to upper
case and sorts nulls high. -/
def usual : RemoteConventions :=
  ⟨".", "\"", false, true, false, false, false, false, true, true, false, false, true, false⟩

/-- The null order that the first of the set flags states; without any, nulls come at the end. -/
def nullOrder (conventions : RemoteConventions) : NullOrder :=
  if conventions.nullsAtEnd then .atEnd
  else if conventions.nullsAtStart then .atStart
  else if conventions.nullsHigh then .high
  else if conventions.nullsLow then .low
  else .atEnd

/-- The names of the conventions in notes. -/
def fieldNames : List String :=
  ["catalogSeparator", "identifierQuoteString", "storesLowerCaseIdentifiers",
   "storesUpperCaseIdentifiers", "storesMixedCaseIdentifiers", "supportsMixedCaseIdentifiers",
   "storesLowerCaseQuotedIdentifiers", "storesUpperCaseQuotedIdentifiers",
   "storesMixedCaseQuotedIdentifiers", "supportsMixedCaseQuotedIdentifiers",
   "nullsSortedAtEnd", "nullsSortedAtStart", "nullsSortedHigh", "nullsSortedLow"]

/-- The conventions in the order of their names. -/
def fieldValues (conventions : RemoteConventions) : List Json :=
  [.text conventions.catalogSeparator, .text conventions.identifierQuote,
   .bool conventions.storesLowerCase, .bool conventions.storesUpperCase,
   .bool conventions.storesMixedCase, .bool conventions.supportsMixedCase,
   .bool conventions.storesLowerCaseQuoted, .bool conventions.storesUpperCaseQuoted,
   .bool conventions.storesMixedCaseQuoted, .bool conventions.supportsMixedCaseQuoted,
   .bool conventions.nullsAtEnd, .bool conventions.nullsAtStart,
   .bool conventions.nullsHigh, .bool conventions.nullsLow]

/-- The notes that keep the conventions. -/
def toNotes (conventions : RemoteConventions) : String :=
  (Json.object (fieldNames.zip conventions.fieldValues)).compact

/-- A text in notes; a missing one is empty. -/
def readText? : Option Json.Written → Option String
  | none => some ""
  | some (.text characters) => Json.textValue? characters
  | _ => none

/-- A flag in notes; a missing one is not set. -/
def readFlag? : Option Json.Written → Option Bool
  | none => some false
  | some (.bool value) => some value
  | _ => none

/-- Flags in notes. -/
def readFlags? : List (Option Json.Written) → Option (List Bool)
  | [] => some []
  | field :: rest =>
    match readFlag? field, readFlags? rest with
    | some flag, some flags => some (flag :: flags)
    | _, _ => none

/-- The conventions that the fields of notes state. -/
def ofFields? : List (Option Json.Written) → Option RemoteConventions
  | separator :: quote :: flags =>
    match readText? separator, readText? quote, readFlags? flags with
    | some separator, some quote,
        some [lower, upper, mixed, supportsMixed, lowerQuoted, upperQuoted, mixedQuoted,
          supportsMixedQuoted, atEnd, atStart, high, low] =>
      some ⟨separator, quote, lower, upper, mixed, supportsMixed, lowerQuoted, upperQuoted,
        mixedQuoted, supportsMixedQuoted, atEnd, atStart, high, low⟩
    | _, _, _ => none
  | _ => none

/-- The conventions that notes state. -/
def ofNotes? (notes : String) : Option RemoteConventions :=
  match Json.Written.read? notes with
  | none => none
  | some document =>
    match Json.Fields.ofWritten? document with
    | none => none
    | some fields =>
      match fields.take? fieldNames with
      | none => none
      | some values => ofFields? values

end RemoteConventions

/-! ## Sessions

What a remote source answers is up to the source and may change from one call to the next.  A
`Remote` therefore answers from the calls made so far, and a session records them, in order.  The
other thing that a session keeps is a connection: at most one, under the name it was asked for.
An action on a session answers or fails, and leaves a session behind either way.
-/

/-- Where a connection object leads. -/
structure ConnectionInformation where
  address : String
  user : String
  password : String
deriving Repr, DecidableEq, Inhabited

/-- A call to the world outside. -/
inductive Call where
  /-- Looks up a connection object. -/
  | resolve (name : String)
  /-- Opens a connection. -/
  | connect (address user : String)
  /-- Asks the embedding process for a connection. -/
  | provide
  /-- Describes the result of a statement without executing it. -/
  | prepare (sql : String)
  | conventions
  | tables (catalog schema : Option String) (pattern : String) (types : List String)
  | columns (catalog schema : Option String) (table pattern : String)
deriving Repr, DecidableEq

/-- An open connection: where it leads, and how many calls were made before it was opened. -/
structure Connection where
  information : ConnectionInformation
  opened : Nat
deriving Repr, DecidableEq, Inhabited

/-- What the world outside answers after a history of calls. -/
structure Remote where
  resolve : List Call → String → Except ConnectivityError ConnectionInformation
  connect : List Call → ConnectionInformation → Except ConnectivityError Unit
  provide : List Call → Except ConnectivityError Connection
  prepare : List Call → Connection → String → Except ConnectivityError (List RemoteType)
  conventions : List Call → Connection → Except ConnectivityError RemoteConventions
  tables : List Call → Connection → Option String → Option String → String → List String →
    Except ConnectivityError (List RemoteTable)
  columns : List Call → Connection → Option String → Option String → String → String →
    Except ConnectivityError (List RemoteColumn)

/-- A connection under the name of the connection object that led to it. -/
structure NamedConnection where
  name : String
  connection : Connection
deriving Repr, DecidableEq, Inhabited

/-- The calls made so far, in order, and the connection that is kept. -/
structure Session where
  calls : List Call
  kept : Option NamedConnection
deriving Repr, DecidableEq

/-- A session in which nothing happened. -/
def Session.fresh : Session := ⟨[], none⟩

/-- What is done in a session: it answers or fails, and leaves a session behind either way. -/
abbrev Action (ε : Type) := EStateM ε Session

namespace Session

/-- Makes a call, recorded whatever the answer. -/
def call {α : Type} (call : Call) (answer : List Call → Except ConnectivityError α) :
    Action ConnectivityError α := fun session =>
  match answer session.calls with
  | .ok value => .ok value { session with calls := session.calls ++ [call] }
  | .error error => .error error { session with calls := session.calls ++ [call] }

/-- An action with its errors put in other words. -/
def relabel {ε ε' α : Type} (change : ε → ε') (action : Action ε α) : Action ε' α :=
  fun session =>
    match action session with
    | .ok value after => .ok value after
    | .error error after => .error (change error) after

/-- An action that does nothing but answer or fail. -/
def settled {ε α : Type} : Except ε α → Action ε α
  | .ok value => pure value
  | .error error => throw error

/-- Looks up a connection object. -/
def resolve (remote : Remote) (name : String) :
    Action ConnectivityError ConnectionInformation :=
  call (.resolve name) fun history => remote.resolve history name

/-- Opens a connection. -/
def connect (remote : Remote) (information : ConnectionInformation) :
    Action ConnectivityError Connection :=
  call (.connect information.address information.user) fun history =>
    match remote.connect history information with
    | .ok () => .ok ⟨information, history.length⟩
    | .error error => .error error

/-- Asks the embedding process for a connection. -/
def provide (remote : Remote) : Action ConnectivityError Connection :=
  call .provide remote.provide

/-- Describes the result of a statement. -/
def prepare (remote : Remote) (connection : Connection) (sql : String) :
    Action ConnectivityError (List RemoteType) :=
  call (.prepare sql) fun history => remote.prepare history connection sql

/-- Asks for the conventions of the source. -/
def conventions (remote : Remote) (connection : Connection) :
    Action ConnectivityError RemoteConventions :=
  call .conventions fun history => remote.conventions history connection

/-- Asks for the tables of the source. -/
def tables (remote : Remote) (connection : Connection) (catalog schema : Option String)
    (pattern : String) (types : List String) : Action ConnectivityError (List RemoteTable) :=
  call (.tables catalog schema pattern types) fun history =>
    remote.tables history connection catalog schema pattern types

/-- Asks for the columns of a table. -/
def columns (remote : Remote) (connection : Connection) (catalog schema : Option String)
    (table pattern : String) : Action ConnectivityError (List RemoteColumn) :=
  call (.columns catalog schema table pattern) fun history =>
    remote.columns history connection catalog schema table pattern

/-- Keeps a connection under a name, in place of any other. -/
def keep (name : String) (connection : Connection) : Action ConnectivityError Unit :=
  fun session => .ok () { session with kept := some ⟨name, connection⟩ }

/-- The connection under a name: the one that is kept, if it has that name, or else a new one,
which is kept from then on. -/
def obtain (remote : Remote) (name : String) : Action ConnectivityError Connection := do
  let session ← get
  match session.kept.filter fun entry => entry.name == name with
  | some entry => pure entry.connection
  | none =>
    let information ← resolve remote name
    let connection ← connect remote information
    keep name connection
    pure connection

/-- Gives up the connection that is kept. -/
def clear {ε : Type} : Action ε Unit :=
  fun session => .ok () { session with kept := none }

/-- Whether a connection is kept. -/
def isConnected (session : Session) : Bool := session.kept.isSome

end Session

end Pushdown
