/-
Module: Pushdown.Adapter
Purpose: Virtual schemas: the requests of the host and their answers.
Main exports: Adapter, Adapter.create, Operation, Answer, Adapter.perform
-/
import Pushdown.Dialect
import Pushdown.Fault
import Pushdown.Load
import Pushdown.Registry
import Pushdown.Schema

namespace Pushdown

/-!
An adapter serves one dialect.  Every request brings its properties; they are checked, and a
dialect is built from them, before anything else happens.  Between requests only the session is
kept, and of it only the open connection can show in later calls.
-/

/-- The adapter of a dialect. -/
structure Adapter where
  dialectName : String
  registry : Registry
  /-- The version of the host, as it states it. -/
  hostVersion : Option String

/-- A query that the host wants executed remotely. -/
structure PushdownRequest where
  node : Node
  /-- The types that the host planned with, in the order of the columns. -/
  planned : Option (List DataType)
  properties : Properties
  /-- The notes of the schema, as they were when it was read. -/
  notes : Option String
  hostVersion : Option String

/-- A request of the host. -/
inductive Operation where
  | create (properties : Properties)
  | refresh (properties : Properties)
  | alter (properties : Properties) (changes : PropertyChanges)
  | drop
  | capabilities (properties : Properties)
  | pushdown (request : PushdownRequest)

/-- The answer to a request. -/
inductive Answer where
  | schema (schema : Schema)
  | altered (properties : Properties) (schema : Schema)
  | dropped
  | capabilities (capabilities : Capabilities)
  | statement (statement : LoadStatement)

namespace Adapter

open Session

/-- The adapter of a registered dialect. -/
def create (registry : Registry) (dialectName : String) (hostVersion : Option String) :
    Except Fault Adapter :=
  match registry.describe? dialectName with
  | some descriptor => .ok ⟨descriptor.name, registry, hostVersion⟩
  | none => .error (registry.unknown dialectName).toFault

/-- The dialect that properties choose, if it accepts them. -/
def dialectFor (adapter : Adapter) (properties : Properties) :
    Except ConfigurationError Dialect := do
  let dialect ← adapter.registry.create adapter.dialectName properties
  dialect.validate properties
  pure dialect

/-- The name of the connection object; it is there once properties are accepted. -/
def connectionNameOf (properties : Properties) : String :=
  properties.connectionName.getD ""

/-- Reads the remote schema. -/
def readSchema (adapter : Adapter) (remote : Remote) (properties : Properties) :
    Action Fault Schema := do
  let dialect ← relabel ConfigurationError.toFault (settled (adapter.dialectFor properties))
  let name := connectionNameOf properties
  let connection ← relabel (ConnectivityError.toFault (some name)) (obtain remote name)
  relabel (SchemaError.toFault (some name))
    ((SchemaReader.ofDialect dialect properties (.ofText adapter.hostVersion)).readSchema
      remote connection properties)

/-- Changes the properties and reads the remote schema anew.  The open connection is given up
when the properties lead to another one. -/
def alter (adapter : Adapter) (remote : Remote) (properties : Properties)
    (changes : PropertyChanges) : Action Fault (Properties × Schema) := do
  let merged := properties.merge changes
  if merged.connectionName ≠ properties.connectionName then clear
  let schema ← adapter.readSchema remote merged
  pure (merged, schema)

/-- The capabilities of the dialect without the excluded ones. -/
def capabilities (adapter : Adapter) (properties : Properties) :
    Except ConfigurationError Capabilities := do
  let dialect ← adapter.dialectFor properties
  let excluded ← Capabilities.ofEntries properties.excludedCapabilities
  pure (dialect.capabilities.subtract excluded)

/-- The fault that notes are not what notes should be.  The words behind the colon stand for those
of the library that reads documents, which say what is wrong and where. -/
def unreadableNotes : Fault :=
  ⟨.serializationFailed, "Failed to read schema adapter notes: malformed document", none,
   some "Refresh the virtual schema to rebuild its adapter notes"⟩

/-- The conventions that the notes of a request state. -/
def conventionsOf (notes : Option String) : Except Fault (Option RemoteConventions) :=
  match notes with
  | none => .ok none
  | some text =>
    match RemoteConventions.ofNotes? text with
    | some conventions => .ok (some conventions)
    | none => .error unreadableNotes

/-- What the load statement for a request depends on. -/
def loadRequest (adapter : Adapter) (dialect : Dialect)
    (conventions : Option RemoteConventions) (request : PushdownRequest) : LoadRequest :=
  { dialect := dialect
    strategy := dialect.strategy
    style := dialect.connectionStyle
    context := .ofProperties request.properties conventions
    properties := request.properties
    version := .ofText (request.hostVersion.or adapter.hostVersion)
    planned := request.planned
    node := request.node }

/-- The load statement for a query. -/
def pushdown (adapter : Adapter) (remote : Remote) (request : PushdownRequest) :
    Action Fault LoadStatement := do
  let dialect ←
    relabel ConfigurationError.toFault (settled (adapter.dialectFor request.properties))
  let conventions ← settled (conventionsOf request.notes)
  let name := connectionNameOf request.properties
  relabel (LoadError.toFault adapter.dialectName (some name))
    ((adapter.loadRequest dialect conventions request).statement remote (obtain remote name))

/-- Answers a request. -/
def perform (adapter : Adapter) (remote : Remote) : Operation → Action Fault Answer
  | .create properties | .refresh properties => do
    let schema ← adapter.readSchema remote properties
    pure (.schema schema)
  | .alter properties changes => do
    let (merged, schema) ← adapter.alter remote properties changes
    pure (.altered merged schema)
  | .drop => do
    clear
    pure .dropped
  | .capabilities properties => do
    let capabilities ←
      relabel ConfigurationError.toFault (settled (adapter.capabilities properties))
    pure (.capabilities capabilities)
  | .pushdown request => do
    let statement ← adapter.pushdown remote request
    pure (.statement statement)

end Adapter

end Pushdown
