/-
Module: Pushdown.Proofs.EmptyValue
Purpose: A property with an empty text is the same as no property.
Main exports: Dialect.validate_given, Registry.create_given, Operation.given, Answer.given,
  Adapter.perform_given, Adapter.empty_value_unset
-/
import Pushdown.Proofs.Adapter
import Pushdown.Proofs.Properties
import Pushdown.Proofs.Registry

namespace Pushdown

open Session

/-!
Two runs of everything that reads properties are compared: one on given properties, the other on
what is left of them when the entries with empty texts are dropped.  All that is read are values and
the keys that have one, and in these the two do not differ.  Only the properties in the answer to a
change are told as they are stored, so the empty texts that the change leaves alone remain there.
-/

variable (properties : Properties)

/-! ### Checks and dialects -/

/-- Validation does not see properties with empty values: every check asks for values that are not
empty, the check of keys included. -/
theorem Dialect.validate_given (dialect : Dialect) :
    dialect.validate properties.given = dialect.validate properties := by
  simp only [validate, checkIdentifierCase, Configuration.checkCommon,
    Configuration.checkConnection, Configuration.checkStructure, Configuration.checkKeys,
    Configuration.checkLogLevel, Configuration.checkIgnoredErrors, Properties.connectionName,
    Properties.catalogName, Properties.schemaName, Properties.maxTableCount,
    Properties.importDataTypes, Properties.logLevel, Properties.ignoredErrors,
    Properties.excludedCapabilities, Properties.value?_given, Properties.keys_given,
    Properties.entries_given]
  rfl

/-- The creation of a dialect does not see properties with empty values.  A property is looked up by
a function that takes an empty value for none. -/
theorem Registry.create_given (name : String) :
    builtin.create name properties.given = builtin.create name properties :=
  create_builtin_congr (properties.value?_given _) name

theorem QueryContext.ofProperties_given (conventions : Option RemoteConventions) :
    ofProperties properties.given conventions = ofProperties properties conventions := by
  simp only [ofProperties, Properties.catalogName, Properties.schemaName, Properties.value?_given]

/-! ### Reading a schema and making a load statement -/

namespace SchemaReader

theorem ofDialect_given (dialect : Dialect) (version : HostVersion) :
    ofDialect dialect properties.given version = ofDialect dialect properties version := by
  simp only [ofDialect, Properties.isErrorIgnored, Properties.ignoredErrors,
    Properties.entries_given]
  rfl

/-- A schema is read alike without them, by the same calls. -/
theorem readSchema_given (reader : SchemaReader) (remote : Remote) (connection : Connection) :
    reader.readSchema remote connection properties.given =
      reader.readSchema remote connection properties := by
  simp only [readSchema, Properties.maxTableCount, Properties.catalogName, Properties.schemaName,
    Properties.tableFilter, Properties.value?_given, Properties.entries_given]

end SchemaReader

/-- Of the properties a load statement depends on the name of the connection only.  Its dialect and
its context have been made of them before. -/
theorem LoadRequest.statement_given (request : LoadRequest) (remote : Remote)
    (source : Action ConnectivityError Connection) :
    { request with properties := request.properties.given }.statement remote source =
      request.statement remote source := by
  have sameName : { request with properties := request.properties.given }.connectionName =
      request.connectionName := by
    simp only [connectionName, Properties.connectionName, Properties.value?_given]
  unfold statement
  rw [sameName]
  rfl

/-! ### Requests -/

/-- A request with the properties that have a text. -/
def Operation.given : Operation → Operation
  | .create properties => .create properties.given
  | .refresh properties => .refresh properties.given
  | .alter properties changes => .alter properties.given changes
  | .drop => .drop
  | .capabilities properties => .capabilities properties.given
  | .pushdown request => .pushdown { request with properties := request.properties.given }

/-- An answer with the properties that have a text. -/
def Answer.given : Answer → Answer
  | .altered properties shown => .altered properties.given shown
  | answer => answer

namespace Adapter

section Builtin

variable {adapter : Adapter} (builtin : adapter.registry = .builtin) (remote : Remote)

include builtin

theorem dialectFor_given : adapter.dialectFor properties.given = adapter.dialectFor properties := by
  simp only [dialectFor, builtin, Registry.create_given, Dialect.validate_given]

theorem capabilities_given :
    adapter.capabilities properties.given = adapter.capabilities properties := by
  simp only [capabilities, dialectFor_given properties builtin, Properties.excludedCapabilities,
    Properties.entries_given]

/-- The adapter reads the same schema without them, by the same calls. -/
theorem readSchema_given :
    adapter.readSchema remote properties.given = adapter.readSchema remote properties := by
  simp only [readSchema, dialectFor_given properties builtin, connectionNameOf,
    Properties.connectionName, Properties.value?_given, SchemaReader.ofDialect_given,
    SchemaReader.readSchema_given]

/-- The same load statement is made without properties that have empty values, by the same calls. -/
theorem pushdown_given (request : PushdownRequest) :
    adapter.pushdown remote { request with properties := request.properties.given } =
      adapter.pushdown remote request := by
  have sameName : connectionNameOf request.properties.given =
      connectionNameOf request.properties := by
    simp only [connectionNameOf, Properties.connectionName, Properties.value?_given]
  have sameLoad (dialect : Dialect) (conventions : Option RemoteConventions) :
      adapter.loadRequest dialect conventions
          { request with properties := request.properties.given } =
        { adapter.loadRequest dialect conventions request with
          properties := (adapter.loadRequest dialect conventions request).properties.given } := by
    simp only [loadRequest, QueryContext.ofProperties_given]
  simp only [pushdown, dialectFor_given request.properties builtin, sameName, sameLoad,
    LoadRequest.statement_given]

/-- After changes to properties the same schema is read by the same calls, whatever their empty
texts; the answer tells the changed properties as they are stored. -/
theorem perform_alter_given (changes : PropertyChanges) (session : Session) :
    ∃ (outcome : Except Fault Schema) (last : Session),
      adapter.perform remote (.alter properties changes) session =
        last.ending (outcome.map (.altered (properties.merge changes))) ∧
      adapter.perform remote (.alter properties.given changes) session =
        last.ending (outcome.map (.altered (properties.given.merge changes))) := by
  have sameValues := Properties.given_eq_iff.1 (properties.given_merge_given changes)
  have sameEntered : (Operation.alter properties.given changes).entered session =
      (Operation.alter properties changes).entered session := by
    simp only [Operation.entered, Operation.givesUp, Properties.connectionName, sameValues,
      Properties.value?_given]
    rfl
  have sameRead : adapter.readSchema remote (properties.given.merge changes) =
      adapter.readSchema remote (properties.merge changes) := by
    rw [← readSchema_given _ builtin, properties.given_merge_given, readSchema_given _ builtin]
  obtain ⟨outcome, last, ended⟩ :=
    exists_ending (adapter.readSchema remote (properties.merge changes))
      ((Operation.alter properties changes).entered session)
  refine ⟨outcome, last, ?_, ?_⟩
  · rw [perform_eq_attend]
    exact map_of_ending ended _
  · rw [perform_eq_attend, sameEntered]
    exact map_of_ending (sameRead ▸ ended) _

/-- Requests that differ in empty texts only end in the same session, with the same fault or with
answers that differ in empty texts only. -/
theorem perform_given (operation : Operation) (session : Session) :
    ∃ (outcome other : Except Fault Answer) (last : Session),
      adapter.perform remote operation session = last.ending outcome ∧
      adapter.perform remote operation.given session = last.ending other ∧
      other.map Answer.given = outcome.map Answer.given := by
  -- But for changes, the two runs are one and the same.
  have alike (same : adapter.perform remote operation.given = adapter.perform remote operation) :
      ∃ (outcome other : Except Fault Answer) (last : Session),
        adapter.perform remote operation session = last.ending outcome ∧
        adapter.perform remote operation.given session = last.ending other ∧
        other.map Answer.given = outcome.map Answer.given := by
    obtain ⟨outcome, last, ended⟩ := exists_ending (adapter.perform remote operation) session
    exact ⟨outcome, outcome, last, ended, same ▸ ended, rfl⟩
  cases operation with
  | create properties | refresh properties =>
    apply alike
    simp only [Operation.given, perform, readSchema_given properties builtin]
  | alter properties changes =>
    obtain ⟨outcome, last, ended, endedGiven⟩ :=
      perform_alter_given properties builtin remote changes session
    refine ⟨_, _, last, ended, endedGiven, ?_⟩
    cases outcome with
    | error fault => rfl
    | ok shown =>
      change Except.ok (Answer.altered (properties.given.merge changes).given shown) =
        .ok (.altered (properties.merge changes).given shown)
      rw [properties.given_merge_given]
  | drop => exact alike rfl
  | capabilities properties =>
    apply alike
    simp only [Operation.given, perform, capabilities_given properties builtin]
  | pushdown request =>
    apply alike
    simp only [Operation.given, perform, pushdown_given builtin remote request]

end Builtin

/-- An empty text is the same as no property for everything that reads properties: the checks and
the choice of a dialect, the context of a query, the reading of a schema, and every request to an
adapter, which makes the same calls and ends alike. -/
theorem empty_value_unset (name : String) (version : Option String) (remote : Remote) :
    (∀ dialect : Dialect, dialect.validate properties.given = dialect.validate properties) ∧
    Registry.builtin.create name properties.given = Registry.builtin.create name properties ∧
    (∀ conventions, QueryContext.ofProperties properties.given conventions =
      .ofProperties properties conventions) ∧
    (∀ (dialect : Dialect) (host : HostVersion),
      SchemaReader.ofDialect dialect properties.given host =
        .ofDialect dialect properties host) ∧
    (∀ (reader : SchemaReader) (connection : Connection),
      reader.readSchema remote connection properties.given =
        reader.readSchema remote connection properties) ∧
    ∀ (operation : Operation) (session : Session),
      ∃ (outcome other : Except Fault Answer) (last : Session),
        perform ⟨name, .builtin, version⟩ remote operation session = last.ending outcome ∧
        perform ⟨name, .builtin, version⟩ remote operation.given session = last.ending other ∧
        other.map Answer.given = outcome.map Answer.given := by
  refine ⟨?_, ?_, ?_, ?_, ?_, ?_⟩
  · exact Dialect.validate_given properties
  · exact Registry.create_given properties name
  · exact QueryContext.ofProperties_given properties
  · exact SchemaReader.ofDialect_given properties
  · intro reader connection
    exact SchemaReader.readSchema_given properties reader remote connection
  · intro operation session
    have builtin : (⟨name, .builtin, version⟩ : Adapter).registry = .builtin := rfl
    exact perform_given builtin remote operation session

end Adapter

end Pushdown
