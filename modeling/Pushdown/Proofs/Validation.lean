/-
Module: Pushdown.Proofs.Validation
Purpose: Requests with rejected properties do nothing, and accepted properties cause no more errors.
Main exports: Operation.worksOn, Adapter.attend_of_rejected, Adapter.failsWith_attend,
  Adapter.validation_decides
-/
import Pushdown.Proofs.Adapter
import Pushdown.Proofs.Dialect
import Pushdown.Proofs.Fault
import Pushdown.Proofs.Registry

namespace Pushdown

open Session

/-!
Later steps of a request read the same properties again: the limit on tables, the name of the
connection and the excluded capabilities.  Each of them could fail, and so could the search for the
dialect.  None does once validation has accepted the properties, because each of these readings is
one of its checks.  The errors that remain are those of the source and of the query, and none of
them becomes a fault of the configuration.
-/

/-! ### Reading a schema -/

namespace SchemaReader

variable (reader : SchemaReader) (remote : Remote) (connection : Connection)

/-- The name of a table is refused for its capitals only.  With this, the errors of reading a schema
are known without looking into the reader of tables. -/
theorem acceptsName_error {name : String} {error : SchemaError}
    (refused : reader.acceptsName name = .error error) : error = .upperCaseTable name := by
  unfold acceptsName at refused
  split at refused
  · split at refused
    · cases refused
    · cases refused
    · cases refused
      rfl
  · cases refused

/-- Reading tables fails over a name, over a limit or with the source, never over the
configuration. -/
theorem failsWith_readTables (filter : List String) (limit room : Nat)
    (sources : List RemoteTable) :
    FailsWith (fun error => ¬ error.IsConfiguration)
      (reader.readTables remote connection filter limit room sources) := by
  induction sources generalizing room with
  | nil => exact failsWith_pure []
  | cons source rest inductionHypothesis =>
    rw [readTables]
    split
    case isFalse => exact inductionHypothesis room
    -- What can go wrong with one table: its name, the source, or that it is one too many.
    apply FailsWith.bind
    · apply failsWith_settled
      intro error refused
      rw [reader.acceptsName_error refused]
      exact id
    · intro accepted
      split
      case isFalse => exact inductionHypothesis room
      apply FailsWith.bind
      · exact failsWith_relabel (fun _ => id) _
      · intro columns
        split
        · exact inductionHypothesis _
        · exact failsWith_throw id
        · exact (inductionHypothesis _).bind fun more => failsWith_pure _

/-- Reading a schema finds nothing wrong with the properties if the limit on tables can be read. -/
theorem failsWith_readSchema {properties : Properties} {limit : Nat}
    (limited : properties.maxTableCount = .ok limit) :
    FailsWith (fun error => ¬ error.IsConfiguration)
      (reader.readSchema remote connection properties) := by
  apply FailsWith.bind
  · apply FailsWith.relabel
    exact failsWith_of_ok limited
  · intro limit
    apply FailsWith.bind
    · exact failsWith_relabel (fun _ => id) _
    · intro conventions
      apply FailsWith.bind
      · exact failsWith_relabel (fun _ => id) _
      · intro sources
        exact (reader.failsWith_readTables remote connection _ limit limit sources).bind
          fun shown => failsWith_pure _

end SchemaReader

/-! ### Making a load statement -/

/-- A column of the result is refused for its type only. -/
theorem resultTypesFrom_error {position : Nat} {listed : List (DataType × String)}
    {error : LoadError} (failed : resultTypesFrom position listed = .error error) :
    ¬ error.IsConfiguration := by
  induction listed generalizing position with
  | nil => cases failed
  | cons first rest inductionHypothesis =>
    obtain ⟨type, words⟩ := first
    rw [resultTypesFrom] at failed
    split at failed
    · split at failed
      next => cases failed
      next later failedLater =>
        cases failed
        exact inductionHypothesis failedLater
    · cases failed
      exact id

namespace LoadRequest

variable (request : LoadRequest) (remote : Remote) (source : Action ConnectivityError Connection)

/-- A query is refused for what it contains, or because its dialect has contradictory aliases; its
properties have no part in that. -/
theorem generate_error {error : LoadError} (failed : request.generate = .error error) :
    ¬ error.IsConfiguration := by
  unfold generate at failed
  split at failed
  · cases failed
    exact id
  · split at failed
    · cases failed
      exact id
    · cases failed

/-- Describing a query fails with the source or with a type. -/
theorem failsWith_describe (sql : String) :
    FailsWith (fun error => ¬ error.IsConfiguration) (request.describe remote source sql) := by
  apply FailsWith.bind
  · exact failsWith_relabel (fun _ => id) _
  · intro connection
    apply FailsWith.bind
    · exact failsWith_relabel (fun _ => id) _
    · intro columns
      apply failsWith_settled
      intro error failed
      unfold describedTypes at failed
      split at failed
      · cases failed
        exact id
      · exact resultTypesFrom_error failed

/-- The columns of a result cause no error of the configuration, wherever they come from. -/
theorem failsWith_columns (sql : String) :
    FailsWith (fun error => ¬ error.IsConfiguration) (request.columns remote source sql) := by
  unfold columns
  split
  · exact failsWith_pure none
  next type types _ _ =>
    apply failsWith_settled
    intro error failed
    cases found : plannedTypes (type :: types) with
    | ok planned =>
      rw [found] at failed
      cases failed
    | error cause =>
      rw [found] at failed
      cases failed
      exact resultTypesFrom_error found
  · exact (request.failsWith_describe remote source sql).bind fun types => failsWith_pure _

/-- Making a load statement finds nothing wrong with the properties if they name a connection. -/
theorem failsWith_statement (named : request.properties.connectionName.isSome) :
    FailsWith (fun error => ¬ error.IsConfiguration) (request.statement remote source) := by
  apply FailsWith.bind
  · apply failsWith_settled
    intro error failed
    exact request.generate_error failed
  · intro sql
    apply FailsWith.bind
    · obtain ⟨name, named⟩ := Option.isSome_iff_exists.1 named
      have found : request.connectionName = .ok name := by rw [connectionName, named]
      exact failsWith_of_ok found
    · intro name
      apply FailsWith.bind
      · exact failsWith_relabel (fun _ => id) _
      · intro information
        exact (request.failsWith_columns remote source sql).bind fun types => failsWith_pure _

end LoadRequest

/-! ### Requests -/

/-- The properties that a request is about; those after the changes if there are any. -/
def Operation.worksOn : Operation → Option Properties
  | .create properties | .refresh properties | .capabilities properties => some properties
  | .alter properties changes => some (properties.merge changes)
  | .drop => none
  | .pushdown request => some request.properties

namespace Adapter

/-- The registry of an adapter has its dialect, whatever the properties.  An adapter is made for a
name that is registered. -/
theorem exists_dialect {descriptors : List Descriptor} {name : String} {version : Option String}
    {adapter : Adapter}
    (created : Adapter.create (.ofDescriptors descriptors) name version = .ok adapter)
    (properties : Properties) :
    ∃ dialect, adapter.registry.create adapter.dialectName properties = .ok dialect := by
  unfold Adapter.create at created
  split at created
  next descriptor described =>
    cases created
    have named := (Registry.wellKeyed_ofDescriptors descriptors).describe?_name described
    exact ⟨descriptor.build properties, Registry.create_of_described named properties⟩
  next => cases created

variable (adapter : Adapter) {properties : Properties} {dialect : Dialect}

/-- An adapter has its dialect validate the properties before anything else is done with them. -/
theorem dialectFor_eq
    (found : adapter.registry.create adapter.dialectName properties = .ok dialect) :
    adapter.dialectFor properties = (dialect.validate properties).map fun _ => dialect := by
  rw [dialectFor, found]
  change (dialect.validate properties >>= fun _ => pure dialect) = _
  cases dialect.validate properties <;> rfl

variable (remote : Remote) {operation : Operation}

/-- A request whose properties are rejected ends at once, with the fault of the first failed check,
and nothing was called. -/
theorem attend_of_rejected (works : operation.worksOn = some properties)
    {error : ConfigurationError} (rejected : adapter.dialectFor properties = .error error)
    (session : Session) :
    adapter.attend remote operation session = session.ending (.error error.toFault) := by
  -- Every request looks for its dialect before anything else, most of them by reading a schema.
  have unread : adapter.readSchema remote properties session =
      session.ending (.error error.toFault) := by
    rw [readSchema, rejected]
    rfl
  cases operation with
  | create properties | refresh properties =>
    cases works
    exact bind_of_error unread _
  | alter properties changes =>
    cases works
    exact bind_of_error unread _
  | drop => cases works
  | capabilities properties =>
    cases works
    have unlisted : adapter.capabilities properties = .error error := by
      rw [capabilities, rejected]
      rfl
    change (relabel ConfigurationError.toFault (settled (adapter.capabilities properties)) >>= _)
      session = _
    rw [unlisted]
    rfl
  | pushdown request =>
    cases works
    change (adapter.pushdown remote request >>= _) session = _
    rw [pushdown, rejected]
    rfl

section Accepted

variable (accepted : adapter.dialectFor properties = .ok dialect)

include accepted

/-- A dialect that is handed out has accepted the properties. -/
theorem accepts_of_dialectFor : dialect.Accepts properties := by
  rw [dialectFor, except_bind_eq_ok_iff] at accepted
  obtain ⟨found, -, accepted⟩ := accepted
  rw [except_check_eq_ok_iff] at accepted
  obtain ⟨validated, same⟩ := accepted
  cases same
  exact (dialect.validate_eq_ok_iff properties).1 validated

/-- Where the dialect has accepted the properties, asking for it again does not fail.  The check is
made in several places, but on the same properties. -/
theorem failsWith_accepted :
    FailsWith (fun fault : Fault => fault.category ≠ .config)
      (relabel ConfigurationError.toFault (settled (adapter.dialectFor properties))) := by
  apply FailsWith.relabel
  exact failsWith_of_ok accepted

/-- With accepted properties, reading a schema fails with the source or with the names of its
tables. -/
theorem failsWith_readSchema :
    FailsWith (fun fault => fault.category ≠ .config) (adapter.readSchema remote properties) := by
  obtain ⟨limit, limited⟩ := (adapter.accepts_of_dialectFor accepted).tableCount
  apply (adapter.failsWith_accepted accepted).bind
  intro dialect
  apply FailsWith.bind
  · apply failsWith_relabel
    intro error
    rw [error.category_toFault]
    exact nofun
  · intro connection
    apply FailsWith.relabel
    have fails := (SchemaReader.ofDialect dialect properties
      (.ofText adapter.hostVersion)).failsWith_readSchema remote connection limited
    exact fails.imp fun error unblamed =>
      mt (error.category_toFault_eq_config_iff _).1 unblamed

/-- With accepted properties, capabilities are always told: the list of exclusions was checked with
them. -/
theorem failsWith_capabilities :
    FailsWith (fun fault : Fault => fault.category ≠ .config)
      (relabel ConfigurationError.toFault (settled (adapter.capabilities properties))) := by
  obtain ⟨excluded, read⟩ := (adapter.accepts_of_dialectFor accepted).excluded
  have listed : adapter.capabilities properties = .ok (dialect.capabilities.subtract excluded) := by
    rw [capabilities, accepted]
    change (Capabilities.ofEntries properties.excludedCapabilities >>= _) = _
    rw [read]
    rfl
  apply FailsWith.relabel
  exact failsWith_of_ok listed

end Accepted

/-- Notes are refused in one way only, whatever is wrong with their text.  A fault of a query that
is not this one has another reason. -/
theorem conventionsOf_error {notes : Option String} {fault : Fault}
    (unreadable : conventionsOf notes = .error fault) : fault = unreadableNotes := by
  unfold conventionsOf at unreadable
  split at unreadable
  · cases unreadable
  · split at unreadable
    · cases unreadable
    · cases unreadable
      rfl

/-- With accepted properties, a query fails for what it contains, for unreadable notes or with the
source. -/
theorem failsWith_pushdown {request : PushdownRequest}
    (accepted : adapter.dialectFor request.properties = .ok dialect) :
    FailsWith (fun fault => fault.category ≠ .config) (adapter.pushdown remote request) := by
  have named := (adapter.accepts_of_dialectFor accepted).connection
  apply (adapter.failsWith_accepted accepted).bind
  intro dialect
  apply FailsWith.bind
  · apply failsWith_settled
    intro fault unreadable
    rw [conventionsOf_error unreadable]
    decide
  · intro conventions
    apply FailsWith.relabel
    have fails := (adapter.loadRequest dialect conventions request).failsWith_statement remote
      (obtain remote (connectionNameOf request.properties)) named
    exact fails.imp fun error unblamed =>
      mt (error.category_toFault_eq_config_iff _ _).1 unblamed

/-- A request whose properties are accepted finds nothing wrong with the configuration, in any of
its later steps and whatever the source answers. -/
theorem failsWith_attend (works : operation.worksOn = some properties)
    (accepted : adapter.dialectFor properties = .ok dialect) :
    FailsWith (fun fault => fault.category ≠ .config) (adapter.attend remote operation) := by
  cases operation with
  | create properties | refresh properties =>
    cases works
    exact (adapter.failsWith_readSchema remote accepted).bind fun schema => failsWith_pure _
  | alter properties changes =>
    cases works
    exact (adapter.failsWith_readSchema remote accepted).bind fun schema => failsWith_pure _
  | drop => exact failsWith_pure _
  | capabilities properties =>
    cases works
    exact (adapter.failsWith_capabilities accepted).bind fun capabilities => failsWith_pure _
  | pushdown request =>
    cases works
    exact (adapter.failsWith_pushdown remote accepted).bind fun statement => failsWith_pure _

/-- Validation decides on a request: with rejected properties it answers the error of the
validation and calls nothing, and with accepted ones no later step answers an error of the
configuration, whatever the source does. -/
theorem validation_decides {descriptors : List Descriptor} {name : String}
    {version : Option String} {adapter : Adapter}
    (created : Adapter.create (.ofDescriptors descriptors) name version = .ok adapter)
    {operation : Operation} {properties : Properties}
    (works : operation.worksOn = some properties) (remote : Remote) (session : Session) :
    ∃ dialect, adapter.registry.create adapter.dialectName properties = .ok dialect ∧
      (∀ error, dialect.validate properties = .error error →
        ∃ after, adapter.perform remote operation session = .error error.toFault after ∧
          after.calls = session.calls) ∧
      (dialect.validate properties = .ok () →
        ∀ fault after, adapter.perform remote operation session = .error fault after →
          fault.category ≠ .config ∧ ∀ error : ConfigurationError, fault ≠ error.toFault) := by
  obtain ⟨dialect, found⟩ := exists_dialect created properties
  have judged := adapter.dialectFor_eq found
  rw [perform_eq_attend]
  refine ⟨dialect, found, ?_, ?_⟩
  · intro error invalid
    rw [invalid] at judged
    exact ⟨operation.entered session, adapter.attend_of_rejected remote works judged _,
      operation.calls_entered⟩
  · intro valid fault after failed
    rw [valid] at judged
    have blameless := adapter.failsWith_attend remote works judged _ fault after failed
    refine ⟨blameless, fun error same => blameless ?_⟩
    rw [same]
    exact error.category_toFault

/-- An adapter of Oracle. -/
def oracleAdapter : Adapter := ⟨"ORACLE", .builtin, none⟩

/-- A change to a table limit that is no number is rejected without a call, while an adapter that is
created with a connection alone runs into no error of the configuration. -/
theorem validation_decides_oracle :
    (∃ after,
      oracleAdapter.perform placid
        (.alter (.ofList [(Property.connectionName, "C")])
          (.ofList [(Property.maxTableCount, some "many")])) .fresh =
        .error (ConfigurationError.invalidValue Property.maxTableCount "many"
          .positiveInteger).toFault after ∧
      after.calls = []) ∧
    ∀ remote fault after,
      oracleAdapter.perform remote (.create (.ofList [(Property.connectionName, "C")])) .fresh =
        .error fault after → fault.category ≠ .config := by
  have created : Adapter.create (.ofDescriptors Registry.builtinDescriptors) "oracle" none =
      .ok oracleAdapter := rfl
  constructor
  · obtain ⟨dialect, found, rejected, -⟩ := validation_decides created
      (rfl : (Operation.alter _ (.ofList [(Property.maxTableCount, some "many")])).worksOn = some _)
      placid .fresh
    obtain rfl : Dialect.oracle = dialect := Except.ok.inj found
    exact rejected _ rfl
  · intro remote fault after failed
    obtain ⟨dialect, found, -, accepted⟩ := validation_decides created
      (rfl : (Operation.create (.ofList [(Property.connectionName, "C")])).worksOn = some _)
      remote .fresh
    obtain rfl : Dialect.oracle = dialect := Except.ok.inj found
    exact (accepted rfl fault after failed).1

end Adapter

end Pushdown
