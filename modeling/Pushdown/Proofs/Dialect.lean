/-
Module: Pushdown.Proofs.Dialect
Purpose: What all dialects of the library have in common, and which properties they accept.
Main exports: Dialect.IsBuiltin, Dialect.IsBuiltin.cases, Dialect.Readable,
  Dialect.IsBuiltin.readable, Dialect.generator, Dialect.Accepts, Dialect.validate_eq_ok_iff
-/
import Pushdown.Dialect
import Pushdown.Proofs.Registry
import Pushdown.Proofs.Sql.Scan
import Pushdown.Sql.Generator

namespace Pushdown

/-! ## Dialects of the library -/

namespace Dialect

/-- Whether the registry of the library makes a dialect, under some name and properties. -/
def IsBuiltin (dialect : Dialect) : Prop :=
  ∃ name properties, Registry.builtin.create name properties = .ok dialect

/-- The dialects of the library, one by one.  A statement about all of them is proved by cases on
this list; only PostgreSQL depends on properties. -/
theorem IsBuiltin.cases {dialect : Dialect} (builtin : dialect.IsBuiltin) :
    dialect = generic ∨ dialect = mysql ∨ dialect = oracle ∨
      (∃ identifierCase, dialect = postgresql identifierCase) ∨ dialect = sqlserver := by
  obtain ⟨name, properties, created⟩ := builtin
  unfold Registry.create at created
  split at created
  case h_1 descriptor described =>
    cases created
    have member := Registry.mem_builtinDescriptors described
    simp only [Registry.builtinDescriptors, List.mem_cons, List.not_mem_nil, or_false] at member
    rcases member with rfl | rfl | rfl | rfl | rfl
    · exact .inl rfl
    · exact .inr (.inl rfl)
    · exact .inr (.inr (.inl rfl))
    · exact .inr (.inr (.inr (.inl ⟨_, rfl⟩)))
    · exact .inr (.inr (.inr (.inr rfl)))
  case h_2 => cases created

/-- The styles of quotes that a dialect uses. -/
def quoting (dialect : Dialect) : List Text.QuoteStyle :=
  [dialect.identifierQuotes, dialect.stringQuotes]

/-- Whether the quotes of a dialect can be told apart, and its own words have no marks. -/
structure Readable (dialect : Dialect) : Prop where
  distinct : Distinct dialect.quoting
  booleanToken : ∀ value, Text.Unmarked (dialect.booleanToken value)
  anyValueToken : Text.Unmarked dialect.anyValueToken
  scalar : ∀ function, ∀ name ∈ dialect.aliases.scalar function, Text.Unmarked name
  aggregate : ∀ function, ∀ name ∈ dialect.aliases.aggregate function, Text.Unmarked name
  between : ∀ function, ∀ operator ∈ dialect.aliases.between function, Text.Unmarked operator
  before : ∀ function, ∀ operator ∈ dialect.aliases.before function, Text.Unmarked operator

/-- The operators of arithmetic between operands have no marks. -/
theorem arithmetic_between_unmarked :
    ∀ function, ∀ operator ∈ Aliases.arithmetic.between function, Text.Unmarked operator := by
  intro function operator member
  simp only [Aliases.arithmetic] at member
  split at member <;> cases member <;> decide

theorem arithmetic_before_unmarked :
    ∀ function, ∀ operator ∈ Aliases.arithmetic.before function, Text.Unmarked operator := by
  intro function operator member
  simp only [Aliases.arithmetic] at member
  split at member <;> cases member
  decide

/-- The generic dialect can be read: its two quotes differ, and it has no words of its own. -/
theorem generic_readable : generic.Readable where
  distinct := by decide
  booleanToken := by decide
  anyValueToken := by decide
  scalar _ _ member := by cases member
  aggregate _ _ member := by cases member
  between := arithmetic_between_unmarked
  before := arithmetic_before_unmarked

/-- MySQL can be read with its backticks, although it has a second escape in strings.  A backslash
is doubled before the quotes are, so neither escape gets in the way of the other. -/
theorem mysql_readable : mysql.Readable where
  distinct := by decide
  booleanToken := by decide
  anyValueToken := by decide
  scalar function name member := by
    simp only [mysql, mysqlAliases] at member
    split at member <;> cases member <;> decide
  aggregate _ _ member := by cases member
  between := arithmetic_between_unmarked
  before := arithmetic_before_unmarked

/-- Oracle can be read: it has no aliases beyond the usual ones. -/
theorem oracle_readable : oracle.Readable where
  distinct := by decide
  booleanToken := by decide
  anyValueToken := by decide
  scalar _ _ member := by cases member
  aggregate _ _ member := by cases member
  between := arithmetic_between_unmarked
  before := arithmetic_before_unmarked

/-- PostgreSQL can be read, whatever becomes of its identifiers. -/
theorem postgresql_readable (identifierCase : IdentifierCase) :
    (postgresql identifierCase).Readable where
  distinct := by
    change Distinct [.doubleQuotes, .apostrophes]
    decide
  booleanToken value := by cases value <;> (simp only [Dialect.booleanToken, postgresql]; decide)
  anyValueToken := by
    change Text.Unmarked "true"
    decide
  scalar function name member := by
    simp only [postgresql, postgresqlAliases] at member
    split at member <;> cases member <;> decide
  aggregate _ _ member := by cases member
  between := arithmetic_between_unmarked
  before := arithmetic_before_unmarked

/-- SQL Server can be read with its brackets, which open and close with different characters. -/
theorem sqlserver_readable : sqlserver.Readable where
  distinct := by decide
  booleanToken := by decide
  anyValueToken := by decide
  scalar function name member := by
    simp only [sqlserver, sqlserverAliases] at member
    split at member <;> cases member <;> decide
  aggregate function name member := by
    simp only [sqlserver, sqlserverAliases] at member
    split at member <;> cases member <;> decide
  between := arithmetic_between_unmarked
  before := arithmetic_before_unmarked

/-- All dialects of the library can be read: their quotes differ, and none of their words has a mark
in it. -/
theorem IsBuiltin.readable {dialect : Dialect} (builtin : dialect.IsBuiltin) :
    dialect.Readable := by
  rcases builtin.cases with rfl | rfl | rfl | ⟨identifierCase, rfl⟩ | rfl
  · exact generic_readable
  · exact mysql_readable
  · exact oracle_readable
  · exact postgresql_readable identifierCase
  · exact sqlserver_readable

end Dialect

/-- The generator of a dialect in a context, under a limit on nesting. -/
def Dialect.generator (dialect : Dialect) (context : QueryContext) (limit : Nat) : Generator :=
  ⟨dialect, context, dialect.nullOrder context, limit⟩

/-- A generator is created for each dialect of the library: none of its aliases contradicts another.
So a statement of a built-in dialect fails for its tree alone. -/
theorem Generator.ofDialect_builtin {dialect : Dialect} (builtin : dialect.IsBuiltin)
    (context : QueryContext) :
    Generator.ofDialect dialect context =
      .ok (dialect.generator context Generator.defaultDepthLimit) := by
  rcases builtin.cases with rfl | rfl | rfl | ⟨identifierCase, rfl⟩ | rfl <;> rfl

/-! ## Accepted properties

Validation goes through its checks in order and answers with the first problem.  It accepts exactly
if no check has a problem, so the order does not matter for what is accepted; what later steps read
out of accepted properties follows from the single checks.
-/

/-- Two steps that may fail answer exactly if both do.  Chains of checks are taken apart with it,
one check at a time. -/
theorem except_bind_eq_ok_iff {ε α β : Type} {first : Except ε α} {next : α → Except ε β}
    {value : β} :
    (first >>= next) = .ok value ↔ ∃ answer, first = .ok answer ∧ next answer = .ok value := by
  cases first with
  | ok answer =>
    constructor
    · intro answered
      exact ⟨answer, rfl, answered⟩
    · rintro ⟨_, same, answered⟩
      cases same
      exact answered
  | error error =>
    constructor
    · intro answered
      cases answered
    · rintro ⟨_, same, _⟩
      cases same

/-- A check before something else. -/
theorem except_check_eq_ok_iff {ε β : Type} {check : Except ε Unit} {next : Unit → Except ε β}
    {value : β} : (check >>= next) = .ok value ↔ check = .ok () ∧ next () = .ok value := by
  rw [except_bind_eq_ok_iff]
  exact ⟨fun ⟨_, passed, answered⟩ => ⟨passed, answered⟩,
    fun ⟨passed, answered⟩ => ⟨(), passed, answered⟩⟩

/-! ### The single checks -/

namespace Configuration

variable (properties : Properties)

theorem checkConnection_eq_ok_iff :
    checkConnection properties = .ok () ↔ properties.connectionName.isSome := by
  unfold checkConnection
  cases properties.connectionName <;> simp

/-- A catalog or a schema may be named only where the dialect has such a thing.  The catalog is
looked at first, which decides on the error but not on success. -/
theorem checkStructure_eq_ok_iff (dialect : String) (catalogs schemas : Bool) :
    checkStructure properties dialect catalogs schemas = .ok () ↔
      (properties.catalogName.isSome → catalogs) ∧ (properties.schemaName.isSome → schemas) := by
  unfold checkStructure
  cases catalogs <;> cases schemas <;> cases properties.catalogName <;>
    cases properties.schemaName <;> simp

/-- A check that refuses the first text that is not listed succeeds exactly if all are. -/
theorem refuseUnlisted_eq_ok_iff {ε : Type} (refuse : String → ε) (listed texts : List String) :
    (match texts.find? fun text => !listed.contains text with
      | some text => .error (refuse text)
      | none => .ok () : Except ε Unit) = .ok () ↔ ∀ text ∈ texts, text ∈ listed := by
  have allListed : (texts.find? fun text => !listed.contains text) = none ↔
      ∀ text ∈ texts, text ∈ listed := by
    simp [List.find?_eq_none]
  rw [← allListed]
  cases texts.find? fun text => !listed.contains text <;> simp

/-- Every key has to be supported. -/
theorem checkKeys_eq_ok_iff (dialect : String) (supported : List String) :
    checkKeys properties dialect supported = .ok () ↔ ∀ key ∈ properties.keys, key ∈ supported :=
  refuseUnlisted_eq_ok_iff _ supported properties.keys

/-- A log level may be missing, but has to be a known one. -/
theorem checkLogLevel_eq_ok_iff :
    checkLogLevel properties = .ok () ↔
      ∀ text ∈ properties.logLevel, (LogLevel.ofText? text).isSome := by
  unfold checkLogLevel
  cases properties.logLevel with
  | none => simp
  | some text => cases read : LogLevel.ofText? text <;> simp [read]

/-- Only errors that are known can be ignored. -/
theorem checkIgnoredErrors_eq_ok_iff (known : List String) :
    checkIgnoredErrors properties known = .ok () ↔
      ∀ name ∈ properties.ignoredErrors, name ∈ known :=
  refuseUnlisted_eq_ok_iff _ known properties.ignoredErrors

/-- The checks that all dialects share, put together in their order.  In a conjunction the order is
lost, and with it the question of which error comes first. -/
theorem checkCommon_eq_ok_iff (dialect : String) (supported : List String)
    (catalogs schemas : Bool) :
    checkCommon properties dialect supported catalogs schemas = .ok () ↔
      properties.connectionName.isSome ∧
      ((properties.catalogName.isSome → catalogs) ∧ (properties.schemaName.isSome → schemas)) ∧
      (∀ key ∈ properties.keys, key ∈ supported) ∧
      (∃ limit, properties.maxTableCount = .ok limit) ∧
      (∃ way, properties.importDataTypes = .ok way) ∧
      ∀ text ∈ properties.logLevel, (LogLevel.ofText? text).isSome := by
  unfold checkCommon
  simp only [except_check_eq_ok_iff, checkConnection_eq_ok_iff, checkStructure_eq_ok_iff,
    checkKeys_eq_ok_iff]
  simp only [except_bind_eq_ok_iff, checkLogLevel_eq_ok_iff]
  constructor
  · rintro ⟨connection, structured, keys, limit, tableCount, way, importDataTypes, logLevel⟩
    exact ⟨connection, structured, keys, ⟨limit, tableCount⟩, ⟨way, importDataTypes⟩, logLevel⟩
  · rintro ⟨connection, structured, keys, ⟨limit, tableCount⟩, ⟨way, importDataTypes⟩, logLevel⟩
    exact ⟨connection, structured, keys, limit, tableCount, way, importDataTypes, logLevel⟩

end Configuration

namespace Dialect

variable (dialect : Dialect) (properties : Properties)

/-- A setting for the case of identifiers has to be one of the known ones, where the dialect has
such a setting. -/
theorem checkIdentifierCase_eq_ok_iff :
    dialect.checkIdentifierCase properties = .ok () ↔
      ∀ key ∈ dialect.identifierCaseKey, ∀ text ∈ properties.value? key,
        (IdentifierCase.ofSetting? text).isSome := by
  unfold checkIdentifierCase
  cases dialect.identifierCaseKey with
  | none => simp
  | some key =>
    cases given : properties.value? key with
    | none => simp [given]
    | some text => cases read : IdentifierCase.ofSetting? text <;> simp [given, read]

/-! ### Validation -/

/-- Whether properties are as a dialect wants them. -/
structure Accepts (dialect : Dialect) (properties : Properties) : Prop where
  connection : properties.connectionName.isSome
  catalog : properties.catalogName.isSome → dialect.hasCatalogs
  schema : properties.schemaName.isSome → dialect.hasSchemas
  keys : ∀ key ∈ properties.keys, key ∈ dialect.supportedProperties
  tableCount : ∃ limit, properties.maxTableCount = .ok limit
  importDataTypes : ∃ way, properties.importDataTypes = .ok way
  logLevel : ∀ text ∈ properties.logLevel, (LogLevel.ofText? text).isSome
  ignoredErrors : ∀ name ∈ properties.ignoredErrors, name ∈ dialect.ignorableErrors
  identifierCase : ∀ key ∈ dialect.identifierCaseKey, ∀ text ∈ properties.value? key,
    (IdentifierCase.ofSetting? text).isSome
  excluded : ∃ excluded, Capabilities.ofEntries properties.excludedCapabilities = .ok excluded

/-- Validation has no objection exactly to properties that are as the dialect wants them.  The
checks are made in a fixed order, but acceptance is the conjunction of all. -/
theorem validate_eq_ok_iff :
    dialect.validate properties = .ok () ↔ dialect.Accepts properties := by
  unfold validate
  simp only [except_check_eq_ok_iff, Configuration.checkCommon_eq_ok_iff,
    Configuration.checkIgnoredErrors_eq_ok_iff, checkIdentifierCase_eq_ok_iff]
  simp only [except_bind_eq_ok_iff]
  constructor
  · rintro ⟨⟨connection, ⟨catalog, schema⟩, keys, tableCount, importDataTypes, logLevel⟩,
      ignoredErrors, identifierCase, excluded, readExcluded, -⟩
    exact ⟨connection, catalog, schema, keys, tableCount, importDataTypes, logLevel,
      ignoredErrors, identifierCase, ⟨excluded, readExcluded⟩⟩
  · intro accepts
    obtain ⟨excluded, readExcluded⟩ := accepts.excluded
    exact ⟨⟨accepts.connection, ⟨accepts.catalog, accepts.schema⟩, accepts.keys,
      accepts.tableCount, accepts.importDataTypes, accepts.logLevel⟩, accepts.ignoredErrors,
      accepts.identifierCase, excluded, readExcluded, rfl⟩

end Dialect

end Pushdown
