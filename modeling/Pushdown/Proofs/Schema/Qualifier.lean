/-
Module: Pushdown.Proofs.Schema.Qualifier
Purpose: Whether tables are looked for where the source was asked for them.
Main exports: Dialect.qualifiersIn?, Dialect.qualifiersFor, SchemaReader.readSchema_asks,
  Dialect.table_qualifiers_iff
-/
import Pushdown.Proofs.Dialect
import Pushdown.Proofs.Schema.Eligible
import Pushdown.Proofs.Schema.Reader
import Pushdown.Proofs.Sql.Legible

namespace Pushdown

/-!
The catalog and the schema of the properties go two ways.  The source is asked for the tables in
them, and a statement writes them before the names of tables.  What the statement names is read back
from its text, by the quoting rules of the dialect.  On the first way the names are left as they
are; on the second they are taken for names that were shown, and put into the case of the source.
-/

/-! ### The qualifiers of tables -/

/-- What is quoted in a style and has a full stop behind it. -/
def qualifiers (quotes : Text.QuoteStyle) : List Lexeme → List String
  | .quoted style payload :: .plain '.' :: rest =>
    if style = quotes then payload :: qualifiers quotes rest else qualifiers quotes rest
  | _ :: rest => qualifiers quotes rest
  | [] => []

theorem qualifiers_quoted (quotes : Text.QuoteStyle) (payload : String) (rest : List Lexeme) :
    qualifiers quotes (.quoted quotes payload :: .plain '.' :: rest) =
      payload :: qualifiers quotes rest :=
  if_pos rfl

namespace Dialect

/-- The qualifiers in a text, without the quotes of a dialect around them. -/
def qualifiersIn? (dialect : Dialect) (text : String) : Option (List String) :=
  (scan dialect.quoting text.toList).map (qualifiers dialect.identifierQuotes)

/-- What a dialect writes before the tables of a catalog and a schema. -/
def qualifiersFor (dialect : Dialect) (catalog schema : Option String) : List String :=
  (dialect.catalogQualifier ⟨catalog, schema, none⟩).toList ++
    (dialect.schemaQualifier ⟨catalog, schema, none⟩).toList

/-- Qualifiers are what they should be if names are preserved, or if the schema is in lower case;
the only dialect that does not preserve names writes no catalog. -/
theorem IsBuiltin.map_qualifiersFor_iff {dialect : Dialect} (builtin : dialect.IsBuiltin)
    (catalog schema : Option String) :
    (dialect.qualifiersFor catalog schema).map dialect.identifierCase.remoteForm =
        dialect.qualifiersFor catalog schema ↔
      dialect.identifierCase = .preserve ∨ ∀ written ∈ schema, Text.toLower written = written := by
  have preserved : ∀ {other : Dialect}, other.identifierCase = .preserve →
      ((other.qualifiersFor catalog schema).map other.identifierCase.remoteForm =
          other.qualifiersFor catalog schema ↔
        other.identifierCase = .preserve ∨
          ∀ written ∈ schema, Text.toLower written = written) := by
    intro other preserve
    rw [preserve]
    exact iff_of_true (List.map_id _) (.inl rfl)
  rcases builtin.cases with rfl | rfl | rfl | ⟨identifierCase, rfl⟩ | rfl
  · exact preserved rfl
  · exact preserved rfl
  · exact preserved rfl
  · cases identifierCase with
    | preserve => exact preserved rfl
    | upper =>
      have written : (postgresql .upper).qualifiersFor catalog schema = schema.toList := rfl
      rw [written]
      cases schema with
      | none => simp
      | some name => simp [postgresql, IdentifierCase.remoteForm]
  · exact preserved rfl

end Dialect

namespace Generator

variable (generator : Generator)

/-- The scan finds the names that a qualifier writes, in the case in which the dialect asks for
them. -/
theorem qualifiers_qualifier (name : Option String) (rest : Sql) :
    qualifiers generator.dialect.identifierQuotes (generator.qualifier name ++ rest).lexemes =
      name.toList.map generator.dialect.identifierCase.remoteForm ++
        qualifiers generator.dialect.identifierQuotes rest.lexemes := by
  cases name with
  | none => rfl
  | some name => exact qualifiers_quoted _ _ _

/-- The scan of a table finds the catalog and the schema that the dialect puts before its name. -/
theorem qualifiers_table (table : TableReference) :
    qualifiers generator.dialect.identifierQuotes (generator.table table).lexemes =
      (generator.dialect.qualifiersFor generator.context.catalog generator.context.schema).map
        generator.dialect.identifierCase.remoteForm := by
  unfold Generator.table
  rw [List.append_assoc, List.append_assoc, qualifiers_qualifier, qualifiers_qualifier,
    ← List.append_assoc, ← List.map_append]
  -- Behind the name of the table there is nothing, or a blank and the alias.
  cases table.effectiveAlias with
  | none => exact List.append_nil _
  | some tableAlias => exact List.append_nil _

/-- The qualifiers that are read in the text of a table.  The reader scans the quoted names, so it
finds what the source is asked for and not what the adapter keeps. -/
theorem qualifiersIn?_table (readable : generator.dialect.Readable) (table : TableReference) :
    generator.dialect.qualifiersIn? (generator.table table).toText =
      some ((generator.dialect.qualifiersFor generator.context.catalog
        generator.context.schema).map generator.dialect.identifierCase.remoteForm) := by
  have legible : generator.Reads (generator.table table) := written_legible readable (.table table)
  rw [Dialect.qualifiersIn?, Sql.toText, String.toList_ofList,
    scan_chars readable.distinct legible, Option.map_some, qualifiers_table]

variable {generator}

/-- A table is rendered in one way, at any level.  A rendering that answers can thus be replaced by
what is written. -/
theorem eq_of_render_table {table : TableReference} {level after : Nat} {sql : Sql}
    (rendered : generator.render (.table table) level = .ok sql after) :
    sql = generator.table table := by
  unfold render Rendering.nested at rendered
  split at rendered
  · cases rendered
  · cases rendered
    rfl

end Generator

/-! ### What the source is asked for -/

/-- The catalog and the schema whose tables a call asks for. -/
def Call.asked? : Call → Option (Option String × Option String)
  | .tables catalog schema _ _ => some (catalog, schema)
  | _ => none

namespace SchemaReader

open Session

variable (reader : SchemaReader) (remote : Remote) (connection : Connection)

/-- A reader asks for the tables of one catalog and schema, those of the properties, as soon as the
source has stated its conventions, and for the tables of no other. -/
theorem readSchema_asks {properties : Properties} {limit : Nat}
    (limited : properties.maxTableCount = .ok limit) (session : Session) :
    ∃ made outcome,
      reader.readSchema remote connection properties session =
        (session.withCalls made).ending outcome ∧
      made.filterMap Call.asked? =
        match remote.conventions session.calls connection with
        | .ok _ => [(properties.catalogName, properties.schemaName)]
        | .error _ => [] := by
  have limitFound : relabel SchemaError.configuration (settled properties.maxTableCount) session =
      session.ending (.ok limit) := by
    rw [limited]
    rfl
  have toldConventions : relabel SchemaError.connectivity
      (Session.conventions remote connection) session =
      (session.withCalls [.conventions]).ending
        ((remote.conventions session.calls connection).mapError .connectivity) :=
    relabel_of_ending (call_ending _ _ _) _
  rw [readSchema, bind_of_answer limitFound]
  cases stated : remote.conventions session.calls connection with
  | error error =>
    rw [stated] at toldConventions
    exact ⟨[.conventions], _, bind_of_error toldConventions _, rfl⟩
  | ok conventions =>
    rw [stated] at toldConventions
    rw [bind_of_answer toldConventions]
    -- Reading the tables one by one asks for columns only.
    have makes (sources : List RemoteTable) : Makes (fun call => call.asked? = none)
        (reader.readTables remote connection properties.tableFilter limit limit sources) :=
      reader.readTables_of_compositional makes_compositional
        (fun _ _ _ _ => makes_call (by rfl) _) _ limit limit sources
    obtain ⟨later, outcome, unasked, ended⟩ := call_bind_makes
      (.tables properties.catalogName properties.schemaName anyName Dialect.tableTypes) _
      SchemaError.connectivity
      (fun sources => (makes sources).bind fun shown =>
        makes_pure (Schema.mk shown conventions.toNotes))
      (session.withCalls [.conventions])
    refine ⟨openingCalls properties ++ later, outcome, ?_, ?_⟩
    · rw [withCalls_withCalls] at ended
      exact ended
    · rw [List.filterMap_append, List.filterMap_eq_nil_iff.2 unasked]
      rfl

end SchemaReader

/-! ### Both ways -/

/-- Once properties are accepted, the source is asked for the tables of their catalog and schema,
and a table in a statement has these as qualifiers, in the case that the dialect takes them to have
in the source.  They are the same exactly if names are preserved or the schema is in lower case. -/
theorem Dialect.table_qualifiers_iff {name : String} {properties : Properties} {dialect : Dialect}
    (created : Registry.builtin.create name properties = .ok dialect)
    (accepted : dialect.validate properties = .ok ()) {conventions : Option RemoteConventions}
    {limit level after : Nat} {table : TableReference} {sql : Sql}
    (rendered : (dialect.generator (.ofProperties properties conventions) limit).render
      (.table table) level = .ok sql after)
    (version : HostVersion) (remote : Remote) (connection : Connection) (session : Session) :
    ∃ made outcome,
      (SchemaReader.ofDialect dialect properties version).readSchema remote connection properties
        session = (session.withCalls made).ending outcome ∧
      ((∃ stated, remote.conventions session.calls connection = .ok stated) →
        made.filterMap Call.asked? ≠ []) ∧
      ∀ catalog schema, (catalog, schema) ∈ made.filterMap Call.asked? →
        catalog = properties.catalogName ∧ schema = properties.schemaName ∧
        dialect.qualifiersIn? sql.toText =
          some ((dialect.qualifiersFor catalog schema).map dialect.identifierCase.remoteForm) ∧
        (dialect.qualifiersIn? sql.toText = some (dialect.qualifiersFor catalog schema) ↔
          dialect.identifierCase = .preserve ∨
            ∀ written ∈ schema, Text.toLower written = written) := by
  have builtin : dialect.IsBuiltin := ⟨name, properties, created⟩
  obtain ⟨count, limited⟩ := ((dialect.validate_eq_ok_iff properties).1 accepted).tableCount
  obtain ⟨made, outcome, ended, asked⟩ :=
    (SchemaReader.ofDialect dialect properties version).readSchema_asks remote connection limited
      session
  refine ⟨made, outcome, ended, ?_, ?_⟩
  · rintro ⟨stated, answered⟩
    rw [asked, answered]
    exact List.cons_ne_nil _ _
  · intro catalog schema member
    -- There is one call that asks for tables, and it has the catalog and the schema of the
    -- properties.
    have same : (catalog, schema) = (properties.catalogName, properties.schemaName) := by
      rw [asked] at member
      split at member
      · exact List.mem_singleton.1 member
      · cases member
    cases same
    have read :=
      (dialect.generator (.ofProperties properties conventions) limit).qualifiersIn?_table
        builtin.readable table
    rw [Generator.eq_of_render_table rendered]
    refine ⟨rfl, rfl, read, ?_⟩
    rw [← builtin.map_qualifiersFor_iff properties.catalogName properties.schemaName]
    exact (Eq.congr_left read).trans Option.some_inj

/-- Properties that name a schema with a capital. -/
def capitalSchema : Properties :=
  .ofList [(Property.connectionName, "C"), (Property.schemaName, "Sales")]

theorem capitalSchema_created :
    Registry.builtin.create "POSTGRESQL" capitalSchema =
      .ok (Dialect.postgresqlFor capitalSchema) := rfl

theorem capitalSchema_accepted :
    (Dialect.postgresqlFor capitalSchema).validate capitalSchema = .ok () := rfl

theorem capitalSchema_limited :
    capitalSchema.maxTableCount = .ok Property.defaultMaxTableCount := rfl

/-- A schema that was named with a capital is asked for without it, as soon as the dialect puts
identifiers in lower case. -/
theorem Dialect.table_qualifiers_iff_capital :
    ∃ sql,
      ((postgresqlFor capitalSchema).generator (.ofProperties capitalSchema none) 1).render
        (.table ⟨"T", none⟩) 0 = .ok sql 0 ∧
      (postgresqlFor capitalSchema).qualifiersIn? sql.toText = some ["sales"] ∧
      ¬ (postgresqlFor capitalSchema).qualifiersIn? sql.toText =
        some ((postgresqlFor capitalSchema).qualifiersFor none (some "Sales")) := by
  refine ⟨_, rfl, ?_⟩
  obtain ⟨made, outcome, ended, asks, asked⟩ := table_qualifiers_iff capitalSchema_created
    capitalSchema_accepted
    (rfl : ((postgresqlFor capitalSchema).generator (.ofProperties capitalSchema none) 1).render
      (.table ⟨"T", none⟩) 0 = .ok _ 0)
    .unknown (SchemaReader.singleTable "t" ["id"]) default .fresh
  obtain ⟨⟨catalog, schema⟩, member⟩ := List.exists_mem_of_ne_nil _ (asks ⟨_, rfl⟩)
  obtain ⟨rfl, rfl, read, same⟩ := asked catalog schema member
  refine ⟨read, fun equal => ?_⟩
  rcases same.1 equal with preserve | lower
  · cases preserve
  · have changed := lower "Sales" rfl
    revert changed
    decide +kernel

/-- A schema with a capital is asked for as it is when its tables are read, and looked for in lower
case when they are queried. -/
theorem schema_with_capital_missed :
    ¬ ∀ name properties dialect, Registry.builtin.create name properties = .ok dialect →
      dialect.validate properties = .ok () →
      ∀ conventions limit level after table sql,
        (dialect.generator (.ofProperties properties conventions) limit).render (.table table)
          level = .ok sql after →
        ∀ version remote connection session made outcome,
          (SchemaReader.ofDialect dialect properties version).readSchema remote connection
            properties session = (session.withCalls made).ending outcome →
          ∀ catalog schema, (catalog, schema) ∈ made.filterMap Call.asked? →
            dialect.qualifiersIn? sql.toText = some (dialect.qualifiersFor catalog schema) := by
  intro agree
  have rendered : ((Dialect.postgresqlFor capitalSchema).generator
      (.ofProperties capitalSchema none) 1).render (.table ⟨"T", none⟩) 0 = .ok _ 0 := rfl
  let reader :=
    SchemaReader.ofDialect (Dialect.postgresqlFor capitalSchema) capitalSchema .unknown
  obtain ⟨made, outcome, ended, asked⟩ := reader.readSchema_asks
    (SchemaReader.singleTable "t" ["id"]) default capitalSchema_limited .fresh
  have member : (none, some "Sales") ∈ made.filterMap Call.asked? := by
    rw [asked]
    exact List.mem_singleton.2 rfl
  have agreed := agree _ _ _ capitalSchema_created capitalSchema_accepted none 1 0 0 _ _ rendered
    .unknown (SchemaReader.singleTable "t" ["id"]) default .fresh made outcome ended none
    (some "Sales") member
  have read := ((Dialect.postgresqlFor capitalSchema).generator
    (.ofProperties capitalSchema none) 1).qualifiersIn?_table
      (Dialect.IsBuiltin.readable ⟨_, _, capitalSchema_created⟩) ⟨"T", none⟩
  have names : ["sales"] = ["Sales"] := Option.some.inj (read.symm.trans agreed)
  revert names
  decide

end Pushdown
