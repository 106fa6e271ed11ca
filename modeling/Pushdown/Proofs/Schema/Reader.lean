/-
Module: Pushdown.Proofs.Schema.Reader
Purpose: What a schema that was read stands for, and which names in it are asked for again.
Main exports: SchemaReader.Shows, SchemaReader.readTables_shows, SchemaReader.readSchema_shows,
  Dialect.AsksFor, Dialect.GoesBack, SchemaReader.shown_names_ask_iff
-/
import Mathlib.Data.List.Forall2
import Pushdown.Proofs.Remote.Session
import Pushdown.Proofs.Text.Case
import Pushdown.Proofs.Text.Quoted
import Pushdown.Registry
import Pushdown.Schema

namespace Pushdown

/-! ## Shown names

A reader takes tables and columns of the source as they come, leaves some of them out and adds
none.  So the tables of a schema stand for tables that the source reported, in order, and the
columns of each table for columns that the source reported for it.
-/

/-- What a partial function makes of a list stands for members of the list, in order. -/
theorem sublistForall₂_filterMap {α β : Type} (f : α → Option β) (list : List α) :
    List.SublistForall₂ (fun image source => f source = some image) (list.filterMap f) list := by
  induction list with
  | nil => exact .nil
  | cons source rest inductionHypothesis =>
    cases made : f source with
    | none =>
      rw [List.filterMap_cons_none made]
      exact .cons_right inductionHypothesis
    | some image =>
      rw [List.filterMap_cons_some made]
      exact .cons made inductionHypothesis

/-- A weaker relation between the members. -/
theorem sublistForall₂_imp {α β : Type} {R S : α → β → Prop} (weaker : ∀ a b, R a b → S a b)
    {left : List α} {right : List β} (related : List.SublistForall₂ R left right) :
    List.SublistForall₂ S left right := by
  induction related with
  | nil => exact .nil
  | cons same _ inductionHypothesis => exact .cons (weaker _ _ same) inductionHypothesis
  | cons_right _ inductionHypothesis => exact .cons_right inductionHypothesis

/-- Where nothing is left out, the members stand for one another in place.  A reader leaves out
tables and columns, so it is a count that tells which of the two relations holds. -/
theorem forall₂_of_sublistForall₂ {α β : Type} {R : α → β → Prop} {left : List α} {right : List β}
    (related : List.SublistForall₂ R left right) (same : left.length = right.length) :
    List.Forall₂ R left right := by
  obtain ⟨chosen, inPlace, sublist⟩ := List.sublistForall₂_iff.1 related
  rw [← sublist.eq_of_length (inPlace.length_eq.symm.trans same)]
  exact inPlace

namespace SchemaReader

variable {reader : SchemaReader} {remote : Remote} {connection : Connection}

/-- A column is shown under the form of its name in the host. -/
theorem name_of_column? {source : RemoteColumn} {shown : Column}
    (told : reader.column? source = some shown) :
    shown.name = reader.identifierCase.present source.name := by
  unfold column? at told
  dsimp only at told
  split at told
  · cases told
    rfl
  · cases told

/-- A table is shown under its name, with those of its columns that have a supported type. -/
theorem table?_eq_some {source : RemoteTable} {columns : List RemoteColumn} {shown : Table}
    (told : reader.table? source columns = some shown) :
    shown.name = reader.identifierCase.present source.name ∧
      shown.columns = columns.filterMap reader.column? := by
  unfold table? at told
  split at told
  next => cases told
  next column rest same =>
    cases told
    exact ⟨rfl, same.symm⟩

/-- Whether a table of a schema stands for a table that the source reported: its name was
accepted, and the source was asked for its columns. -/
structure Shows (reader : SchemaReader) (remote : Remote) (connection : Connection)
    (shown : Table) (source : RemoteTable) : Prop where
  accepted : reader.acceptsName source.name = .ok true
  answered : ∃ history columns,
    remote.columns history connection source.catalog source.schema source.name anyName =
      .ok columns ∧ reader.table? source columns = some shown

open Session

/-- The tables that are read stand for tables that were to be read, in order, and their columns for
columns of these tables. -/
theorem readTables_shows {filter : List String} {limit room : Nat} {sources : List RemoteTable}
    {before after : Session} {shown : List Table}
    (read : reader.readTables remote connection filter limit room sources before =
      .ok shown after) :
    List.SublistForall₂ (reader.Shows remote connection) shown sources := by
  induction sources generalizing room before after shown with
  | nil =>
    obtain ⟨rfl, _⟩ := pure_eq_ok.1 read
    exact .nil
  | cons source rest inductionHypothesis =>
    unfold readTables at read
    split at read
    · obtain ⟨middle, accepted, judged, read⟩ := bind_eq_ok.1 read
      obtain ⟨acceptance, rfl⟩ := settled_eq_ok.1 judged
      split at read
      next isAccepted =>
        subst isAccepted
        obtain ⟨later, columns, answered, read⟩ := bind_eq_ok.1 read
        obtain ⟨answered, -⟩ := call_eq_ok.1 (relabel_eq_ok.1 answered)
        cases told : reader.table? source columns with
        | none =>
          simp only [told] at read
          exact .cons_right (inductionHypothesis read)
        | some table =>
          cases room with
          | zero =>
            simp only [told] at read
            cases read
          | succ room =>
            simp only [told] at read
            obtain ⟨last, more, readMore, finished⟩ := bind_eq_ok.1 read
            obtain ⟨rfl, -⟩ := pure_eq_ok.1 finished
            exact .cons ⟨acceptance, _, columns, answered, told⟩ (inductionHypothesis readMore)
      next => exact .cons_right (inductionHypothesis read)
    · exact .cons_right (inductionHypothesis read)

/-- The tables of a schema stand for tables that the source reported, in order, and are shown in the
case of the dialect. -/
theorem readSchema_shows {properties : Properties} {before after : Session} {schema : Schema}
    (read : reader.readSchema remote connection properties before = .ok schema after) :
    ∃ history sources,
      remote.tables history connection properties.catalogName properties.schemaName anyName
        Dialect.tableTypes = .ok sources ∧
      List.SublistForall₂ (reader.Shows remote connection) schema.tables sources := by
  unfold readSchema at read
  obtain ⟨_, limit, -, read⟩ := bind_eq_ok.1 read
  obtain ⟨_, conventions, -, read⟩ := bind_eq_ok.1 read
  obtain ⟨_, sources, answered, read⟩ := bind_eq_ok.1 read
  obtain ⟨answered, -⟩ := call_eq_ok.1 (relabel_eq_ok.1 answered)
  obtain ⟨_, shown, readTables, finished⟩ := bind_eq_ok.1 read
  obtain ⟨rfl, -⟩ := pure_eq_ok.1 finished
  exact ⟨_, sources, answered, readTables_shows readTables⟩

end SchemaReader

/-! ## Names there and back

Names are shown in upper case and written into statements in lower case, unless they are to be
preserved.  A statement then asks for what the source has only under names that come back from
upper case.  Names of tables are looked at before they are shown, and have no capitals; over ASCII
that is all it takes.  Names of columns are shown whatever they are.
-/

namespace Dialect

/-- Whether a statement that names something asks the source for something under a given name. -/
def AsksFor (dialect : Dialect) (name remoteName : String) : Prop :=
  dialect.identifierQuotes.decode (Sql.toText [dialect.identifier name]) = some remoteName

/-- The quotes around a name make no difference to what is asked for. -/
theorem asksFor_iff (dialect : Dialect) (name remoteName : String) :
    dialect.AsksFor name remoteName ↔ dialect.identifierCase.remoteForm name = remoteName := by
  have text : Sql.toText [dialect.identifier name] =
      dialect.identifierQuotes.encode (dialect.identifierCase.remoteForm name) := by
    simp [Sql.toText, Sql.chars, Span.chars, identifier, Text.QuoteStyle.encode]
  rw [AsksFor, text, Text.QuoteStyle.decode_encode, Option.some.injEq]

end Dialect

/-- A name is asked for as it is shown if it is preserved, or comes back from upper case. -/
theorem IdentifierCase.remoteForm_present_iff (identifierCase : IdentifierCase) (name : String) :
    identifierCase.remoteForm (identifierCase.present name) = name ↔
      identifierCase = .preserve ∨ Text.Returns name := by
  cases identifierCase with
  | preserve => simp [remoteForm, present]
  | upper => simp [remoteForm, present, Text.toLower_toUpper_iff]

namespace Dialect

/-- Whether something is shown under a name of the source, and asked for under that name if the
name allows it. -/
structure ShowsName (dialect : Dialect) (shown remoteName : String) : Prop where
  presented : shown = dialect.identifierCase.present remoteName
  asked : dialect.AsksFor shown remoteName ↔
    dialect.identifierCase = .preserve ∨ Text.Returns remoteName

/-- A name is shown in the form that the dialect presents.  It is asked back by the name that this
form stands for, which need not be the same. -/
theorem showsName_present (dialect : Dialect) (remoteName : String) :
    dialect.ShowsName (dialect.identifierCase.present remoteName) remoteName where
  presented := rfl
  asked := by
    rw [asksFor_iff]
    exact dialect.identifierCase.remoteForm_present_iff remoteName

/-- Whether a table and its columns stand for what the source reported.  A table that is shown in
upper case has no capitals, and with an ASCII name it is asked for under that name. -/
structure GoesBack (dialect : Dialect) (remote : Remote) (connection : Connection) (table : Table)
    (source : RemoteTable) : Prop where
  name : dialect.ShowsName table.name source.name
  guarded : dialect.identifierCase = .upper → hasUppercase source.name = false
  ascii : Text.Ascii source.name → dialect.AsksFor table.name source.name
  columns : ∃ history reported,
    remote.columns history connection source.catalog source.schema source.name anyName =
      .ok reported ∧
    List.SublistForall₂ (fun column sourceColumn => dialect.ShowsName column.name sourceColumn.name)
      table.columns reported

end Dialect

namespace SchemaReader

/-- A table is shown in upper case only if it has no capitals.  The names that are refused are those
that would not come back, in ASCII at least. -/
theorem noCapitals_of_accepted {properties : Properties} {version : HostVersion} {name : String}
    (accepted : (ofDialect (.postgresql .upper) properties version).acceptsName name = .ok true) :
    hasUppercase name = false := by
  have guarded :
      (ofDialect (.postgresql .upper) properties version).upperCaseTables ≠ .accept := by
    simp only [ofDialect, Dialect.postgresql]
    split <;> simp
  unfold acceptsName at accepted
  split at accepted
  · split at accepted
    next policy => exact absurd policy guarded
    · cases accepted
    · cases accepted
  next noCapitals => simpa using noCapitals

/-- What is shown of a table leads back to it by the form in which its names are asked for. -/
theorem Shows.goesBack {identifierCase : IdentifierCase} {properties : Properties}
    {version : HostVersion} {remote : Remote} {connection : Connection} {table : Table}
    {source : RemoteTable}
    (shows : (ofDialect (.postgresql identifierCase) properties version).Shows remote connection
      table source) :
    (Dialect.postgresql identifierCase).GoesBack remote connection table source := by
  obtain ⟨accepted, history, reported, answered, told⟩ := shows
  obtain ⟨name, columns⟩ := table?_eq_some told
  have showsName : (Dialect.postgresql identifierCase).ShowsName table.name source.name := by
    rw [name]
    exact (Dialect.postgresql identifierCase).showsName_present source.name
  have guarded : identifierCase = .upper → hasUppercase source.name = false := by
    rintro rfl
    exact noCapitals_of_accepted accepted
  refine ⟨showsName, guarded, fun ascii => showsName.asked.2 ?_, history, reported, answered, ?_⟩
  · cases identifierCase with
    | preserve => exact .inl rfl
    | upper => exact .inr ((Text.returns_iff_of_ascii ascii).2 (guarded rfl))
  · rw [columns]
    refine sublistForall₂_imp (fun column sourceColumn shown => ?_)
      (sublistForall₂_filterMap _ reported)
    rw [name_of_column? shown]
    exact (Dialect.postgresql identifierCase).showsName_present sourceColumn.name

/-- Tables and columns of a schema that was read stand, in order, for tables and columns that the
source reported.  A statement asks for one of them under its own name exactly if names are
preserved or the name comes back from upper case; tables with ASCII names are always asked for. -/
theorem shown_names_ask_iff {identifierCase : IdentifierCase} {properties : Properties}
    {version : HostVersion} {remote : Remote} {connection : Connection} {before after : Session}
    {schema : Schema}
    (read : (ofDialect (.postgresql identifierCase) properties version).readSchema remote connection
      properties before = .ok schema after) :
    ∃ history sources,
      remote.tables history connection properties.catalogName properties.schemaName anyName
        Dialect.tableTypes = .ok sources ∧
      List.SublistForall₂ ((Dialect.postgresql identifierCase).GoesBack remote connection)
        schema.tables sources := by
  obtain ⟨history, sources, answered, shown⟩ := readSchema_shows read
  exact ⟨history, sources, answered, sublistForall₂_imp (fun _ _ shows => shows.goesBack) shown⟩

/-- A source with a single table of numbers, which answers questions about its schema alone. -/
def singleTable (name : String) (columns : List String) : Remote where
  resolve _ connection := .error (.unknownConnection connection)
  connect _ _ := .error (.connectFailed "")
  provide _ := .error (.connectFailed "")
  prepare _ _ _ := .error (.connectFailed "")
  conventions _ _ := .ok .usual
  tables _ _ _ _ _ _ := .ok [⟨none, none, name, "TABLE", none⟩]
  columns _ _ _ _ _ _ :=
    .ok (columns.map fun column => ⟨column, ⟨.integer, 0, 0, 0, ""⟩, true, false, none, none⟩)

/-- Of two columns that differ in case, both are shown alike, and only the one in lower case is
asked for. -/
theorem shown_names_ask_iff_capital :
    ∃ schema after,
      (ofDialect (.postgresql .upper) .empty .unknown).readSchema (singleTable "t" ["id", "Id"])
        default .empty .fresh = .ok schema after ∧
      (schema.tables.map fun table => (table.name, table.columns.map Column.name)) =
        [("T", ["ID", "ID"])] ∧
      (Dialect.postgresql .upper).AsksFor "T" "t" ∧
      (Dialect.postgresql .upper).AsksFor "ID" "id" ∧
      ¬ (Dialect.postgresql .upper).AsksFor "ID" "Id" := by
  refine ⟨_, _, rfl, rfl, ?_⟩
  obtain ⟨_, sources, answered, shown⟩ := shown_names_ask_iff
    (rfl : (ofDialect (.postgresql .upper) .empty .unknown).readSchema
      (singleTable "t" ["id", "Id"]) default .empty .fresh = .ok _ _)
  cases answered
  obtain ⟨table, -⟩ := List.forall₂_cons.1 (forall₂_of_sublistForall₂ shown rfl)
  obtain ⟨_, reported, answered, columns⟩ := table.columns
  cases answered
  obtain ⟨small, rest⟩ := List.forall₂_cons.1 (forall₂_of_sublistForall₂ columns rfl)
  obtain ⟨capital, -⟩ := List.forall₂_cons.1 rest
  refine ⟨table.ascii (by decide), small.asked.2 (.inr (by decide +kernel)), fun asks => ?_⟩
  have returns := (capital.asked.1 asks).resolve_left nofun
  exact absurd returns (by decide +kernel)

/-- A column with a capital in its name is asked for under another name, although a table with such
a name would have been refused. -/
theorem column_with_capital_lost :
    ¬ ∀ identifierCase properties version remote connection before schema after history sources,
      (ofDialect (.postgresql identifierCase) properties version).readSchema remote connection
        properties before = .ok schema after →
      remote.tables history connection properties.catalogName properties.schemaName anyName
        Dialect.tableTypes = .ok sources →
      List.SublistForall₂
        (fun table source =>
          (Dialect.postgresql identifierCase).AsksFor table.name source.name ∧
          ∃ columnHistory reported,
            remote.columns columnHistory connection source.catalog source.schema source.name
              anyName = .ok reported ∧
            List.SublistForall₂
              (fun column sourceColumn =>
                (Dialect.postgresql identifierCase).AsksFor column.name sourceColumn.name)
              table.columns reported)
        schema.tables sources := by
  intro asked
  have shown :=
    asked .upper .empty .unknown (singleTable "t" ["Id"]) default .fresh _ _ [] _ rfl rfl
  obtain ⟨⟨-, _, reported, answered, columns⟩, -⟩ :=
    List.forall₂_cons.1 (forall₂_of_sublistForall₂ shown rfl)
  cases answered
  obtain ⟨asks, -⟩ := List.forall₂_cons.1 (forall₂_of_sublistForall₂ columns rfl)
  rw [Dialect.asksFor_iff] at asks
  revert asks
  decide +kernel

end SchemaReader

end Pushdown
