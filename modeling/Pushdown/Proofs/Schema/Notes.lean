/-
Module: Pushdown.Proofs.Schema.Notes
Purpose: The conventions of a source reach the queries on a schema through the notes of the schema.
Main exports: RemoteConventions.ofNotes?_toNotes, RemoteConventions.stated?,
  SchemaReader.readSchema_notes, Adapter.notes_carry_conventions
-/
import Pushdown.Proofs.Adapter
import Pushdown.Proofs.Fault
import Pushdown.Proofs.Json.Record
import Pushdown.Proofs.Schema.Qualifier
import Pushdown.Proofs.Validation

namespace Pushdown

open Session

/-!
A source is asked for its conventions when a schema is read, and from then on they exist as the
notes of the schema only.  What a query finds in the notes is what the source stated, text by text
and flag by flag, so the query is made as if the source had been asked again.
-/

/-! ### Notes -/

namespace RemoteConventions

theorem nodup_fieldNames : fieldNames.Nodup := by decide

/-- Notes state the conventions that they were made of, whatever characters these have. -/
theorem ofNotes?_toNotes (conventions : RemoteConventions) :
    ofNotes? conventions.toNotes = some conventions := by
  obtain ⟨document, fields, readDocument, readFields, taken⟩ :=
    Json.read?_record nodup_fieldNames conventions.fieldValues
      [.text (Json.spelled conventions.catalogSeparator),
       .text (Json.spelled conventions.identifierQuote),
       .bool conventions.storesLowerCase, .bool conventions.storesUpperCase,
       .bool conventions.storesMixedCase, .bool conventions.supportsMixedCase,
       .bool conventions.storesLowerCaseQuoted, .bool conventions.storesUpperCaseQuoted,
       .bool conventions.storesMixedCaseQuoted, .bool conventions.supportsMixedCaseQuoted,
       .bool conventions.nullsAtEnd, .bool conventions.nullsAtStart,
       .bool conventions.nullsHigh, .bool conventions.nullsLow] rfl rfl
  rw [ofNotes?, toNotes, readDocument]
  dsimp only
  rw [readFields]
  dsimp only
  rw [taken]
  simp [ofFields?, readText?, readFlags?, readFlag?]

/-- The flags that state a null order, in the order in which they count. -/
def nullFlags (conventions : RemoteConventions) : List (Bool × NullOrder) :=
  [(conventions.nullsAtEnd, .atEnd), (conventions.nullsAtStart, .atStart),
   (conventions.nullsHigh, .high), (conventions.nullsLow, .low)]

/-- The null order that the first set flag states, if one is set. -/
def stated? (conventions : RemoteConventions) : Option NullOrder :=
  (conventions.nullFlags.find? Prod.fst).map Prod.snd

/-- A source that states no order of nulls counts as one that puts them at the end.  Of several that
it states, the first in the order of the settings counts. -/
theorem nullOrder_eq (conventions : RemoteConventions) :
    conventions.nullOrder = conventions.stated?.getD .atEnd := by
  unfold nullOrder stated? nullFlags
  cases conventions.nullsAtEnd <;> cases conventions.nullsAtStart <;>
    cases conventions.nullsHigh <;> cases conventions.nullsLow <;> rfl

end RemoteConventions

/-! ### Reading a schema -/

/-- The notes of a schema are made of the conventions that the source states when it is read, before
its tables are. -/
theorem SchemaReader.readSchema_notes {reader : SchemaReader} {remote : Remote}
    {connection : Connection} {properties : Properties} {before after : Session} {schema : Schema}
    (read : reader.readSchema remote connection properties before = .ok schema after) :
    ∃ conventions later, remote.conventions before.calls connection = .ok conventions ∧
      schema.notes = conventions.toNotes ∧
      after.calls = before.calls ++ .conventions :: later := by
  unfold readSchema at read
  obtain ⟨_, limit, limited, read⟩ := bind_eq_ok.1 read
  obtain ⟨-, rfl⟩ := settled_eq_ok.1 (relabel_eq_ok.1 limited)
  obtain ⟨_, conventions, stated, read⟩ := bind_eq_ok.1 read
  obtain ⟨answered, rfl⟩ := call_eq_ok.1 (relabel_eq_ok.1 stated)
  obtain ⟨_, sources, listed, read⟩ := bind_eq_ok.1 read
  obtain ⟨-, rfl⟩ := call_eq_ok.1 (relabel_eq_ok.1 listed)
  obtain ⟨_, shown, readTables, finished⟩ := bind_eq_ok.1 read
  have makes : Makes (fun _ => True)
      (reader.readTables remote connection properties.tableFilter limit limit sources) :=
    reader.readTables_of_compositional makes_compositional (fun _ _ _ _ => makes_call trivial _)
      _ limit limit sources
  obtain ⟨made, rfl⟩ := makes.withCalls_of_ok readTables
  obtain ⟨rfl, rfl⟩ := pure_eq_ok.1 finished
  refine ⟨conventions, .tables properties.catalogName properties.schemaName anyName
    Dialect.tableTypes :: made, answered, rfl, ?_⟩
  simp

/-- The schema that an answer contains. -/
def Answer.schema? : Answer → Option Schema
  | .schema read => some read
  | .altered _ read => some read
  | _ => none

namespace Adapter

variable {adapter : Adapter} {remote : Remote}

/-- The notes of a schema are the conventions that the source told while it was read, after any
earlier calls. -/
theorem readSchema_notes {properties : Properties} {before after : Session} {schema : Schema}
    (read : adapter.readSchema remote properties before = .ok schema after) :
    ∃ history connection conventions later,
      remote.conventions history connection = .ok conventions ∧
      before.calls <+: history ∧ after.calls = history ++ .conventions :: later ∧
      schema.notes = conventions.toNotes := by
  unfold readSchema at read
  obtain ⟨_, dialect, found, read⟩ := bind_eq_ok.1 read
  obtain ⟨-, rfl⟩ := settled_eq_ok.1 (relabel_eq_ok.1 found)
  obtain ⟨middle, connection, obtained, read⟩ := bind_eq_ok.1 read
  obtain ⟨conventions, later, stated, notes, calls⟩ :=
    SchemaReader.readSchema_notes (relabel_eq_ok.1 read)
  exact ⟨middle.calls, connection, conventions, later, stated,
    calls_of_obtain (relabel_eq_ok.1 obtained), calls, notes⟩

/-- Every schema in an answer has just been read.  No request answers with a schema that was kept
from before. -/
theorem read_of_answer {operation : Operation} {before after : Session} {answer : Answer}
    {schema : Schema} (answered : adapter.perform remote operation before = .ok answer after)
    (contained : answer.schema? = some schema) :
    ∃ properties,
      adapter.readSchema remote properties (operation.entered before) = .ok schema after := by
  rw [perform_eq_attend] at answered
  cases operation with
  | create properties | refresh properties =>
    obtain ⟨_, read, readSchema, finished⟩ := bind_eq_ok.1 answered
    obtain ⟨rfl, rfl⟩ := pure_eq_ok.1 finished
    cases contained
    exact ⟨properties, readSchema⟩
  | alter properties changes =>
    obtain ⟨_, read, readSchema, finished⟩ := bind_eq_ok.1 answered
    obtain ⟨rfl, rfl⟩ := pure_eq_ok.1 finished
    cases contained
    exact ⟨properties.merge changes, readSchema⟩
  | drop =>
    obtain ⟨rfl, -⟩ := pure_eq_ok.1 answered
    cases contained
  | capabilities properties =>
    obtain ⟨_, listed, -, finished⟩ := bind_eq_ok.1 answered
    obtain ⟨rfl, -⟩ := pure_eq_ok.1 finished
    cases contained
  | pushdown request =>
    obtain ⟨_, statement, -, finished⟩ := bind_eq_ok.1 answered
    obtain ⟨rfl, -⟩ := pure_eq_ok.1 finished
    cases contained

/-! ### Queries -/

section Queries

variable {request : PushdownRequest} {conventions : RemoteConventions}
  (noted : conventionsOf request.notes = .ok (some conventions))

include noted

/-- A query with notes is made with the conventions in them.  The source is not asked for its
conventions again. -/
theorem pushdown_of_notes {dialect : Dialect}
    (accepted : adapter.dialectFor request.properties = .ok dialect) :
    adapter.pushdown remote request =
      relabel (LoadError.toFault adapter.dialectName (some (connectionNameOf request.properties)))
        ((adapter.loadRequest dialect (some conventions) request).statement remote
          (obtain remote (connectionNameOf request.properties))) := by
  rw [pushdown, accepted, noted]
  rfl

/-- A query with notes that were written for a schema does not fail for its notes.  It can still
fail for everything else that a query fails for. -/
theorem failsWith_pushdown_of_notes :
    FailsWith (fun fault => fault ≠ unreadableNotes) (adapter.pushdown remote request) := by
  have internal : FailsWith (fun fault => fault.category ≠ .internal)
      (adapter.pushdown remote request) := by
    apply FailsWith.bind
    · apply failsWith_relabel
      intro error
      rw [error.category_toFault]
      exact nofun
    · intro dialect
      apply FailsWith.bind
      · exact failsWith_of_ok noted
      · intro conventions
        apply failsWith_relabel
        intro error
        exact error.category_toFault_ne_internal _ _
  refine internal.imp fun fault notInternal same => notInternal ?_
  rw [same]
  rfl

end Queries

/-- What a source states when a schema is read for a request is in the notes of the schema, and a
later query that brings these notes is made with exactly that: it never fails on the notes, and
where the source decides on the place of nulls, the first flag that it stated does, or the end of
the result if it stated none. -/
theorem notes_carry_conventions (adapter : Adapter) (remote : Remote) {operation : Operation}
    {before after : Session} {answer : Answer} {schema : Schema}
    (answered : adapter.perform remote operation before = .ok answer after)
    (contained : answer.schema? = some schema) :
    ∃ history connection conventions later,
      remote.conventions history connection = .ok conventions ∧
      before.calls <+: history ∧ after.calls = history ++ .conventions :: later ∧
      schema.notes = conventions.toNotes ∧
      RemoteConventions.ofNotes? schema.notes = some conventions ∧
      ∀ (next : Adapter) (source : Remote) (request : PushdownRequest),
        request.notes = some schema.notes →
        FailsWith (fun fault => fault ≠ unreadableNotes) (next.pushdown source request) ∧
        ∀ dialect, next.dialectFor request.properties = .ok dialect →
          next.pushdown source request =
            relabel
              (LoadError.toFault next.dialectName (some (connectionNameOf request.properties)))
              ((next.loadRequest dialect (some conventions) request).statement source
                (obtain source (connectionNameOf request.properties))) ∧
          ∀ generator,
            Generator.ofDialect dialect
              (next.loadRequest dialect (some conventions) request).context = .ok generator →
            dialect.nullPolicy = .reported →
            generator.nullOrder = conventions.stated?.getD .atEnd := by
  obtain ⟨properties, read⟩ := read_of_answer answered contained
  obtain ⟨history, connection, conventions, later, stated, earlier, calls, notes⟩ :=
    readSchema_notes read
  rw [operation.calls_entered] at earlier
  -- The notes were made of what the source stated when the schema was read.
  have readBack : RemoteConventions.ofNotes? schema.notes = some conventions := by
    rw [notes]
    exact conventions.ofNotes?_toNotes
  refine ⟨history, connection, conventions, later, stated, earlier, calls, notes, readBack, ?_⟩
  intro next source request brought
  have noted : conventionsOf request.notes = .ok (some conventions) := by
    rw [brought, conventionsOf, readBack]
  refine ⟨failsWith_pushdown_of_notes noted, fun dialect accepted =>
    ⟨pushdown_of_notes noted accepted, fun generator generated reported => ?_⟩⟩
  rw [Generator.ofDialect] at generated
  split at generated
  · cases generated
  · cases generated
    simp only [Dialect.nullOrder, reported]
    exact conventions.nullOrder_eq

/-- A source whose names are hard to write down, and which sorts nulls low. -/
def outlandish : Remote :=
  { placid with
    conventions := fun _ _ => .ok ⟨"\x01\"", "\\n", false, false, true, true, false, false, true,
      true, false, false, false, true⟩ }

/-- A query on a schema of that source. -/
def outlandishQuery (notes : String) : PushdownRequest :=
  ⟨.table ⟨"T", none⟩, none, leading "A", some notes, none⟩

/-- Conventions with quotes and line ends in their texts are carried through the notes as well, and
decide where nulls are put. -/
theorem notes_carry_conventions_outlandish :
    ∃ schema after,
      general.perform outlandish (.create (leading "A")) .fresh = .ok (.schema schema) after ∧
      FailsWith (fun fault => fault ≠ unreadableNotes)
        (general.pushdown outlandish (outlandishQuery schema.notes)) ∧
      ∃ conventions generator, RemoteConventions.ofNotes? schema.notes = some conventions ∧
        Generator.ofDialect .generic (.ofProperties (leading "A") (some conventions)) =
          .ok generator ∧
        generator.nullOrder = .low := by
  refine ⟨_, _, rfl, ?_⟩
  obtain ⟨history, connection, conventions, later, stated, -, -, -, readBack, carried⟩ :=
    notes_carry_conventions general outlandish
      (rfl : general.perform outlandish (.create (leading "A")) .fresh = _) rfl
  obtain ⟨fails, made⟩ := carried general outlandish (outlandishQuery _) rfl
  obtain ⟨-, orders⟩ := made .generic rfl
  refine ⟨fails, conventions, _, readBack, rfl, ?_⟩
  cases stated
  exact orders _ rfl rfl

end Adapter

end Pushdown
