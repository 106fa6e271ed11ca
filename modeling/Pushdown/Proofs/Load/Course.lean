/-
Module: Pushdown.Proofs.Load.Course
Purpose: Which calls the making of a load statement takes, in which order, and what it ends with.
Main exports: LoadRequest.Course, LoadRequest.Listing, LoadRequest.Description,
  LoadRequest.statement_course
-/
import Pushdown.Proofs.Load.Statement

namespace Pushdown

/-!
A load statement takes at most three steps outside: the name of the connection is looked up, a
connection is asked for, and the statement is described over it.  Each step is taken only if the
ones before it succeeded and the columns cannot be found without it.  `Course` says so for one
run after the other: the session that a run leaves behind tells which calls were made, and the
result says what came of them.

Where connections come from is a parameter.  A source of connections may make calls of its own, so
the session that it leaves behind is taken as it is.
-/

namespace LoadStatement

/-- Columns are numbered in order, each with the text of its type. -/
theorem columnsFrom_eq_mapIdx (number : Nat) (types : List DataType) :
    columnsFrom number types =
      types.mapIdx fun index type => "c" ++ Nat.repr (number + index) ++ " " ++ type.toText := by
  induction types generalizing number with
  | nil => rfl
  | cons type rest inductionHypothesis =>
    rw [columnsFrom, inductionHypothesis, List.mapIdx_cons]
    simp only [Nat.add_zero, Nat.add_assoc, Nat.add_comm 1]

/-- A statement with columns lists them between its first words. -/
theorem toText_of_listed (statement : LoadStatement) {types : List DataType}
    (listed : statement.columns = some types) :
    statement.toText =
      "IMPORT INTO (" ++ ", ".intercalate
          (types.mapIdx fun index type => "c" ++ Nat.repr (index + 1) ++ " " ++ type.toText) ++
        ") FROM JDBC " ++ statement.connection.toText ++ " STATEMENT " ++
        hostString statement.sql := by
  rw [toText, listed, columnsText, columnsFrom_eq_mapIdx]
  simp only [Nat.add_comm 1]
  apply String.toList_inj.1
  simp [String.toList_append]

/-- A statement without columns leaves their types to the host. -/
theorem toText_of_unlisted (statement : LoadStatement) (unlisted : statement.columns = none) :
    statement.toText =
      "IMPORT FROM JDBC " ++ statement.connection.toText ++ " STATEMENT " ++
        hostString statement.sql := by
  rw [toText, unlisted, columnsText]
  rfl

end LoadStatement

namespace LoadRequest

open Session

/-- The end of a run whose columns have types that are known: a statement that lists them all in
order, or an error for the first that is not supported, under its position. -/
structure Listing (connection : ConnectionClause) (sql : String)
    (types : List (DataType × String)) (after : Session)
    (result : EStateM.Result LoadError Session LoadStatement) : Prop where
  supported : (∀ entry ∈ types, entry.1.isSupported) →
    result = after.ending (.ok ⟨some (types.map Prod.fst), connection, sql⟩)
  unsupported : ∀ front entry back, types = front ++ entry :: back →
    (∀ earlier ∈ front, earlier.1.isSupported) → entry.1.isSupported = false →
    result = after.ending (.error (.unsupportedResultType (front.length + 1) entry.2))

/-- The end of a run in which the statement is described: a connection is asked for, once, and if
there is one, the statement is prepared on it, once. -/
structure Description (request : LoadRequest) (remote : Remote)
    (source : Action ConnectivityError Connection) (connection : ConnectionClause) (sql : String)
    (resolved : Session) (result : EStateM.Result LoadError Session LoadStatement) : Prop where
  unconnected : ∀ error after, source resolved = .error error after →
    result = after.ending (.error (.connectivity error))
  unprepared : ∀ opened asked error, source resolved = .ok opened asked →
    remote.prepare asked.calls opened sql = .error error →
    result = (asked.withCalls [.prepare sql]).ending (.error (.connectivity error))
  shapeless : ∀ opened asked, source resolved = .ok opened asked →
    remote.prepare asked.calls opened sql = .ok [] →
    result = (asked.withCalls [.prepare sql]).ending (.error .emptyResultShape)
  prepared : ∀ opened asked columns, source resolved = .ok opened asked →
    remote.prepare asked.calls opened sql = .ok columns → columns ≠ [] →
    Listing connection sql
      (columns.map fun column =>
        (request.dialect.typeRules.map request.version column, column.describe))
      (asked.withCalls [.prepare sql]) result

/-- How the making of a load statement goes: without SQL or without a name nothing is asked, and
otherwise the name is looked up first.  No call follows if that fails, if the columns are left to
the host, or if they are listed by the types that the host planned with; in all other cases the
statement is described. -/
structure Course (request : LoadRequest) (remote : Remote)
    (source : Action ConnectivityError Connection) (before : Session)
    (result : EStateM.Result LoadError Session LoadStatement) : Prop where
  ungenerated : ∀ error, request.generate = .error error → result = before.ending (.error error)
  unnamed : ∀ sql, request.generate = .ok sql → request.properties.connectionName = none →
    result = before.ending
      (.error (.configuration (.missingProperty Property.connectionName)))
  unresolved : ∀ sql name error, request.generate = .ok sql →
    request.properties.connectionName = some name →
    remote.resolve before.calls name = .error error →
    result = (before.withCalls [.resolve name]).ending (.error (.connectivity error))
  direct : ∀ sql name information, request.generate = .ok sql →
    request.properties.connectionName = some name →
    remote.resolve before.calls name = .ok information → request.strategy = .direct →
    result = (before.withCalls [.resolve name]).ending
      (.ok ⟨none, clause request.style name information, sql⟩)
  planned : ∀ sql name information types, request.generate = .ok sql →
    request.properties.connectionName = some name →
    remote.resolve before.calls name = .ok information → request.strategy = .planned →
    request.planned = some types → types ≠ [] →
    Listing (clause request.style name information) sql
      (types.map fun type => (type, type.toText)) (before.withCalls [.resolve name]) result
  described : ∀ sql name information, request.generate = .ok sql →
    request.properties.connectionName = some name →
    remote.resolve before.calls name = .ok information → request.strategy ≠ .direct →
    (request.strategy = .planned → request.planned = none ∨ request.planned = some []) →
    Description request remote source (clause request.style name information) sql
      (before.withCalls [.resolve name]) result
  /-- The columns are written with the names `c1`, `c2` and so on, and the string behind the last
  keyword is the SQL. -/
  written : ∀ statement after, result = .ok statement after →
    (∀ types, statement.columns = some types → statement.toText =
      "IMPORT INTO (" ++ ", ".intercalate
          (types.mapIdx fun index type => "c" ++ Nat.repr (index + 1) ++ " " ++ type.toText) ++
        ") FROM JDBC " ++ statement.connection.toText ++ " STATEMENT " ++
        hostString statement.sql) ∧
    (statement.columns = none → statement.toText =
      "IMPORT FROM JDBC " ++ statement.connection.toText ++ " STATEMENT " ++
        hostString statement.sql) ∧
    Text.QuoteStyle.apostrophes.decode (hostString statement.sql) = some statement.sql

/-! ### Types of columns -/

/-- If all types are supported, they are the types of the result. -/
theorem resultTypesFrom_of_supported {types : List (DataType × String)}
    (supported : ∀ entry ∈ types, entry.1.isSupported) (position : Nat) :
    resultTypesFrom position types = .ok (types.map Prod.fst) := by
  induction types generalizing position with
  | nil => rfl
  | cons entry rest inductionHypothesis =>
    obtain ⟨atEntry, atRest⟩ := List.forall_mem_cons.1 supported
    rw [resultTypesFrom, if_pos atEntry, inductionHypothesis atRest]
    rfl

/-- The first type that is not supported is refused under its position, whatever follows it. -/
theorem resultTypesFrom_of_unsupported {front back : List (DataType × String)}
    {entry : DataType × String} (supported : ∀ earlier ∈ front, earlier.1.isSupported)
    (unsupported : entry.1.isSupported = false) (position : Nat) :
    resultTypesFrom position (front ++ entry :: back) =
      .error (.unsupportedResultType (position + front.length) entry.2) := by
  induction front generalizing position with
  | nil => simp [resultTypesFrom, unsupported]
  | cons earlier front inductionHypothesis =>
    obtain ⟨atEarlier, atFront⟩ := List.forall_mem_cons.1 supported
    rw [List.cons_append, resultTypesFrom, if_pos atEarlier, inductionHypothesis atFront,
      List.length_cons, Nat.add_assoc, Nat.add_comm 1]

/-- A run that ends with the types of the columns, or with what is wrong with them.  Each column has
a type of the host or is the first that has none. -/
theorem Listing.of_resultTypes (connection : ConnectionClause) (sql : String)
    (types : List (DataType × String)) (after : Session) :
    Listing connection sql types after
      (after.ending (((resultTypesFrom 1 types).map some).map fun columns =>
        ⟨columns, connection, sql⟩)) where
  supported allSupported := by
    rw [resultTypesFrom_of_supported allSupported]
    rfl
  unsupported front entry back same earlier notSupported := by
    rw [same, resultTypesFrom_of_unsupported earlier notSupported, Nat.add_comm]
    rfl

/-! ### The steps of a run -/

section Run

variable {request : LoadRequest} {remote : Remote}
  {source : Action ConnectivityError Connection} {before : Session} {sql name : String}
  {information : ConnectionInformation}

/-- Nothing is asked of the source for a query that cannot be written.  The SQL is made before
anything else, so its error comes first. -/
theorem statement_of_ungenerated {error : LoadError} (failed : request.generate = .error error) :
    request.statement remote source before = before.ending (.error error) := by
  have generating : settled request.generate before = before.ending (.error error) := by
    rw [settled_ending, failed]
  exact bind_of_error generating _

/-- With SQL at hand, the name of the connection decides.  A name that is missing is noticed before
the source is asked for anything. -/
theorem statement_of_generated (generated : request.generate = .ok sql) :
    request.statement remote source before =
      (do
        let name ← settled request.connectionName
        let information ← relabel .connectivity (resolve remote name)
        let columns ← request.columns remote source sql
        pure ⟨columns, clause request.style name information, sql⟩ :
          Action LoadError LoadStatement) before := by
  have generating : settled request.generate before = before.ending (.ok sql) := by
    rw [settled_ending, generated]
  exact bind_of_answer generating _

/-- Nothing is asked of the source without the name of a connection. -/
theorem statement_of_unnamed (generated : request.generate = .ok sql)
    (unnamed : request.properties.connectionName = none) :
    request.statement remote source before =
      before.ending (.error (.configuration (.missingProperty Property.connectionName))) := by
  have naming : settled request.connectionName before =
      before.ending (.error (.configuration (.missingProperty Property.connectionName))) := by
    rw [settled_ending, connectionName, unnamed]
  rw [statement_of_generated generated]
  exact bind_of_error naming _

/-- With a name at hand, the name is looked up.  This is the first call that a load statement
makes. -/
theorem statement_of_named (generated : request.generate = .ok sql)
    (named : request.properties.connectionName = some name) :
    request.statement remote source before =
      (do
        let information ← relabel .connectivity (resolve remote name)
        let columns ← request.columns remote source sql
        pure ⟨columns, clause request.style name information, sql⟩ :
          Action LoadError LoadStatement) before := by
  have naming : settled request.connectionName before = before.ending (.ok name) := by
    rw [settled_ending, connectionName, named]
  rw [statement_of_generated generated]
  exact bind_of_answer naming _

/-- If the name leads nowhere, the run ends there. -/
theorem statement_of_unresolved {error : ConnectivityError} (generated : request.generate = .ok sql)
    (named : request.properties.connectionName = some name)
    (failed : remote.resolve before.calls name = .error error) :
    request.statement remote source before =
      (before.withCalls [.resolve name]).ending (.error (.connectivity error)) := by
  rw [statement_of_named generated named]
  exact bind_of_error (relabel_call_of_error failed _) _

/-- Behind the look-up, the columns decide.  They are planned, described by the source, or left to
the host. -/
theorem statement_of_resolved (generated : request.generate = .ok sql)
    (named : request.properties.connectionName = some name)
    (resolved : remote.resolve before.calls name = .ok information)
    {outcome : Except LoadError (Option (List DataType))} {after : Session}
    (ended : request.columns remote source sql (before.withCalls [.resolve name]) =
      after.ending outcome) :
    request.statement remote source before =
      after.ending (outcome.map fun columns =>
        ⟨columns, clause request.style name information, sql⟩) := by
  rw [statement_of_named generated named]
  exact (bind_of_answer (relabel_call_of_answer resolved _) _).trans (map_of_ending ended _)

theorem columns_of_direct (direct : request.strategy = .direct) (resolved : Session) :
    request.columns remote source sql resolved = resolved.ending (.ok none) := by
  rw [columns, direct]
  rfl

/-- Planned types are used without asking for a connection, as long as there are any.  An empty plan
is taken for none. -/
theorem columns_of_planned {types : List DataType} (planned : request.strategy = .planned)
    (given : request.planned = some types) (listed : types ≠ []) (resolved : Session) :
    request.columns remote source sql resolved =
      resolved.ending ((plannedTypes types).map some) := by
  obtain ⟨first, rest, rfl⟩ := List.exists_cons_of_ne_nil listed
  rw [columns, planned, given]
  exact settled_ending _ _

/-- In all other cases the types are those by which the statement is described. -/
theorem columns_of_described (notDirect : request.strategy ≠ .direct)
    (unplanned : request.strategy = .planned →
      request.planned = none ∨ request.planned = some [])
    {outcome : Except LoadError (List DataType)} {resolved after : Session}
    (ended : request.describe remote source sql resolved = after.ending outcome) :
    request.columns remote source sql resolved = after.ending (outcome.map some) := by
  have asDescribed : request.columns remote source sql =
      (request.describe remote source sql >>= fun types => pure (some types)) := by
    unfold columns
    cases strategy : request.strategy with
    | direct => exact absurd strategy notDirect
    | described => rfl
    | planned =>
      rcases unplanned strategy with none | nil
      · rw [none]
      · rw [nil]
  rw [asDescribed]
  exact map_of_ending ended some

end Run

section Describe

variable {request : LoadRequest} {remote : Remote}
  {source : Action ConnectivityError Connection} {sql : String} {resolved asked : Session}
  {opened : Connection}

/-- If there is no connection, nothing is prepared. -/
theorem describe_of_unconnected {error : ConnectivityError} {after : Session}
    (failed : source resolved = .error error after) :
    request.describe remote source sql resolved =
      after.ending (.error (.connectivity error)) := by
  have ended : source resolved = after.ending (.error error) := failed
  exact bind_of_error (relabel_of_ending ended _) _

/-- Where there is a connection, the statement is prepared over it, and the types are mapped. -/
theorem describe_of_connected (connected : source resolved = .ok opened asked) :
    request.describe remote source sql resolved =
      (do
        let columns ← relabel .connectivity (prepare remote opened sql)
        settled (describedTypes (request.dialect.typeRules.map request.version) columns) :
          Action LoadError (List DataType)) asked := by
  have ended : source resolved = asked.ending (.ok opened) := connected
  exact bind_of_answer (relabel_of_ending ended _) _

/-- A failure to prepare the statement is passed on, and nothing else is tried.  The connection has
been opened by then and stays with the session. -/
theorem describe_of_unprepared {error : ConnectivityError}
    (connected : source resolved = .ok opened asked)
    (failed : remote.prepare asked.calls opened sql = .error error) :
    request.describe remote source sql resolved =
      (asked.withCalls [.prepare sql]).ending (.error (.connectivity error)) := by
  rw [describe_of_connected connected]
  exact bind_of_error (relabel_call_of_error failed _) _

/-- What the source describes decides the types of the result. -/
theorem describe_of_prepared {columns : List RemoteType}
    (connected : source resolved = .ok opened asked)
    (prepared : remote.prepare asked.calls opened sql = .ok columns) :
    request.describe remote source sql resolved =
      (asked.withCalls [.prepare sql]).ending
        (describedTypes (request.dialect.typeRules.map request.version) columns) := by
  rw [describe_of_connected connected]
  exact (bind_of_answer (relabel_call_of_answer prepared _) _).trans (settled_ending _ _)

end Describe

/-! ### Whole runs -/

/-- A run in which the statement is described ends as the description does.  Connecting and
preparing are its only two calls, and each of them can end it. -/
theorem description_of_resolved {request : LoadRequest} {remote : Remote}
    {source : Action ConnectivityError Connection} {before : Session} {sql name : String}
    {information : ConnectionInformation} (generated : request.generate = .ok sql)
    (named : request.properties.connectionName = some name)
    (found : remote.resolve before.calls name = .ok information)
    (notDirect : request.strategy ≠ .direct)
    (unplanned : request.strategy = .planned →
      request.planned = none ∨ request.planned = some []) :
    Description request remote source (clause request.style name information) sql
      (before.withCalls [.resolve name]) (request.statement remote source before) where
  unconnected error after failed :=
    statement_of_resolved generated named found
      (columns_of_described notDirect unplanned (describe_of_unconnected failed))
  unprepared opened asked error connected failed :=
    statement_of_resolved generated named found
      (columns_of_described notDirect unplanned (describe_of_unprepared connected failed))
  shapeless opened asked connected prepared :=
    statement_of_resolved generated named found
      (columns_of_described notDirect unplanned (describe_of_prepared connected prepared))
  prepared opened asked columns connected prepared notEmpty := by
    rw [statement_of_resolved generated named found
      (columns_of_described notDirect unplanned (describe_of_prepared connected prepared)),
      describedTypes, if_neg (by simpa using notEmpty)]
    exact .of_resultTypes _ sql _ _

/-- The making of a load statement goes its course, whatever it is made for and whatever is answered
from outside: which calls are made, in which order, and how the run ends is read off the answers. -/
theorem statement_course (request : LoadRequest) (remote : Remote)
    (source : Action ConnectivityError Connection) (before : Session) :
    request.Course remote source before (request.statement remote source before) where
  ungenerated _ failed := statement_of_ungenerated failed
  unnamed _ generated unnamed := statement_of_unnamed generated unnamed
  unresolved _ _ _ generated named failed := statement_of_unresolved generated named failed
  direct _ _ _ generated named found direct :=
    statement_of_resolved generated named found (columns_of_direct direct _)
  planned sql _ _ _ generated named found planned given listed := by
    rw [statement_of_resolved generated named found (columns_of_planned planned given listed _)]
    exact .of_resultTypes _ sql _ _
  described _ _ _ generated named found notDirect unplanned :=
    description_of_resolved generated named found notDirect unplanned
  written statement _ _ :=
    ⟨fun _ => statement.toText_of_listed, statement.toText_of_unlisted,
      Text.QuoteStyle.apostrophes.decode_encode statement.sql⟩

/-- A source that describes every statement by three columns, the last two of which have types that
are not known. -/
def describing : Remote where
  resolve _ _ := .ok ⟨"jdbc:remote", "user", "password"⟩
  connect _ _ := .error (.connectFailed "")
  provide _ := .ok default
  prepare _ _ _ :=
    .ok [⟨.integer, 0, 0, 0, ""⟩, ⟨.other 70, 0, 0, 0, ""⟩, ⟨.other 71, 0, 0, 0, "cube"⟩]
  conventions _ _ := .error (.connectFailed "")
  tables _ _ _ _ _ _ := .error (.connectFailed "")
  columns _ _ _ _ _ _ := .error (.connectFailed "")

/-- A request to list the columns by a plan that is there but empty. -/
def emptyPlan : LoadRequest where
  dialect := .generic
  strategy := .planned
  style := .named
  context := {}
  properties := .ofList [(Property.connectionName, "C")]
  version := .unknown
  planned := some []
  node := .column ⟨"x", none, none⟩

/-- A described column of a type that the dialect does not know: the statement is prepared, and
refused under the position of the column. -/
theorem statement_course_unsupported :
    emptyPlan.statement describing (provide describing) .fresh =
      .error (.unsupportedResultType 2 "JDBC type 70")
        ⟨[.resolve "C", .provide, .prepare "\"x\""], none⟩ := by
  have course := statement_course emptyPlan describing (provide describing) .fresh
  have description := course.described "\"x\"" "C" _ rfl rfl rfl nofun fun _ => .inr rfl
  have listing := description.prepared _ _ _ rfl rfl nofun
  exact listing.unsupported [_] _ [_] rfl (by decide) rfl

end LoadRequest

end Pushdown
