/-
Module: Pushdown.Proofs.Adapter
Purpose: An adapter that kept a connection from earlier requests answers as a new one would.
Main exports: Operation.requested, Operation.Reuses, Adapter.sessionAfter, Adapter.perform_after
-/
import Mathlib.Data.List.Induction
import Pushdown.Adapter
import Pushdown.Proofs.Remote.Steady
import Pushdown.Proofs.Schema.Eligible

namespace Pushdown

open Session

/-!
Requests are taken one after the other in one session, and the only trace that a request leaves
for later ones is the connection that is kept.  Every request reads a schema or makes a load
statement in between steps that do not look at the session; both ask for a connection once at
most, so both are transparent.  What is kept is renewable at first and after every request, hence
after any number of them.
-/

variable {remote : Remote}

/-! ### Reading a schema -/

namespace SchemaReader

variable {connection other : Connection}

/-- Tables are read alike over connections that lead to one place.  The connection itself is only
handed on to the calls, so a steady source cannot tell a renewed one from the kept one. -/
theorem readTables_congr (steady : remote.IsSteady)
    (sameTarget : connection.information = other.information) (reader : SchemaReader)
    (filter : List String) (limit room : Nat) (sources : List RemoteTable) :
    reader.readTables remote connection filter limit room sources =
      reader.readTables remote other filter limit room sources := by
  induction sources generalizing room with
  | nil => simp only [readTables]
  | cons source rest inductionHypothesis =>
    simp only [readTables, columns_congr steady sameTarget, inductionHypothesis]

/-- A whole schema is read alike over connections that lead to one place, as its tables are. -/
theorem readSchema_congr (steady : remote.IsSteady)
    (sameTarget : connection.information = other.information) (reader : SchemaReader)
    (properties : Properties) :
    reader.readSchema remote connection properties =
      reader.readSchema remote other properties := by
  simp only [readSchema, conventions_congr steady sameTarget, tables_congr steady sameTarget,
    readTables_congr steady sameTarget]

/-- Reading a whole schema over a given connection does not depend on the session: it opens nothing
and asks a steady source. -/
theorem constant_readSchema (steady : remote.IsSteady) (reader : SchemaReader)
    (connection : Connection) (properties : Properties) :
    Constant (reader.readSchema remote connection properties) :=
  reader.readSchema_of_compositional constant_compositional
    (constant_conventions steady connection) (fun _ _ _ _ => constant_tables steady ..)
    (fun _ _ _ _ => constant_columns steady ..) properties

end SchemaReader

/-! ### Making a load statement -/

namespace LoadRequest

/-- Describing a query is the only part of a load statement that asks for a connection to open. -/
theorem transparent_describe (steady : remote.IsSteady) (request : LoadRequest)
    (name sql : String) : Transparent remote name
      (request.describe remote (obtain remote name) sql) := by
  refine transparent_obtain_bind steady _ (fun connection => ?_)
    fun connection other sameTarget => ?_
  · exact ((constant_prepare steady connection sql).relabel _).bind
      fun columns => constant_settled _
  · rw [prepare_congr steady sameTarget]

/-- The columns of a load statement are described, planned or left out. -/
theorem transparent_columns (steady : remote.IsSteady) (request : LoadRequest)
    (name sql : String) : Transparent remote name
      (request.columns remote (obtain remote name) sql) := by
  unfold columns
  split
  · exact (constant_pure _).transparent
  · exact (constant_settled _).transparent
  · exact (request.transparent_describe steady name sql).bind_constant fun types => constant_pure _

/-- Making a load statement is transparent: at most one connection is opened in it.  Which session
it starts from is therefore seen in the opening calls alone. -/
theorem transparent_statement (steady : remote.IsSteady) (request : LoadRequest) (name : String) :
    Transparent remote name (request.statement remote (obtain remote name)) := by
  refine (constant_settled _).bind_transparent fun sql => ?_
  refine (constant_settled _).bind_transparent fun connectionName => ?_
  refine ((constant_resolve steady connectionName).relabel _).bind_transparent fun information => ?_
  exact (request.transparent_columns steady name sql).bind_constant fun types => constant_pure _

end LoadRequest

/-! ### Requests -/

namespace Operation

/-- The name under which a request asks for a connection, if it can ask for one. -/
def requested : Operation → Option String
  | .create properties | .refresh properties => some (Adapter.connectionNameOf properties)
  | .alter properties changes => some (Adapter.connectionNameOf (properties.merge changes))
  | .drop | .capabilities _ => none
  | .pushdown request => some (Adapter.connectionNameOf request.properties)

/-- Whether a request gives up the connection that is kept before anything else. -/
def givesUp : Operation → Bool
  | .alter properties changes =>
    (properties.merge changes).connectionName ≠ properties.connectionName
  | .drop => true
  | _ => false

/-- A request finds the connection open that it asks for: the one that is kept has its name, and
is not given up before. -/
structure Reuses (operation : Operation) (session : Session) (name : String) : Prop where
  requests : operation.requested = some name
  holds : session.Holds name
  keeps : operation.givesUp = false

/-- The session in which a request is taken, once it has given up what it gives up. -/
def entered (operation : Operation) (session : Session) : Session :=
  if operation.givesUp then { session with kept := none } else session

section Entered

variable (operation : Operation) {session : Session}

@[simp] theorem calls_entered : (operation.entered session).calls = session.calls := by
  unfold entered
  split <;> rfl

@[simp] theorem entered_of_none (history : List Call) :
    operation.entered ⟨history, none⟩ = ⟨history, none⟩ := by
  unfold entered
  split <;> rfl

/-- A connection is still held behind the entrance unless the request gives it up. -/
theorem holds_entered {name : String} :
    (operation.entered session).Holds name ↔ operation.givesUp = false ∧ session.Holds name := by
  unfold entered
  cases operation.givesUp with
  | true => simpa using not_holds_of_none session.calls name
  | false => simp

/-- A connection that could be renewed before a request can be renewed behind its entrance. -/
theorem renewable_entered (renewable : Renewable remote session.kept) :
    Renewable remote (operation.entered session).kept := by
  unfold entered
  split
  · exact renewable_none remote
  · exact renewable

end Entered

end Operation

namespace Adapter

variable (adapter : Adapter)

/-- What is left to do for a request after the connection that is kept may have been given up. -/
def attend (remote : Remote) : Operation → Action Fault Answer
  | .alter properties changes => do
    let schema ← adapter.readSchema remote (properties.merge changes)
    pure (.altered (properties.merge changes) schema)
  | .drop => pure .dropped
  | operation => adapter.perform remote operation

/-- A request gives up the connection first, if at all, and is then attended to.  Statements about
requests are proved of `attend` and carried over by this equation. -/
theorem perform_eq_attend (operation : Operation) (session : Session) :
    adapter.perform remote operation session =
      adapter.attend remote operation (operation.entered session) := by
  cases operation with
  | alter properties changes =>
    have cleared : (clear : Action Fault Unit) session =
        ending ⟨session.calls, none⟩ (.ok ()) := rfl
    by_cases same : (properties.merge changes).connectionName = properties.connectionName
    · simp [perform, alter, attend, Operation.entered, Operation.givesUp, same]
    · simp [perform, alter, attend, Operation.entered, Operation.givesUp, same,
        bind_of_answer cleared]
  | drop => rfl
  | create properties => rfl
  | refresh properties => rfl
  | capabilities properties => rfl
  | pushdown request => rfl

/-- Reading a schema asks for a connection once, and goes on with it alone.  All later calls are the
same, whether the connection was kept or has just been opened. -/
theorem transparent_readSchema (steady : remote.IsSteady) (properties : Properties) :
    Transparent remote (connectionNameOf properties) (adapter.readSchema remote properties) := by
  refine ((constant_settled _).relabel _).bind_transparent fun dialect => ?_
  refine transparent_obtain_bind steady _ (fun connection => ?_)
    fun connection other sameTarget => ?_
  · exact (SchemaReader.constant_readSchema steady _ connection properties).relabel _
  · rw [SchemaReader.readSchema_congr steady sameTarget]

/-- A query asks for a connection only to describe its result; the conventions of the source come
with the request. -/
theorem transparent_pushdown (steady : remote.IsSteady) (request : PushdownRequest) :
    Transparent remote (connectionNameOf request.properties)
      (adapter.pushdown remote request) := by
  refine ((constant_settled _).relabel _).bind_transparent fun dialect => ?_
  refine (constant_settled _).bind_transparent fun conventions => ?_
  exact (LoadRequest.transparent_statement steady _ _).relabel _

/-- Every request that asks for a connection does so under one name, and is transparent for that
name. -/
theorem transparent_attend (steady : remote.IsSteady) {operation : Operation} {name : String}
    (requests : operation.requested = some name) :
    Transparent remote name (adapter.attend remote operation) := by
  cases operation with
  | create properties | refresh properties =>
    obtain rfl := Option.some.inj requests
    exact (adapter.transparent_readSchema steady properties).bind_constant
      fun schema => constant_pure _
  | alter properties changes =>
    obtain rfl := Option.some.inj requests
    exact (adapter.transparent_readSchema steady _).bind_constant fun schema => constant_pure _
  | drop => cases requests
  | capabilities properties => cases requests
  | pushdown request =>
    obtain rfl := Option.some.inj requests
    exact (adapter.transparent_pushdown steady request).bind_constant
      fun statement => constant_pure _

/-- A request that cannot ask for a connection does not look at the session.  It ends alike after
any other requests, and makes no calls. -/
theorem constant_attend {operation : Operation} (unrequested : operation.requested = none) :
    Constant (adapter.attend remote operation) := by
  cases operation with
  | drop => exact constant_pure _
  | capabilities properties =>
    exact ((constant_settled _).relabel _).bind fun capabilities => constant_pure _
  | create properties | refresh properties => cases unrequested
  | alter properties changes => cases unrequested
  | pushdown request => cases unrequested

/-- One request: taken in a session whose connection is renewable, it is answered as in a session
that keeps none, and leaves a renewable connection behind. -/
theorem perform_alike (steady : remote.IsSteady) (operation : Operation) {session : Session}
    (renewable : Renewable remote session.kept) (history : List Call) :
    ∃ outcome made renewed kept renewedKept,
      adapter.perform remote operation session =
        ending ⟨session.calls ++ made, kept⟩ outcome ∧
      adapter.perform remote operation ⟨history, none⟩ =
        ending ⟨history ++ renewed, renewedKept⟩ outcome ∧
      Renewable remote kept ∧
      (∀ name, operation.Reuses session name → Spares remote name renewed made) ∧
      ((∀ name, ¬ operation.Reuses session name) → made = renewed) := by
  rw [perform_eq_attend, perform_eq_attend, operation.entered_of_none]
  -- A session that keeps nothing has nothing to give up, so only the first run changes here.
  have entered := operation.renewable_entered renewable
  cases requests : operation.requested with
  | none =>
    have constant : Constant (adapter.attend remote operation) :=
      adapter.constant_attend requests
    obtain ⟨outcome, made, -, runs⟩ := constant
    refine ⟨outcome, made, made, _, _, ?_, runs ⟨history, none⟩, entered, ?_, fun _ => rfl⟩
    · rw [runs, withCalls, operation.calls_entered]
    · rintro name ⟨requests', -, -⟩
      cases requests.symm.trans requests'
  | some name =>
    obtain ⟨outcome, made, renewed, kept, renewedKept, alike⟩ :=
      adapter.transparent_attend steady requests _ entered history
    refine ⟨outcome, made, renewed, kept, renewedKept, ?_, alike.renewedEnds, alike.renewable,
      ?_, ?_⟩
    · rw [alike.ends, operation.calls_entered]
    · rintro name' ⟨requests', holds, keeps⟩
      obtain rfl := Option.some.inj (requests.symm.trans requests')
      exact alike.spares (operation.holds_entered.2 ⟨keeps, holds⟩)
    · intro reusesNone
      refine alike.same fun holds => reusesNone name ?_
      obtain ⟨keeps, holds⟩ := operation.holds_entered.1 holds
      exact ⟨requests, holds, keeps⟩

/-- The session that requests leave behind, taken one after the other by a new adapter. -/
def sessionAfter (remote : Remote) (operations : List Operation) : Session :=
  operations.foldl (fun session operation =>
    Session.after (adapter.perform remote operation) session) .fresh

/-- What is kept after any number of requests is renewable.  This is the invariant by which the
whole history of an adapter is reduced to the question of what it keeps. -/
theorem renewable_sessionAfter (steady : remote.IsSteady) (operations : List Operation) :
    Renewable remote (adapter.sessionAfter remote operations).kept := by
  induction operations using List.reverseRecOn with
  | nil => exact renewable_none remote
  | append_singleton earlier operation inductionHypothesis =>
    obtain ⟨outcome, made, renewed, kept, renewedKept, ends, -, renewable, -⟩ :=
      adapter.perform_alike steady operation inductionHypothesis []
    rw [sessionAfter, List.foldl_append]
    change Renewable remote (Session.after _ (adapter.sessionAfter remote earlier)).kept
    rw [after_of_ending ends]
    exact renewable

/-- After any requests, an adapter answers the next one as a new adapter would at any time, and
makes the same calls, but for those that open the connection if it finds that open. -/
theorem perform_after (steady : remote.IsSteady) (earlier : List Operation)
    (operation : Operation) (history : List Call) :
    ∃ outcome made renewed kept renewedKept,
      adapter.perform remote operation (adapter.sessionAfter remote earlier) =
        ending ⟨(adapter.sessionAfter remote earlier).calls ++ made, kept⟩ outcome ∧
      adapter.perform remote operation ⟨history, none⟩ =
        ending ⟨history ++ renewed, renewedKept⟩ outcome ∧
      (∀ name, operation.Reuses (adapter.sessionAfter remote earlier) name →
        Spares remote name renewed made) ∧
      ((∀ name, ¬ operation.Reuses (adapter.sessionAfter remote earlier) name) →
        made = renewed) := by
  obtain ⟨outcome, made, renewed, kept, renewedKept, ends, renewedEnds, -, spares, same⟩ :=
    adapter.perform_alike steady operation (adapter.renewable_sessionAfter steady earlier) history
  exact ⟨outcome, made, renewed, kept, renewedKept, ends, renewedEnds, spares, same⟩

/-- A steady source to which every name leads, and where there is nothing to see. -/
def placid : Remote where
  resolve _ _ := .ok ⟨"jdbc:placid", "reader", ""⟩
  connect _ _ := .ok ()
  provide _ := .error (.connectFailed "")
  prepare _ _ _ := .ok []
  conventions _ _ := .ok .usual
  tables _ _ _ _ _ _ := .ok []
  columns _ _ _ _ _ _ := .ok []

/-- A source that answers everything in the same way is steady. -/
theorem steady_placid : placid.IsSteady where
  resolve _ _ _ := rfl
  connect _ _ _ := rfl
  prepare _ _ _ _ _ _ := rfl
  conventions _ _ _ _ _ := rfl
  tables _ _ _ _ _ _ _ _ _ := rfl
  columns _ _ _ _ _ _ _ _ _ := rfl

/-- The adapter of the generic dialect. -/
def general : Adapter := ⟨"GENERIC", .builtin, none⟩

/-- Properties that name a connection object and nothing else. -/
def leading (name : String) : Properties := .ofList [(Property.connectionName, name)]

/-- The schema that was read at its creation is read again over the same connection: the second
request makes the same calls but the two that opened it. -/
theorem perform_after_creation :
    placid.IsSteady ∧
      (Operation.refresh (leading "A")).Reuses
        (general.sessionAfter placid [.create (leading "A")]) "A" ∧
      ∃ outcome made renewed kept renewedKept,
        general.perform placid (.refresh (leading "A"))
            (general.sessionAfter placid [.create (leading "A")]) =
          ending ⟨(general.sessionAfter placid [.create (leading "A")]).calls ++ made, kept⟩
            outcome ∧
        general.perform placid (.refresh (leading "A")) .fresh =
          ending ⟨renewed, renewedKept⟩ outcome ∧
        Spares placid "A" renewed made := by
  have kept : (general.sessionAfter placid [.create (leading "A")]).kept =
      some ⟨"A", ⟨⟨"jdbc:placid", "reader", ""⟩, 1⟩⟩ := by decide +kernel
  have reuses : (Operation.refresh (leading "A")).Reuses
      (general.sessionAfter placid [.create (leading "A")]) "A" :=
    { requests := by decide +kernel
      holds := ⟨_, kept, rfl⟩
      keeps := rfl }
  obtain ⟨outcome, made, renewed, last, renewedKept, ends, renewedEnds, spares, -⟩ :=
    general.perform_after steady_placid [.create (leading "A")] (.refresh (leading "A")) []
  exact ⟨steady_placid, reuses, outcome, made, renewed, last, renewedKept, ends, renewedEnds,
    spares "A" reuses⟩

end Adapter

end Pushdown
