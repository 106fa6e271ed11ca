/-
Module: Pushdown.Proofs.Rejection
Purpose: What a request with rejected properties does to the connection that is kept.
Main exports: Session.ReusesKept, Adapter.reusesKept_attend, Adapter.refresh_opens,
  Adapter.rejection_keeps_connection_iff
-/
import Pushdown.Proofs.Schema.Qualifier
import Pushdown.Proofs.Validation

namespace Pushdown

open Session

/-!
Rejected properties end a request before it asks for a connection.  The connection that is kept is
not lost on the way to the validation either, unless the request gives it up before: a request that
changes the name of the connection object does so before its properties are looked at.  What was
kept makes itself felt in the next request under its name, which opens no connection as long as it
is there, and opens a new one otherwise.
-/

/-! ### In a session that keeps a connection -/

namespace Session

variable {α β ε ε' : Type} {entry : NamedConnection}

/-- Whether an action opens no connection in a session that keeps a given one, and goes on keeping
it. -/
def ReusesKept (entry : NamedConnection) (action : Action ε α) : Prop :=
  ∀ session, session.kept = some entry → ∃ made outcome, OpensNone made ∧
    action session = (session.withCalls made).ending outcome

/-- The calls other than those that open a connection. -/
def OpensNothing (call : Call) : Prop := ∀ address user, call ≠ .connect address user

/-- An action that opens nothing does not touch a kept connection.  It may make any other calls. -/
theorem Makes.reusesKept {action : Action ε α} (makes : Makes OpensNothing action) :
    ReusesKept entry action :=
  fun session _ => makes session

theorem reusesKept_settled (outcome : Except ε α) : ReusesKept entry (settled outcome) :=
  (makes_settled outcome).reusesKept

theorem reusesKept_pure (value : α) : ReusesKept entry (pure value : Action ε α) :=
  (makes_pure value).reusesKept

theorem ReusesKept.relabel {action : Action ε α} (reuses : ReusesKept entry action)
    (change : ε → ε') : ReusesKept entry (relabel change action) := by
  intro session kept
  obtain ⟨made, outcome, opensNone, ended⟩ := reuses session kept
  exact ⟨made, outcome.mapError change, opensNone, relabel_of_ending ended change⟩

/-- Two steps reuse a kept connection if both do.  The first may end with an error, and then there
is no second. -/
theorem ReusesKept.bind {first : Action ε α} {next : α → Action ε β}
    (inFirst : ReusesKept entry first) (inNext : ∀ value, ReusesKept entry (next value)) :
    ReusesKept entry (first >>= next) := by
  intro session kept
  obtain ⟨made, outcome, opensNone, ended⟩ := inFirst session kept
  cases outcome with
  | error error => exact ⟨made, .error error, opensNone, bind_of_error ended next⟩
  | ok value =>
    obtain ⟨later, laterOutcome, laterOpensNone, laterEnded⟩ :=
      inNext value (session.withCalls made) kept
    refine ⟨made ++ later, laterOutcome, opensNone.append laterOpensNone, ?_⟩
    rw [bind_of_answer ended, laterEnded, withCalls_withCalls]

/-- The connection that is kept is there for the asking.  No call is made for it, so the source has
no part in the answer. -/
theorem reusesKept_obtain (remote : Remote) : ReusesKept entry (obtain remote entry.name) := by
  intro session kept
  refine ⟨[], .ok entry.connection, List.forall_mem_nil _, ?_⟩
  rw [obtain_of_holds remote kept rfl, withCalls_nil]

end Session

/-! ### Requests under its name -/

section Reuse

variable {entry : NamedConnection} (remote : Remote)

/-- Over a connection, reading a schema opens no other.  Its calls ask for conventions, tables and
columns. -/
theorem SchemaReader.makes_readSchema (reader : SchemaReader) (connection : Connection)
    (properties : Properties) :
    Makes OpensNothing (reader.readSchema remote connection properties) :=
  reader.readSchema_of_compositional makes_compositional (makes_call (fun _ _ => nofun) _)
    (fun _ _ _ _ => makes_call (fun _ _ => nofun) _)
    (fun _ _ _ _ => makes_call (fun _ _ => nofun) _) properties

/-- A load statement asks for the connection under one name, which finds the kept one.  The look-up
of the name comes before it and opens nothing. -/
theorem LoadRequest.reusesKept_statement (request : LoadRequest) :
    ReusesKept entry (request.statement remote (obtain remote entry.name)) := by
  refine (reusesKept_settled _).bind fun sql => ?_
  refine (reusesKept_settled _).bind fun name => ?_
  refine ((makes_call (fun _ _ => nofun) _).reusesKept.relabel _).bind fun information => ?_
  refine ReusesKept.bind ?_ fun types => reusesKept_pure _
  unfold columns
  split
  · exact reusesKept_pure _
  · exact reusesKept_settled _
  · refine ReusesKept.bind ?_ fun types => reusesKept_pure _
    refine ((reusesKept_obtain remote).relabel _).bind fun connection => ?_
    refine ((makes_call (fun _ _ => nofun) _).reusesKept.relabel _).bind fun columns => ?_
    exact reusesKept_settled _

namespace Adapter

variable (adapter : Adapter)

/-- Reading a schema under the name of the kept connection opens nothing.  Under another name the
kept one would be displaced. -/
theorem reusesKept_readSchema {properties : Properties}
    (named : connectionNameOf properties = entry.name) :
    ReusesKept entry (adapter.readSchema remote properties) := by
  refine ((reusesKept_settled _).relabel _).bind fun dialect => ?_
  dsimp only
  rw [named]
  refine ((reusesKept_obtain remote).relabel _).bind fun connection => ?_
  exact (SchemaReader.makes_readSchema remote _ connection properties).reusesKept.relabel _

/-- A request that asks for the connection that is kept opens none.  All other ways to leave calls
behind are excluded by what its steps may call. -/
theorem reusesKept_attend {operation : Operation}
    (requested : operation.requested = some entry.name) :
    ReusesKept entry (adapter.attend remote operation) := by
  cases operation with
  | create properties | refresh properties =>
    exact (adapter.reusesKept_readSchema remote (Option.some.inj requested)).bind
      fun schema => reusesKept_pure _
  | alter properties changes =>
    exact (adapter.reusesKept_readSchema remote (Option.some.inj requested)).bind
      fun schema => reusesKept_pure _
  | drop => cases requested
  | capabilities properties => cases requested
  | pushdown request =>
    refine ReusesKept.bind ?_ fun statement => reusesKept_pure _
    refine ((reusesKept_settled _).relabel _).bind fun dialect => ?_
    refine (reusesKept_settled _).bind fun conventions => ?_
    dsimp only
    rw [Option.some.inj requested]
    exact (LoadRequest.reusesKept_statement remote _).relabel _

/-- Where no connection is kept, reading a schema opens one as soon as the name leads somewhere,
before anything else is asked of the source. -/
theorem refresh_opens {properties : Properties} {dialect : Dialect}
    (accepted : adapter.dialectFor properties = .ok dialect) {history : List Call}
    {information : ConnectionInformation}
    (leads : remote.resolve history (connectionNameOf properties) = .ok information) :
    ∃ made kept outcome,
      adapter.perform remote (.refresh properties) ⟨history, none⟩ =
        ending ⟨history ++ opening (connectionNameOf properties) information ++ made, kept⟩
          outcome := by
  obtain ⟨kept, opened, opens⟩ := obtain_opens leads
  have found : relabel ConfigurationError.toFault (settled (adapter.dialectFor properties))
      ⟨history, none⟩ = ending ⟨history, none⟩ (.ok dialect) := by
    rw [accepted]
    rfl
  have opens := relabel_of_ending opens
    (ConnectivityError.toFault (some (connectionNameOf properties)))
  have read : ∃ made outcome, adapter.readSchema remote properties ⟨history, none⟩ =
      ending ⟨history ++ opening (connectionNameOf properties) information ++ made, kept⟩
        outcome := by
    rw [readSchema, bind_of_answer found]
    cases opened with
    | error error =>
      refine ⟨[], .error (error.toFault (some (connectionNameOf properties))), ?_⟩
      rw [List.append_nil]
      exact bind_of_error opens _
    | ok connection =>
      obtain ⟨made, outcome, -, ended⟩ := (SchemaReader.makes_readSchema remote
        (.ofDialect dialect properties (.ofText adapter.hostVersion)) connection properties)
        ⟨history ++ opening (connectionNameOf properties) information, kept⟩
      refine ⟨made, outcome.mapError (SchemaError.toFault (some (connectionNameOf properties))), ?_⟩
      rw [bind_of_answer opens]
      exact relabel_of_ending ended _
  obtain ⟨made, outcome, read⟩ := read
  exact ⟨made, kept, outcome.map .schema, map_of_ending read _⟩

end Adapter

end Reuse

/-! ### After a rejection -/

namespace Adapter

/-- The entrance leaves the connection alone if there is none or if the request does not give it
up. -/
theorem kept_entered_iff (operation : Operation) (session : Session) :
    (operation.entered session).kept = session.kept ↔
      session.kept = none ∨ operation.givesUp = false := by
  unfold Operation.entered
  cases operation.givesUp with
  | true => simp [eq_comm]
  | false => simp

/-- A request with rejected properties leaves the connection that is kept alone exactly if it does
not give it up beforehand.  If it is left alone, the next request under its name opens none; if
not, the next schema that is read under its name is read over a new one. -/
theorem rejection_keeps_connection_iff (adapter : Adapter) (remote : Remote)
    {operation : Operation} {properties : Properties}
    (works : operation.worksOn = some properties) {error : ConfigurationError}
    (rejected : adapter.dialectFor properties = .error error) (session : Session) :
    ∃ after, adapter.perform remote operation session = .error error.toFault after ∧
      after.calls = session.calls ∧
      (after.kept = session.kept ↔ session.kept = none ∨ operation.givesUp = false) ∧
      ∀ entry, session.kept = some entry →
        (operation.givesUp = false →
          ∀ next : Operation, next.requested = some entry.name → next.givesUp = false →
            ∃ made outcome, OpensNone made ∧
              adapter.perform remote next after = (after.withCalls made).ending outcome) ∧
        (operation.givesUp = true →
          ∀ later dialect information, adapter.dialectFor later = .ok dialect →
            connectionNameOf later = entry.name →
            remote.resolve after.calls entry.name = .ok information →
            ∃ made kept outcome,
              adapter.perform remote (.refresh later) after =
                ending ⟨after.calls ++ opening entry.name information ++ made, kept⟩
                  outcome) := by
  refine ⟨operation.entered session, ?_, operation.calls_entered,
    kept_entered_iff operation session, fun entry kept => ⟨fun keeps next requested nextKeeps => ?_,
      fun givesUp later dialect information accepted named leads => ?_⟩⟩
  · rw [perform_eq_attend]
    exact adapter.attend_of_rejected remote works rejected _
  -- The next request enters the session as it was, and finds the connection.
  · have untouched : operation.entered session = session := by
      rw [Operation.entered, keeps]
      rfl
    have nextUntouched : next.entered session = session := by
      rw [Operation.entered, nextKeeps]
      rfl
    rw [untouched, perform_eq_attend, nextUntouched]
    exact adapter.reusesKept_attend remote requested session kept
  -- The connection was given up at the entrance, so the next request has to look the name up.
  · have cleared : operation.entered session = ⟨session.calls, none⟩ := by
      rw [Operation.entered, if_pos givesUp]
    rw [cleared] at leads ⊢
    rw [← named] at leads ⊢
    exact adapter.refresh_opens remote accepted leads

/-- A schema whose connection object is taken away by mistake. -/
def nameless : Operation :=
  .alter (leading "A") (.ofList [(Property.connectionName, none)])

/-- A session in which the connection of that schema is open. -/
def afterCreation : Session :=
  general.sessionAfter placid [.create (leading "A")]

/-- A change that takes the name of the connection away is rejected, yet the next request has to
open the connection again. -/
theorem rejection_keeps_connection_iff_nameless :
    ∃ after,
      general.perform placid nameless afterCreation =
        .error (ConfigurationError.missingProperty Property.connectionName).toFault after ∧
      after.kept ≠ afterCreation.kept ∧
      ∃ made kept outcome,
        general.perform placid (.refresh (leading "A")) after =
          ending ⟨after.calls ++ opening "A" ⟨"jdbc:placid", "reader", ""⟩ ++ made, kept⟩
            outcome := by
  have rejected : general.dialectFor ((leading "A").merge
      (.ofList [(Property.connectionName, none)])) =
      .error (.missingProperty Property.connectionName) := rfl
  have kept : afterCreation.kept = some ⟨"A", ⟨⟨"jdbc:placid", "reader", ""⟩, 1⟩⟩ := by
    decide +kernel
  have givesUp : nameless.givesUp = true := by decide +kernel
  obtain ⟨after, failed, -, keeps, next⟩ :=
    rejection_keeps_connection_iff general placid (rfl : nameless.worksOn = some _) rejected
      afterCreation
  obtain ⟨-, reopens⟩ := next _ kept
  refine ⟨after, failed, fun same => ?_, ?_⟩
  · rcases keeps.1 same with none | keeps
    · rw [none] at kept
      cases kept
    · rw [givesUp] at keeps
      cases keeps
  · exact reopens givesUp (leading "A") .generic _ rfl (by decide +kernel) rfl

/-- The connection of a schema is given up for a change that is rejected, so a rejected change is
not without effect. -/
theorem rejected_change_disconnects :
    ¬ ∀ (adapter : Adapter) (remote : Remote) (operation : Operation) (properties : Properties)
      (error : ConfigurationError) (session : Session),
      operation.worksOn = some properties → adapter.dialectFor properties = .error error →
      (Session.after (adapter.perform remote operation) session).kept = session.kept := by
  intro keeps
  have same := keeps general placid nameless _ (.missingProperty Property.connectionName)
    afterCreation rfl rfl
  revert same
  decide +kernel

end Adapter

end Pushdown
