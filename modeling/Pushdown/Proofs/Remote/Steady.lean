/-
Module: Pushdown.Proofs.Remote.Steady
Purpose: On a remote source whose answers do not change, a connection that is kept shows in
  nothing but the calls that would open it anew.
Main exports: Remote.IsSteady, Session.Constant, Session.Spares, Session.Holds,
  Session.Transparent, Session.transparent_obtain_bind
-/
import Pushdown.Proofs.Remote.Session

namespace Pushdown

/-!
Two runs of an action are compared: one in a session that may keep a connection, the other in a
session that keeps none, after any calls.  The action is transparent if the runs end alike and
differ in their calls by the opening of a connection at most.  Actions that do not look at the
session are transparent because both runs are the same; asking for a connection is transparent
because a connection that is kept leads where a new one would lead.
-/

/-- A source that gives the same answer to the same question at any time.  What a call over a
connection is answered with depends on where the connection leads, not on when it was opened. -/
structure Remote.IsSteady (remote : Remote) : Prop where
  resolve (history later : List Call) (name : String) :
    remote.resolve history name = remote.resolve later name
  connect (history later : List Call) (information : ConnectionInformation) :
    remote.connect history information = remote.connect later information
  prepare (history later : List Call) (connection other : Connection) (sql : String) :
    connection.information = other.information →
      remote.prepare history connection sql = remote.prepare later other sql
  conventions (history later : List Call) (connection other : Connection) :
    connection.information = other.information →
      remote.conventions history connection = remote.conventions later other
  tables (history later : List Call) (connection other : Connection)
      (catalog schema : Option String) (pattern : String) (types : List String) :
    connection.information = other.information →
      remote.tables history connection catalog schema pattern types =
        remote.tables later other catalog schema pattern types
  columns (history later : List Call) (connection other : Connection)
      (catalog schema : Option String) (table pattern : String) :
    connection.information = other.information →
      remote.columns history connection catalog schema table pattern =
        remote.columns later other catalog schema table pattern

namespace Session

variable {α β ε ε' : Type}

/-- No connection is opened by these calls. -/
def OpensNone (calls : List Call) : Prop :=
  ∀ call ∈ calls, ∀ address user, call ≠ .connect address user

theorem OpensNone.append {front back : List Call} (frontOpensNone : OpensNone front)
    (backOpensNone : OpensNone back) : OpensNone (front ++ back) :=
  List.forall_mem_append.2 ⟨frontOpensNone, backOpensNone⟩

/-- The session that an action leaves behind. -/
def after (action : Action ε α) (session : Session) : Session :=
  match action session with
  | .ok _ after | .error _ after => after

theorem after_of_ending {action : Action ε α} {session last : Session} {outcome : Except ε α}
    (ended : action session = last.ending outcome) : after action session = last := by
  unfold after
  rw [ended]
  cases outcome <;> rfl

/-! ### Actions that do not look at the session -/

/-- An action that ends in the same way in every session, by the same calls, none of which opens
a connection. -/
def Constant (action : Action ε α) : Prop :=
  ∃ outcome made, OpensNone made ∧
    ∀ session, action session = (session.withCalls made).ending outcome

theorem constant_settled (outcome : Except ε α) : Constant (settled outcome) := by
  refine ⟨outcome, [], List.forall_mem_nil _, fun session => ?_⟩
  rw [withCalls_nil]
  exact settled_ending outcome session

theorem constant_pure (value : α) : Constant (pure value : Action ε α) :=
  constant_settled (.ok value)

/-- A call is constant if its answer is the same after any calls.  A steady source answers so,
whatever it has been asked before. -/
theorem constant_call {made : Call} {answer : List Call → Except ConnectivityError α}
    (opensNone : OpensNone [made]) (same : ∀ history later, answer history = answer later) :
    Constant (call made answer) := by
  refine ⟨answer [], [made], opensNone, fun session => ?_⟩
  rw [call_ending, same session.calls []]

theorem Constant.relabel {action : Action ε α} (constant : Constant action)
    (change : ε → ε') : Constant (Session.relabel change action) := by
  obtain ⟨outcome, made, opensNone, runs⟩ := constant
  exact ⟨outcome.mapError change, made, opensNone, fun session =>
    relabel_of_ending (runs session) change⟩

/-- Two constant steps are a constant action: the first outcome decides in every session alike
whether the second is taken. -/
theorem Constant.bind {first : Action ε α} {next : α → Action ε β} (constant : Constant first)
    (constantNext : ∀ value, Constant (next value)) : Constant (first >>= next) := by
  obtain ⟨outcome, made, opensNone, runs⟩ := constant
  cases outcome with
  | error error =>
    exact ⟨.error error, made, opensNone, fun session => bind_of_error (runs session) next⟩
  | ok value =>
    obtain ⟨last, later, laterOpensNone, runsNext⟩ := constantNext value
    refine ⟨last, made ++ later, opensNone.append laterOpensNone, fun session => ?_⟩
    rw [bind_of_answer (runs session), runsNext, withCalls_withCalls]

theorem constant_compositional : Compositional Constant :=
  ⟨constant_settled, Constant.relabel, Constant.bind⟩

/-! ### Calls on a steady source

A call is the same whenever it is made, and the same over connections that lead to one place. -/

section Steady

variable {remote : Remote} (steady : remote.IsSteady) {connection other : Connection}

include steady

theorem constant_resolve (name : String) : Constant (resolve remote name) :=
  constant_call (by simp [OpensNone]) fun history later => steady.resolve history later name

theorem constant_prepare (connection : Connection) (sql : String) :
    Constant (prepare remote connection sql) :=
  constant_call (by simp [OpensNone]) fun history later =>
    steady.prepare history later connection connection sql rfl

/-- It does not matter through which of two connections to one place a statement is prepared. -/
theorem prepare_congr (sameTarget : connection.information = other.information) (sql : String) :
    prepare remote connection sql = prepare remote other sql :=
  congrArg (call _) (funext fun history =>
    steady.prepare history history connection other sql sameTarget)

theorem constant_conventions (connection : Connection) :
    Constant (conventions remote connection) :=
  constant_call (by simp [OpensNone]) fun history later =>
    steady.conventions history later connection connection rfl

theorem conventions_congr (sameTarget : connection.information = other.information) :
    conventions remote connection = conventions remote other :=
  congrArg (call _) (funext fun history =>
    steady.conventions history history connection other sameTarget)

theorem constant_tables (connection : Connection) (catalog schema : Option String)
    (pattern : String) (types : List String) :
    Constant (tables remote connection catalog schema pattern types) :=
  constant_call (by simp [OpensNone]) fun history later =>
    steady.tables history later connection connection catalog schema pattern types rfl

theorem tables_congr (sameTarget : connection.information = other.information)
    (catalog schema : Option String) (pattern : String) (types : List String) :
    tables remote connection catalog schema pattern types =
      tables remote other catalog schema pattern types :=
  congrArg (call _) (funext fun history =>
    steady.tables history history connection other catalog schema pattern types sameTarget)

theorem constant_columns (connection : Connection) (catalog schema : Option String)
    (table pattern : String) :
    Constant (columns remote connection catalog schema table pattern) :=
  constant_call (by simp [OpensNone]) fun history later =>
    steady.columns history later connection connection catalog schema table pattern rfl

theorem columns_congr (sameTarget : connection.information = other.information)
    (catalog schema : Option String) (table pattern : String) :
    columns remote connection catalog schema table pattern =
      columns remote other catalog schema table pattern :=
  congrArg (call _) (funext fun history =>
    steady.columns history history connection other catalog schema table pattern sameTarget)

end Steady

/-! ### Runs with and without a connection kept -/

/-- The connection that is kept was asked for under this name. -/
def Holds (session : Session) (name : String) : Prop :=
  ∃ entry, session.kept = some entry ∧ entry.name = name

theorem not_holds_of_none (history : List Call) (name : String) :
    ¬ (⟨history, none⟩ : Session).Holds name := by
  rintro ⟨entry, kept, -⟩
  cases kept

/-- A connection that is kept leads where its name leads, and can be opened anew. -/
def Renewable (remote : Remote) (kept : Option NamedConnection) : Prop :=
  ∀ entry, kept = some entry → ∀ history,
    remote.resolve history entry.name = .ok entry.connection.information ∧
      remote.connect history entry.connection.information = .ok ()

theorem renewable_none (remote : Remote) : Renewable remote none := by
  rintro entry ⟨⟩

/-- The calls that open a connection under a name. -/
def opening (name : String) (information : ConnectionInformation) : List Call :=
  [.resolve name, .connect information.address information.user]

/-- The calls of two runs, the second of which finds a connection open: it spares the calls that
open a connection in the first, if the first opens one. -/
inductive Spares (remote : Remote) (name : String) : List Call → List Call → Prop where
  | unopened {calls : List Call} (opensNone : OpensNone calls) : Spares remote name calls calls
  | opened {front back : List Call} {information : ConnectionInformation}
      (leads : ∀ history, remote.resolve history name = .ok information)
      (frontOpensNone : OpensNone front) (backOpensNone : OpensNone back) :
      Spares remote name
        (front ++ (opening name information ++ back)) (front ++ back)

section Spares

variable {remote : Remote} {name : String} {renewed made calls : List Call}

/-- Calls made before, by both runs, do not change what is spared. -/
theorem Spares.after (opensNone : OpensNone calls) (spares : Spares remote name renewed made) :
    Spares remote name (calls ++ renewed) (calls ++ made) := by
  cases spares with
  | unopened madeOpensNone => exact .unopened (opensNone.append madeOpensNone)
  | opened leads frontOpensNone backOpensNone =>
    simpa only [List.append_assoc] using
      Spares.opened leads (opensNone.append frontOpensNone) backOpensNone

/-- Calls made afterwards, by both runs, do not change what is spared. -/
theorem Spares.before (spares : Spares remote name renewed made) (opensNone : OpensNone calls) :
    Spares remote name (renewed ++ calls) (made ++ calls) := by
  cases spares with
  | unopened madeOpensNone => exact .unopened (madeOpensNone.append opensNone)
  | opened leads frontOpensNone backOpensNone =>
    simpa only [List.append_assoc, List.cons_append] using
      Spares.opened leads frontOpensNone (backOpensNone.append opensNone)

end Spares

/-- Two runs of an action, in a session and in one that keeps no connection, end alike: with the
same outcome and by the same calls, up to those that the first run spares because a connection
is kept under the name. -/
structure Alike (remote : Remote) (name : String) (action : Action ε α) (session : Session)
    (history : List Call) (outcome : Except ε α) (made renewed : List Call)
    (kept renewedKept : Option NamedConnection) : Prop where
  ends : action session = ending ⟨session.calls ++ made, kept⟩ outcome
  renewedEnds : action ⟨history, none⟩ = ending ⟨history ++ renewed, renewedKept⟩ outcome
  renewable : Renewable remote kept
  spares : session.Holds name → Spares remote name renewed made
  same : ¬ session.Holds name → made = renewed

/-- An action for which a connection that is kept makes no difference but in the calls that open
it. -/
def Transparent (remote : Remote) (name : String) (action : Action ε α) : Prop :=
  ∀ session, Renewable remote session.kept → ∀ history,
    ∃ outcome made renewed kept renewedKept,
      Alike remote name action session history outcome made renewed kept renewedKept

variable {remote : Remote} {name : String}

/-- An action that does not look at the session runs alike in any two of them, and spares
nothing. -/
theorem Constant.transparent {action : Action ε α} (constant : Constant action) :
    Transparent remote name action := by
  obtain ⟨outcome, made, opensNone, runs⟩ := constant
  intro session renewable history
  exact ⟨outcome, made, made, session.kept, none,
    { ends := runs session
      renewedEnds := runs ⟨history, none⟩
      renewable := renewable
      spares := fun _ => .unopened opensNone
      same := fun _ => rfl }⟩

/-- Errors are put into other words in both runs alike. -/
theorem Transparent.relabel {action : Action ε α} (transparent : Transparent remote name action)
    (change : ε → ε') : Transparent remote name (Session.relabel change action) := by
  intro session renewable history
  obtain ⟨outcome, made, renewed, kept, renewedKept, alike⟩ :=
    transparent session renewable history
  exact ⟨outcome.mapError change, made, renewed, kept, renewedKept,
    { alike with
      ends := relabel_of_ending alike.ends change
      renewedEnds := relabel_of_ending alike.renewedEnds change }⟩

/-- What is done before may not depend on the session. -/
theorem Constant.bind_transparent {first : Action ε α} {next : α → Action ε β}
    (constant : Constant first) (transparent : ∀ value, Transparent remote name (next value)) :
    Transparent remote name (first >>= next) := by
  obtain ⟨outcome, calls, opensNone, runs⟩ := constant
  cases outcome with
  | error error =>
    exact Constant.transparent
      ⟨.error error, calls, opensNone, fun session => bind_of_error (runs session) next⟩
  | ok value =>
    intro session renewable history
    obtain ⟨last, made, renewed, kept, renewedKept, alike⟩ :=
      transparent value (session.withCalls calls) renewable (history ++ calls)
    refine ⟨last, calls ++ made, calls ++ renewed, kept, renewedKept, ?_⟩
    exact
      { ends := by
          rw [bind_of_answer (runs session), alike.ends, calls_withCalls, List.append_assoc]
        renewedEnds := by
          rw [bind_of_answer (runs ⟨history, none⟩), ← List.append_assoc]
          exact alike.renewedEnds
        renewable := alike.renewable
        spares := fun holds => (alike.spares holds).after opensNone
        same := fun absent => congrArg (calls ++ ·) (alike.same absent) }

/-- What is done afterwards may not depend on the session either. -/
theorem Transparent.bind_constant {first : Action ε α} {next : α → Action ε β}
    (transparent : Transparent remote name first) (constant : ∀ value, Constant (next value)) :
    Transparent remote name (first >>= next) := by
  intro session renewable history
  obtain ⟨outcome, made, renewed, kept, renewedKept, alike⟩ :=
    transparent session renewable history
  cases outcome with
  | error error =>
    exact ⟨.error error, made, renewed, kept, renewedKept,
      { alike with
        ends := bind_of_error alike.ends next
        renewedEnds := bind_of_error alike.renewedEnds next }⟩
  | ok value =>
    obtain ⟨last, calls, opensNone, runs⟩ := constant value
    refine ⟨last, made ++ calls, renewed ++ calls, kept, renewedKept, ?_⟩
    exact
      { ends := by
          rw [bind_of_answer alike.ends, runs, withCalls, List.append_assoc]
        renewedEnds := by
          rw [bind_of_answer alike.renewedEnds, runs, withCalls, List.append_assoc]
        renewable := alike.renewable
        spares := fun holds => (alike.spares holds).before opensNone
        same := fun absent => congrArg (· ++ calls) (alike.same absent) }

/-! ### Asking for a connection -/

section Obtain

variable {session : Session}

/-- A session that is looked at stays as it is. -/
theorem get_ending (session : Session) :
    (get : Action ε Session) session = session.ending (.ok session) := rfl

/-- A connection that is kept under the name is handed out without a call. -/
theorem obtain_of_holds (remote : Remote) {entry : NamedConnection}
    (kept : session.kept = some entry) (named : entry.name = name) :
    obtain remote name session = session.ending (.ok entry.connection) := by
  have filtered : (session.kept.filter fun entry => entry.name == name) = some entry := by
    simp [kept, named]
  rw [obtain, bind_of_answer (get_ending session), filtered]
  rfl

/-- A name under which no connection is kept is looked up. -/
theorem obtain_of_not_holds (absent : ¬ session.Holds name) :
    obtain remote name session =
      (do
        let information ← resolve remote name
        let connection ← connect remote information
        keep name connection
        pure connection : Action ConnectivityError Connection) session := by
  have filtered : (session.kept.filter fun entry => entry.name == name) = none := by
    rw [Option.filter_eq_none_iff]
    intro entry kept sameName
    exact absent ⟨entry, kept, beq_iff_eq.1 sameName⟩
  rw [obtain, bind_of_answer (get_ending session), filtered]

/-- Whether a connection is opened when it is asked for in a session: none is kept under the name,
and the connection leads where the name does.  Its number is that of the call that opens it. -/
structure Opens (remote : Remote) (session : Session) (name : String) (connection : Connection) :
    Prop where
  absent : ¬ session.Holds name
  leads : remote.resolve session.calls name = .ok connection.information
  connects : remote.connect (session.calls ++ [.resolve name]) connection.information = .ok ()
  opened : connection.opened = session.calls.length + 1

/-- How asking for a connection can end, and in which session. -/
inductive Obtained (remote : Remote) (session : Session) (name : String) :
    Except ConnectivityError Connection → Session → Prop where
  /-- The connection that is kept has the name. -/
  | reused {entry : NamedConnection} (kept : session.kept = some entry)
      (named : entry.name = name) :
      Obtained remote session name (.ok entry.connection) session
  /-- The name leads nowhere. -/
  | unresolved {error : ConnectivityError} (absent : ¬ session.Holds name)
      (failed : remote.resolve session.calls name = .error error) :
      Obtained remote session name (.error error) (session.withCalls [.resolve name])
  /-- The name leads to a place to which no connection can be opened. -/
  | unconnected {information : ConnectionInformation} {error : ConnectivityError}
      (absent : ¬ session.Holds name)
      (leads : remote.resolve session.calls name = .ok information)
      (failed : remote.connect (session.calls ++ [.resolve name]) information = .error error) :
      Obtained remote session name (.error error) (session.withCalls (opening name information))
  /-- A connection is opened, and kept. -/
  | opened {connection : Connection} (opens : Opens remote session name connection) :
      Obtained remote session name (.ok connection)
        ⟨session.calls ++ opening name connection.information, some ⟨name, connection⟩⟩

/-- Asking for a connection ends in one of these ways. -/
theorem obtain_obtained (remote : Remote) (session : Session) (name : String) :
    ∃ outcome last, Obtained remote session name outcome last ∧
      obtain remote name session = last.ending outcome := by
  by_cases holds : session.Holds name
  · obtain ⟨entry, kept, named⟩ := holds
    exact ⟨_, _, .reused kept named, obtain_of_holds remote kept named⟩
  · rw [obtain_of_not_holds holds]
    -- The name is looked up first; only if it leads somewhere is a connection asked for.
    have resolved : resolve remote name session =
        (session.withCalls [.resolve name]).ending (remote.resolve session.calls name) :=
      call_ending _ _ session
    cases leads : remote.resolve session.calls name with
    | error error =>
      rw [leads] at resolved
      exact ⟨_, _, .unresolved holds leads, bind_of_error resolved _⟩
    | ok information =>
      rw [leads] at resolved
      rw [bind_of_answer resolved]
      cases connects : remote.connect (session.calls ++ [.resolve name]) information with
      | error error =>
        have failed : connect remote information (session.withCalls [.resolve name]) =
            (session.withCalls (opening name information)).ending (.error error) := by
          rw [connect, call_ending, calls_withCalls, connects, withCalls_withCalls]
          rfl
        exact ⟨_, _, .unconnected holds leads connects, bind_of_error failed _⟩
      | ok _ =>
        have connected : connect remote information (session.withCalls [.resolve name]) =
            (session.withCalls (opening name information)).ending
              (.ok ⟨information, session.calls.length + 1⟩) := by
          rw [connect, call_ending, calls_withCalls, connects, withCalls_withCalls,
            List.length_append]
          rfl
        have opens : Opens remote session name ⟨information, session.calls.length + 1⟩ :=
          ⟨holds, leads, connects, rfl⟩
        refine ⟨_, _, .opened opens, ?_⟩
        rw [bind_of_answer connected]
        rfl

/-- A connection is opened under a name that leads to it, and kept. -/
theorem obtain_of_leads (absent : ¬ session.Holds name) {information : ConnectionInformation}
    (leads : ∀ history, remote.resolve history name = .ok information)
    (connects : ∀ history, remote.connect history information = .ok ()) :
    ∃ opened, obtain remote name session =
      ending ⟨session.calls ++ opening name information, some ⟨name, ⟨information, opened⟩⟩⟩
        (.ok ⟨information, opened⟩) := by
  obtain ⟨outcome, last, obtained, ended⟩ := obtain_obtained remote session name
  cases obtained with
  | reused kept named => exact absurd ⟨_, kept, named⟩ absent
  | unresolved absent failed => cases failed.symm.trans (leads _)
  | unconnected absent found failed =>
    cases found.symm.trans (leads _)
    cases failed.symm.trans (connects _)
  | opened opens =>
    cases opens.leads.symm.trans (leads _)
    exact ⟨_, ended⟩

/-- Where no connection is kept, one is opened as soon as the name leads somewhere. -/
theorem obtain_opens {history : List Call} {information : ConnectionInformation}
    (leads : remote.resolve history name = .ok information) :
    ∃ kept outcome, obtain remote name ⟨history, none⟩ =
      ending ⟨history ++ opening name information, kept⟩ outcome := by
  obtain ⟨outcome, last, obtained, ended⟩ := obtain_obtained remote ⟨history, none⟩ name
  cases obtained with
  | reused kept named => cases kept
  | unresolved absent failed => cases failed.symm.trans leads
  | unconnected absent found failed =>
    cases found.symm.trans leads
    exact ⟨_, _, ended⟩
  | opened opens =>
    cases opens.leads.symm.trans leads
    exact ⟨_, _, ended⟩

/-- Asking for a connection adds calls and takes none away. -/
theorem calls_of_obtain {after : Session} {connection : Connection}
    (granted : obtain remote name session = .ok connection after) :
    session.calls <+: after.calls := by
  obtain ⟨outcome, last, obtained, ended⟩ := obtain_obtained remote session name
  cases obtained with
  | reused kept named =>
    cases granted.symm.trans ended
    exact List.prefix_rfl
  | unresolved absent failed => cases granted.symm.trans ended
  | unconnected absent found failed => cases granted.symm.trans ended
  | opened opens =>
    cases granted.symm.trans ended
    exact List.prefix_append _ _

/-- On a steady source, a name either never leads to a connection, or always to the same. -/
theorem obtain_fails_or_leads (steady : remote.IsSteady) (name : String) :
    (∃ error made, ∀ session : Session, ¬ session.Holds name →
      obtain remote name session = (session.withCalls made).ending (.error error)) ∨
    ∃ information, (∀ history, remote.resolve history name = .ok information) ∧
      ∀ history, remote.connect history information = .ok () := by
  cases resolved : remote.resolve [] name with
  | error error =>
    refine .inl ⟨error, [.resolve name], fun session absent => ?_⟩
    rw [obtain_of_not_holds absent]
    refine bind_of_error ?_ _
    rw [resolve, call_ending, steady.resolve session.calls [], resolved]
  | ok information =>
    cases connected : remote.connect [] information with
    | error error =>
      refine .inl ⟨error, opening name information, fun session absent => ?_⟩
      have found : resolve remote name session =
          (session.withCalls [.resolve name]).ending (.ok information) := by
        rw [resolve, call_ending, steady.resolve session.calls [], resolved]
      have failed : connect remote information (session.withCalls [.resolve name]) =
          (session.withCalls (opening name information)).ending (.error error) := by
        rw [connect, call_ending, steady.connect _ [], connected, withCalls_withCalls]
        rfl
      rw [obtain_of_not_holds absent, bind_of_answer found, bind_of_error failed]
    | ok _ =>
      exact .inr ⟨information,
        fun history => (steady.resolve history [] name).trans resolved,
        fun history => (steady.connect history [] information).trans connected⟩

end Obtain

/-- Asking for a connection is transparent in an action that goes on with it in the same way,
whenever it was opened. -/
theorem transparent_obtain_bind (steady : remote.IsSteady) (change : ConnectivityError → ε)
    {next : Connection → Action ε α} (constant : ∀ connection, Constant (next connection))
    (sameNext : ∀ connection other, connection.information = other.information →
      next connection = next other) :
    Transparent remote name (Session.relabel change (obtain remote name) >>= next) := by
  intro session renewable history
  by_cases holds : session.Holds name
  -- The first run uses the connection that is kept; the other opens one to the same place.
  · obtain ⟨entry, kept, named⟩ := holds
    subst named
    have leads history := (renewable entry kept history).1
    have connects history := (renewable entry kept history).2
    have found := relabel_of_ending (obtain_of_holds remote kept rfl) change
    obtain ⟨opened, renewed⟩ :=
      obtain_of_leads (not_holds_of_none history entry.name) leads connects
    obtain ⟨outcome, calls, opensNone, runs⟩ := constant entry.connection
    have runsRenewed := sameNext ⟨entry.connection.information, opened⟩ entry.connection rfl
    refine ⟨outcome, calls, opening entry.name entry.connection.information ++ calls,
      session.kept, some ⟨entry.name, ⟨entry.connection.information, opened⟩⟩, ?_⟩
    exact
      { ends := by
          rw [bind_of_answer found, runs]
          rfl
        renewedEnds := by
          rw [bind_of_answer (relabel_of_ending renewed change), runsRenewed, runs, withCalls,
            List.append_assoc]
        renewable := renewable
        spares := fun _ => .opened leads (List.forall_mem_nil _) opensNone
        same := fun absent => (absent ⟨entry, kept, rfl⟩).elim }
  -- Both runs look the name up, and what comes of that is the same.
  · obtain ⟨error, calls, fails⟩ | ⟨information, leads, connects⟩ :=
      obtain_fails_or_leads steady name
    · refine ⟨.error (change error), calls, calls, session.kept, none, ?_⟩
      exact
        { ends := bind_of_error (relabel_of_ending (fails session holds) change) next
          renewedEnds := bind_of_error
            (relabel_of_ending (fails ⟨history, none⟩ (not_holds_of_none history name)) change) next
          renewable := renewable
          spares := fun holds' => (holds holds').elim
          same := fun _ => rfl }
    · obtain ⟨opened, found⟩ := obtain_of_leads holds leads connects
      obtain ⟨reopened, renewed⟩ :=
        obtain_of_leads (not_holds_of_none history name) leads connects
      obtain ⟨outcome, calls, opensNone, runs⟩ := constant ⟨information, opened⟩
      have runsRenewed := sameNext ⟨information, reopened⟩ ⟨information, opened⟩ rfl
      refine ⟨outcome, opening name information ++ calls, opening name information ++ calls,
        some ⟨name, ⟨information, opened⟩⟩, some ⟨name, ⟨information, reopened⟩⟩, ?_⟩
      exact
        { ends := by
            rw [bind_of_answer (relabel_of_ending found change), runs, withCalls,
              List.append_assoc]
          renewedEnds := by
            rw [bind_of_answer (relabel_of_ending renewed change), runsRenewed, runs, withCalls,
              List.append_assoc]
          renewable := by
            rintro entry ⟨rfl⟩ later
            exact ⟨leads later, connects later⟩
          spares := fun holds' => (holds holds').elim
          same := fun _ => rfl }

end Session

end Pushdown
