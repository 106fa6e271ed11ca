/-
Module: Pushdown.Proofs.Remote.Provenance
Purpose: Where a connection comes from that is handed out, and how long one is kept.
Main exports: Session.Demand, Session.afterDemands, Session.Stems, Session.stems_of_kept,
  Session.isConnected_iff, Session.obtain_afterDemands
-/
import Mathlib.Data.List.Induction
import Pushdown.Proofs.Remote.Steady

namespace Pushdown.Session

/-!
A session is asked for connections under names, and is told at times to give up the one it keeps.
The source may answer the same question differently each time.  Asking ends in one of four ways:
the connection that is kept has the name, or the name leads nowhere, or no connection can be opened
to where it leads, or one is opened and kept.  So whatever is kept was opened by an earlier demand
for its name, and no demand since then has displaced it.
-/

/-- What may be demanded of the connection that is kept. -/
inductive Demand where
  | obtain (name : String)
  | clear
deriving Repr, DecidableEq

/-- The session that a demand leaves behind. -/
def afterDemand (remote : Remote) (session : Session) : Demand → Session
  | .obtain name => after (obtain remote name) session
  | .clear => after (clear : Action ConnectivityError Unit) session

/-- The session that demands leave behind, made one after the other from a session on. -/
def afterDemands (remote : Remote) (session : Session) (demands : List Demand) : Session :=
  demands.foldl (afterDemand remote) session

/-- Whether a connection is had by asking for it in a session. -/
def Grants (remote : Remote) (session : Session) (name : String) : Prop :=
  ∃ connection last, obtain remote name session = .ok connection last

/-- Whether a demand takes a connection out of its place: it gives up whatever is kept, or gets a
connection under another name. -/
def Demand.Displaces (remote : Remote) (session : Session) (name : String) : Demand → Prop
  | .obtain other => other ≠ name ∧ Grants remote session other
  | .clear => True

/-- Whether no demand of several displaces a connection, made one after the other from a session
on. -/
def Lasts (remote : Remote) (session : Session) (name : String) (demands : List Demand) : Prop :=
  ∀ front demand back, demands = front ++ demand :: back →
    ¬ demand.Displaces remote (afterDemands remote session front) name

/-! ### One demand -/

variable {remote : Remote} {session : Session} {name : String}

section Obtained

variable {outcome : Except ConnectivityError Connection} {last : Session}

/-- A connection that is granted is from then on the one that is kept under the name.  It is either
the one that was kept before or the one that was opened. -/
theorem Obtained.kept_of_ok {connection : Connection}
    (obtained : Obtained remote session name (.ok connection) last) :
    last.kept = some ⟨name, connection⟩ := by
  cases obtained with
  | reused kept named =>
    subst named
    exact kept
  | opened opens => rfl

/-- Whoever gets no connection leaves alone the one that is kept.  A demand under another name can
therefore fail without any loss. -/
theorem Obtained.kept_of_error {error : ConnectivityError}
    (obtained : Obtained remote session name (.error error) last) : last.kept = session.kept := by
  cases obtained with
  | unresolved absent failed => rfl
  | unconnected absent leads failed => rfl

/-- Where none is kept under the name, the name is looked up once, and a connection is asked for
once if the name leads somewhere. -/
theorem Obtained.calls_of_not_holds (obtained : Obtained remote session name outcome last)
    (absent : ¬ session.Holds name) :
    last.calls = session.calls ++
      match remote.resolve session.calls name with
      | .ok information => opening name information
      | .error _ => [.resolve name] := by
  cases obtained with
  | reused kept named => exact absurd ⟨_, kept, named⟩ absent
  | unresolved absent failed => rw [failed, calls_withCalls]
  | unconnected absent leads failed => rw [leads, calls_withCalls]
  | opened opens => rw [opens.leads]

end Obtained

/-- A demand that opens a connection is granted. -/
theorem Opens.grants {connection : Connection} (opens : Opens remote session name connection) :
    Grants remote session name := by
  obtain ⟨outcome, last, obtained, ended⟩ := obtain_obtained remote session name
  cases obtained with
  | reused kept named => exact absurd ⟨_, kept, named⟩ opens.absent
  | unresolved absent failed => cases failed.symm.trans opens.leads
  | unconnected absent leads failed =>
    cases leads.symm.trans opens.leads
    cases failed.symm.trans opens.connects
  | opened opens => exact ⟨_, _, ended⟩

/-- Where none is kept under the name, a connection is had exactly if one can be opened. -/
theorem grants_iff (absent : ¬ session.Holds name) :
    Grants remote session name ↔ ∃ connection, Opens remote session name connection := by
  constructor
  · rintro ⟨connection, after, granted⟩
    obtain ⟨outcome, last, obtained, ended⟩ := obtain_obtained remote session name
    cases obtained with
    | reused kept named => exact absurd ⟨_, kept, named⟩ absent
    | unresolved absent failed => cases granted.symm.trans ended
    | unconnected absent leads failed => cases granted.symm.trans ended
    | opened opens => exact ⟨_, opens⟩
  · rintro ⟨connection, opens⟩
    exact opens.grants

/-! ### One demand after the other -/

theorem afterDemands_append (remote : Remote) (session : Session) (front back : List Demand) :
    afterDemands remote session (front ++ back) =
      afterDemands remote (afterDemands remote session front) back :=
  List.foldl_append

theorem lasts_nil : Lasts remote session name [] := by
  intro front demand back split
  cases front <;> cases split

variable {demands : List Demand} {demand : Demand}

/-- A connection lasts on if the next demand does not displace it.  Demands under its own name and
demands that fail leave it in place. -/
theorem Lasts.concat (lasts : Lasts remote session name demands)
    (spared : ¬ demand.Displaces remote (afterDemands remote session demands) name) :
    Lasts remote session name (demands ++ [demand]) := by
  intro front other back split
  rcases List.eq_nil_or_concat back with rfl | ⟨middle, final, rfl⟩
  · obtain ⟨rfl, same⟩ := List.append_inj' split rfl
    cases same
    exact spared
  · rw [List.concat_eq_append, ← List.cons_append, ← List.append_assoc] at split
    obtain ⟨same, -⟩ := List.append_inj' split rfl
    exact lasts front other middle same

/-- Nothing was cleared as long as a connection lasts.  Demands that open and demands that clear are
the only ways to lose one. -/
theorem Lasts.not_mem_clear (lasts : Lasts remote session name demands) : .clear ∉ demands := by
  intro member
  obtain ⟨front, back, split⟩ := List.append_of_mem member
  exact lasts front .clear back split trivial

/-- Where a connection under a name comes from, after demands to a new session: one of them opened
it, and none of those that followed displaced it. -/
def Stems (remote : Remote) (demands : List Demand) (name : String) (connection : Connection) :
    Prop :=
  ∃ before since, demands = before ++ .obtain name :: since ∧
    Opens remote (afterDemands remote .fresh before) name connection ∧
    Lasts remote (afterDemands remote .fresh (before ++ [.obtain name])) name since

/-- Where a connection stems from does not change by a demand that does not displace it. -/
theorem Stems.concat {connection : Connection} (stems : Stems remote demands name connection)
    (spared : ¬ demand.Displaces remote (afterDemands remote .fresh demands) name) :
    Stems remote (demands ++ [demand]) name connection := by
  obtain ⟨before, since, rfl, opens, lasts⟩ := stems
  refine ⟨before, since ++ [demand], ?_, opens, lasts.concat ?_⟩
  · rw [List.append_assoc, List.cons_append]
  · rw [← afterDemands_append, List.append_assoc]
    exact spared

/-- What is kept after some demands was opened by one of them, and lasts: no demand since then has
displaced it. -/
theorem stems_of_kept {entry : NamedConnection}
    (kept : (afterDemands remote .fresh demands).kept = some entry) :
    Stems remote demands entry.name entry.connection := by
  -- On the demands from the last one back: it spares what was kept before it, or opens anew.
  induction demands using List.reverseRecOn generalizing entry with
  | nil => cases kept
  | append_singleton earlier demand inductionHypothesis =>
    rw [afterDemands_append] at kept
    cases demand with
    | clear => cases kept
    | obtain name =>
      obtain ⟨outcome, last, obtained, ended⟩ :=
        obtain_obtained remote (afterDemands remote .fresh earlier) name
      have left : afterDemands remote (afterDemands remote .fresh earlier) [.obtain name] = last :=
        after_of_ending ended
      rw [left] at kept
      cases outcome with
      | error error =>
        rw [obtained.kept_of_error] at kept
        apply (inductionHypothesis kept).concat
        rintro ⟨-, connection, after, granted⟩
        rw [ended] at granted
        cases granted
      | ok connection =>
        cases obtained with
        | reused keptBefore named =>
          cases keptBefore.symm.trans kept
          apply (inductionHypothesis keptBefore).concat
          rintro ⟨other, -⟩
          exact other named.symm
        | opened opens =>
          cases kept
          exact ⟨earlier, [], rfl, opens, lasts_nil⟩

/-- Once there is a connection, only clearing leaves a session without one.  Being displaced by
another one is no loss in this respect. -/
theorem isConnected_afterDemands (connected : session.isConnected)
    (uncleared : .clear ∉ demands) : (afterDemands remote session demands).isConnected := by
  induction demands generalizing session with
  | nil => exact connected
  | cons demand rest inductionHypothesis =>
    have unclearedRest : .clear ∉ rest := fun member => uncleared (.tail _ member)
    have stillConnected : (afterDemand remote session demand).isConnected := by
      cases demand with
      | clear => exact absurd List.mem_cons_self uncleared
      | obtain name =>
        obtain ⟨outcome, last, obtained, ended⟩ := obtain_obtained remote session name
        rw [afterDemand, after_of_ending ended, isConnected]
        cases outcome with
        | ok connection =>
          rw [obtained.kept_of_ok]
          rfl
        | error error =>
          rw [obtained.kept_of_error]
          exact connected
    exact inductionHypothesis stillConnected unclearedRest

/-- A connection is kept exactly if one was granted since something was last given up.  The last
demand to clear is the point from which the history counts. -/
theorem isConnected_iff :
    (afterDemands remote .fresh demands).isConnected ↔
      ∃ before name since, demands = before ++ .obtain name :: since ∧
        Grants remote (afterDemands remote .fresh before) name ∧ .clear ∉ since := by
  constructor
  · intro connected
    obtain ⟨entry, kept⟩ := Option.isSome_iff_exists.1 connected
    obtain ⟨before, since, split, opens, lasts⟩ := stems_of_kept kept
    exact ⟨before, entry.name, since, split, opens.grants, lasts.not_mem_clear⟩
  · rintro ⟨before, name, since, rfl, ⟨connection, last, granted⟩, uncleared⟩
    rw [afterDemands_append]
    obtain ⟨outcome, after, obtained, ended⟩ :=
      obtain_obtained remote (afterDemands remote .fresh before) name
    rw [granted] at ended
    cases outcome with
    | error error => cases ended
    | ok connection =>
      have connected : (afterDemand remote (afterDemands remote .fresh before)
          (.obtain name)).isConnected := by
        rw [afterDemand, after_of_ending (granted.trans ended), isConnected, obtained.kept_of_ok]
        rfl
      change (afterDemands remote (afterDemand remote _ (.obtain name)) since).isConnected
      exact isConnected_afterDemands connected uncleared

/-- After any demands to a new session: a connection that is handed out under a name was opened for
that name and has not been displaced since.  One that is kept under the name is handed out without
a call; otherwise the name is looked up once, and a connection is asked for once if it leads
somewhere.  Whoever gets none leaves alone what is kept, and something is kept exactly if a
connection was granted since the last time it was given up. -/
theorem obtain_afterDemands (remote : Remote) (earlier : List Demand) (name : String) :
    (∀ connection last,
      obtain remote name (afterDemands remote .fresh earlier) = .ok connection last →
      Stems remote (earlier ++ [.obtain name]) name connection) ∧
    (∀ entry, (afterDemands remote .fresh earlier).kept = some entry → entry.name = name →
      obtain remote name (afterDemands remote .fresh earlier) =
        .ok entry.connection (afterDemands remote .fresh earlier)) ∧
    (¬ (afterDemands remote .fresh earlier).Holds name →
      (after (obtain remote name) (afterDemands remote .fresh earlier)).calls =
        (afterDemands remote .fresh earlier).calls ++
          (match remote.resolve (afterDemands remote .fresh earlier).calls name with
          | .ok information =>
            [.resolve name, .connect information.address information.user]
          | .error _ => [.resolve name]) ∧
      (Grants remote (afterDemands remote .fresh earlier) name ↔
        ∃ connection, Opens remote (afterDemands remote .fresh earlier) name connection)) ∧
    (∀ error last,
      obtain remote name (afterDemands remote .fresh earlier) = .error error last →
      last.kept = (afterDemands remote .fresh earlier).kept) ∧
    ((afterDemands remote .fresh earlier).isConnected ↔
      ∃ before other since, earlier = before ++ .obtain other :: since ∧
        Grants remote (afterDemands remote .fresh before) other ∧ .clear ∉ since) := by
  obtain ⟨outcome, last, obtained, ended⟩ :=
    obtain_obtained remote (afterDemands remote .fresh earlier) name
  have left := after_of_ending ended
  refine ⟨?_, ?_, ?_, ?_, isConnected_iff⟩
  -- What is handed out is kept, and whatever is kept after some demands stems from one of them.
  · intro connection _ granted
    rw [granted] at ended
    cases outcome with
    | error error => cases ended
    | ok connection =>
      cases ended
      have kept : (afterDemands remote .fresh (earlier ++ [.obtain name])).kept =
          some ⟨name, connection⟩ := by
        rw [afterDemands_append]
        exact (congrArg Session.kept left).trans obtained.kept_of_ok
      exact stems_of_kept kept
  · intro entry kept named
    exact obtain_of_holds remote kept named
  · intro absent
    rw [left]
    exact ⟨obtained.calls_of_not_holds absent, grants_iff absent⟩
  · intro error _ refused
    rw [refused] at ended
    cases outcome with
    | ok connection => cases ended
    | error error =>
      cases ended
      exact obtained.kept_of_error

/-- A source on which one name leads nowhere until some calls have been made. -/
def fickle : Remote where
  resolve history name :=
    if name = "B" ∧ history.length < 4 then .error (.unknownConnection name)
    else .ok ⟨"jdbc:fickle/" ++ name, "reader", ""⟩
  connect _ _ := .ok ()
  provide _ := .error (.connectFailed "")
  prepare _ _ _ := .ok []
  conventions _ _ := .ok .usual
  tables _ _ _ _ _ _ := .ok []
  columns _ _ _ _ _ _ := .ok []

/-- Asked for again, a connection is the first one as long as the other name was asked for in vain,
and a new one afterwards. -/
theorem obtain_afterDemands_fickle :
    Stems fickle [.obtain "A", .obtain "B", .obtain "A"] "A"
        ⟨⟨"jdbc:fickle/A", "reader", ""⟩, 1⟩ ∧
      Stems fickle [.obtain "A", .obtain "B", .obtain "B", .obtain "B", .obtain "A"] "A"
        ⟨⟨"jdbc:fickle/A", "reader", ""⟩, 7⟩ := by
  constructor
  · obtain ⟨stems, -⟩ := obtain_afterDemands fickle [.obtain "A", .obtain "B"] "A"
    exact stems _ _ rfl
  · obtain ⟨stems, -⟩ :=
      obtain_afterDemands fickle [.obtain "A", .obtain "B", .obtain "B", .obtain "B"] "A"
    exact stems _ _ rfl

end Pushdown.Session
