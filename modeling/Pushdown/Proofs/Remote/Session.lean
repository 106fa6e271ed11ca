/-
Module: Pushdown.Proofs.Remote.Session
Purpose: How an action on a session ends, and what it takes for it to answer.
Main exports: Session.withCalls, Session.ending, Session.bind_of_answer, Session.bind_of_error,
  Session.bind_eq_ok, Session.relabel_eq_ok, Session.settled_eq_ok, Session.resolve_eq_ok,
  Session.Makes, Session.Compositional, Session.FailsWith
-/
import Pushdown.Remote

namespace Pushdown.Session

/-!
An action ends in a session with an answer or an error, and the end of an action in several steps
is found from the ends of its steps, in order.  In the other direction, an action in several steps
answers if each step does: the laws of the second part take such an action apart, from its answer
back to the answers of its steps.  Two properties of actions are kept by all ways of building them:
to make calls of some kind only, and to fail with errors of some kind only.
-/

variable {α β ε ε' : Type}

/-- A session after further calls. -/
def withCalls (session : Session) (made : List Call) : Session :=
  { session with calls := session.calls ++ made }

@[simp] theorem calls_withCalls (session : Session) (made : List Call) :
    (session.withCalls made).calls = session.calls ++ made := rfl

@[simp] theorem kept_withCalls (session : Session) (made : List Call) :
    (session.withCalls made).kept = session.kept := rfl

@[simp] theorem withCalls_nil (session : Session) : session.withCalls [] = session := by
  simp [withCalls]

@[simp] theorem withCalls_withCalls (session : Session) (made later : List Call) :
    (session.withCalls made).withCalls later = session.withCalls (made ++ later) := by
  simp [withCalls]

/-- The end of an action in a session, with its answer or its error. -/
def ending (session : Session) : Except ε α → EStateM.Result ε Session α
  | .ok value => .ok value session
  | .error error => .error error session

@[simp] theorem ending_ok (session : Session) (value : α) :
    session.ending (.ok value : Except ε α) = .ok value session := rfl

@[simp] theorem ending_error (session : Session) (error : ε) :
    session.ending (.error error : Except ε α) = .error error session := rfl

theorem exists_ending (action : Action ε α) (session : Session) :
    ∃ outcome last, action session = ending last outcome := by
  cases ended : action session with
  | ok value last => exact ⟨.ok value, last, rfl⟩
  | error error last => exact ⟨.error error, last, rfl⟩

/-! ### From the steps to the end -/

theorem settled_ending (outcome : Except ε α) (session : Session) :
    settled outcome session = session.ending outcome := by
  cases outcome <;> rfl

theorem call_ending (made : Call) (answer : List Call → Except ConnectivityError α)
    (session : Session) :
    call made answer session = (session.withCalls [made]).ending (answer session.calls) := by
  unfold call
  cases answer session.calls <;> rfl

/-- Where the first step answers, the rest goes on from the session in which it ended.  Runs are
followed through by this lemma and its counterpart for errors, without unfolding the monad. -/
theorem bind_of_answer {first : Action ε α} {before middle : Session} {value : α}
    (answered : first before = middle.ending (.ok value)) (next : α → Action ε β) :
    (first >>= next) before = next value middle := by
  change EStateM.bind first next before = _
  rw [EStateM.bind, answered]
  rfl

/-- Where the first step fails, nothing else is done, and the session is as it left it. -/
theorem bind_of_error {first : Action ε α} {before middle : Session} {error : ε}
    (failed : first before = middle.ending (.error error)) (next : α → Action ε β) :
    (first >>= next) before = middle.ending (.error error) := by
  change EStateM.bind first next before = _
  rw [EStateM.bind, failed]
  rfl

/-- An action whose answer is put into another form ends where it ended before. -/
theorem map_of_ending {action : Action ε α} {before after : Session} {outcome : Except ε α}
    (ended : action before = after.ending outcome) (form : α → β) :
    (action >>= fun value => pure (form value)) before = after.ending (outcome.map form) := by
  cases outcome with
  | ok value =>
    rw [bind_of_answer ended]
    rfl
  | error error => exact bind_of_error ended _

/-- Other words for an error change neither the calls nor what is kept.  Errors can therefore be
left aside where calls are counted. -/
theorem relabel_of_ending {action : Action ε α} {before after : Session} {outcome : Except ε α}
    (ended : action before = after.ending outcome) (change : ε → ε') :
    relabel change action before = after.ending (outcome.mapError change) := by
  unfold relabel
  rw [ended]
  cases outcome <;> rfl

/-- A call that is answered, with its errors put in other words. -/
theorem relabel_call_of_answer {made : Call} {answer : List Call → Except ConnectivityError α}
    {before : Session} {value : α} (answered : answer before.calls = .ok value)
    (change : ConnectivityError → ε) :
    relabel change (call made answer) before = (before.withCalls [made]).ending (.ok value) := by
  rw [relabel_of_ending (call_ending made answer before), answered]
  rfl

/-- A call that fails, with its errors put in other words. -/
theorem relabel_call_of_error {made : Call} {answer : List Call → Except ConnectivityError α}
    {before : Session} {error : ConnectivityError} (failed : answer before.calls = .error error)
    (change : ConnectivityError → ε) :
    relabel change (call made answer) before =
      (before.withCalls [made]).ending (.error (change error)) := by
  rw [relabel_of_ending (call_ending made answer before), failed]
  rfl

/-! ### From the answer back to the steps -/

/-- Two steps answer if the first one answers and the second one does in the session between.  An
action in many steps is taken apart with it, from the last answer backwards. -/
theorem bind_eq_ok {first : Action ε α} {next : α → Action ε β} {before after : Session}
    {value : β} :
    (first >>= next) before = .ok value after ↔
      ∃ middle answer, first before = .ok answer middle ∧ next answer middle = .ok value after := by
  change EStateM.bind first next before = _ ↔ _
  rw [EStateM.bind]
  cases first before with
  | ok answer middle =>
    constructor
    · intro answered
      exact ⟨middle, answer, rfl, answered⟩
    · rintro ⟨middle', answer', same, answered⟩
      cases same
      exact answered
  | error error middle => simp

theorem pure_eq_ok {answer value : α} {before after : Session} :
    (pure answer : Action ε α) before = .ok value after ↔ answer = value ∧ before = after := by
  change EStateM.Result.ok answer before = _ ↔ _
  simp

/-- Other words for an error do not make an action answer that did not.  So an answer is that of the
action itself. -/
theorem relabel_eq_ok {change : ε → ε'} {action : Action ε α} {before after : Session}
    {value : α} :
    relabel change action before = .ok value after ↔ action before = .ok value after := by
  unfold relabel
  cases action before with
  | ok answer middle => simp
  | error error middle => simp

/-- What is settled beforehand answers without a call.  The session behind it is the one before
it. -/
theorem settled_eq_ok {outcome : Except ε α} {before after : Session} {value : α} :
    settled outcome before = .ok value after ↔ outcome = .ok value ∧ before = after := by
  cases outcome with
  | ok answer =>
    rw [settled, pure_eq_ok]
    simp
  | error error =>
    change EStateM.Result.error error before = _ ↔ _
    simp

/-- A call that answers is recorded behind those before, and its answer depends on these alone. -/
theorem call_eq_ok {made : Call} {answer : List Call → Except ConnectivityError α}
    {before after : Session} {value : α} :
    call made answer before = .ok value after ↔
      answer before.calls = .ok value ∧
        after = { before with calls := before.calls ++ [made] } := by
  unfold call
  cases answer before.calls with
  | ok value' => simp [eq_comm]
  | error error => simp

/-- A name that is resolved is recorded as asked for, and nothing else is.  No connection is opened
or given up by it. -/
theorem resolve_eq_ok {remote : Remote} {name : String} {before after : Session}
    {information : ConnectionInformation} :
    resolve remote name before = .ok information after ↔
      remote.resolve before.calls name = .ok information ∧
        after = { before with calls := before.calls ++ [.resolve name] } :=
  call_eq_ok

/-! ### Which calls an action makes -/

/-- Whether an action makes calls of some kind only, however it ends, and leaves alone what is
kept. -/
def Makes (kind : Call → Prop) (action : Action ε α) : Prop :=
  ∀ session, ∃ made outcome, (∀ call ∈ made, kind call) ∧
    action session = (session.withCalls made).ending outcome

section Makes

variable {kind : Call → Prop}

theorem makes_settled (outcome : Except ε α) : Makes kind (settled outcome) := by
  intro session
  refine ⟨[], outcome, nofun, ?_⟩
  rw [settled_ending, withCalls_nil]

theorem makes_pure (value : α) : Makes kind (pure value : Action ε α) :=
  makes_settled (.ok value)

/-- A call is made whether or not it is answered, so its kind is all that matters.  What the source
answers is seen by the steps behind it. -/
theorem makes_call {made : Call} (isKind : kind made)
    (answer : List Call → Except ConnectivityError α) : Makes kind (call made answer) := by
  intro session
  refine ⟨[made], answer session.calls, ?_, call_ending made answer session⟩
  intro other member
  rw [List.mem_singleton.1 member]
  exact isKind

theorem Makes.relabel {action : Action ε α} (makes : Makes kind action) (change : ε → ε') :
    Makes kind (relabel change action) := by
  intro session
  obtain ⟨made, outcome, isKind, ended⟩ := makes session
  exact ⟨made, outcome.mapError change, isKind, relabel_of_ending ended change⟩

/-- Two steps make calls of a kind if both do, whatever the answer between them is.  This carries
the property through whole actions, step by step. -/
theorem Makes.bind {first : Action ε α} {next : α → Action ε β} (inFirst : Makes kind first)
    (inNext : ∀ value, Makes kind (next value)) : Makes kind (first >>= next) := by
  intro session
  obtain ⟨made, outcome, isKind, ended⟩ := inFirst session
  cases outcome with
  | error error => exact ⟨made, .error error, isKind, bind_of_error ended next⟩
  | ok value =>
    obtain ⟨later, laterOutcome, laterKind, laterEnded⟩ := inNext value (session.withCalls made)
    refine ⟨made ++ later, laterOutcome, ?_, ?_⟩
    · intro call member
      exact (List.mem_append.1 member).elim (isKind call) (laterKind call)
    · rw [bind_of_answer ended, laterEnded, withCalls_withCalls]

/-- An action that answers has made its calls after those before, and nothing else.  No connection
was opened or given up by it. -/
theorem Makes.withCalls_of_ok {action : Action ε α} (makes : Makes kind action)
    {before after : Session} {value : α} (answered : action before = .ok value after) :
    ∃ made, after = before.withCalls made := by
  obtain ⟨made, outcome, -, ended⟩ := makes before
  rw [ended] at answered
  cases outcome with
  | ok value =>
    cases answered
    exact ⟨made, rfl⟩
  | error error => cases answered

/-- A call is made first, whatever its answer, and then what the rest makes. -/
theorem call_bind_makes (made : Call) (answer : List Call → Except ConnectivityError α)
    (change : ConnectivityError → ε) {next : α → Action ε β}
    (makes : ∀ value, Makes kind (next value)) (session : Session) :
    ∃ later outcome, (∀ call ∈ later, kind call) ∧
      (relabel change (call made answer) >>= next) session =
        (session.withCalls (made :: later)).ending outcome := by
  cases answered : answer session.calls with
  | error error => exact ⟨[], _, nofun, bind_of_error (relabel_call_of_error answered change) next⟩
  | ok value =>
    obtain ⟨later, outcome, isKind, ended⟩ := makes value (session.withCalls [made])
    refine ⟨later, outcome, isKind, ?_⟩
    rw [bind_of_answer (relabel_call_of_answer answered change), ended, withCalls_withCalls]
    rfl

end Makes

/-! ### Properties of actions that are put together -/

/-- Whether a property holds of all that is settled beforehand, and passes from steps to the action
that they make, and to an action with its errors in other words.  Of an action that is put together
in these ways, only the calls need to be looked at. -/
structure Compositional (property : ∀ {ε α : Type}, Action ε α → Prop) : Prop where
  settled {ε α : Type} (outcome : Except ε α) : property (Session.settled outcome)
  relabel {ε ε' α : Type} {action : Action ε α} (holds : property action) (change : ε → ε') :
    property (Session.relabel change action)
  bind {ε α β : Type} {first : Action ε α} {next : α → Action ε β} (inFirst : property first)
    (inNext : ∀ value, property (next value)) : property (first >>= next)

theorem makes_compositional {kind : Call → Prop} : Compositional (Makes kind) :=
  ⟨makes_settled, Makes.relabel, Makes.bind⟩

/-! ### Which errors an action fails with -/

/-- Whether an action fails with errors of some kind only, whatever the session. -/
def FailsWith (kind : ε → Prop) (action : Action ε α) : Prop :=
  ∀ before error after, action before = .error error after → kind error

section FailsWith

variable {kind : ε → Prop}

theorem failsWith_settled {outcome : Except ε α}
    (isKind : ∀ error, outcome = .error error → kind error) :
    FailsWith kind (settled outcome) := by
  intro before error after failed
  rw [settled_ending] at failed
  cases outcome with
  | ok value => cases failed
  | error cause =>
    cases failed
    exact isKind error rfl

theorem failsWith_pure (value : α) : FailsWith kind (pure value : Action ε α) := by
  intro before error after failed
  cases failed

theorem failsWith_of_ok {outcome : Except ε α} {value : α} (answered : outcome = .ok value) :
    FailsWith kind (settled outcome) := by
  rw [answered]
  exact failsWith_pure value

theorem failsWith_throw {error : ε} (isKind : kind error) :
    FailsWith kind (throw error : Action ε α) := by
  intro before cause after failed
  cases failed
  exact isKind

theorem FailsWith.imp {other : ε → Prop} {action : Action ε α} (fails : FailsWith kind action)
    (weaker : ∀ error, kind error → other error) : FailsWith other action :=
  fun before error after failed => weaker error (fails before error after failed)

/-- The errors of relabelled actions are those of the action in their new words. -/
theorem FailsWith.relabel {kind : ε' → Prop} {change : ε → ε'} {action : Action ε α}
    (fails : FailsWith (fun error => kind (change error)) action) :
    FailsWith kind (relabel change action) := by
  intro before error after failed
  unfold Session.relabel at failed
  cases ended : action before with
  | ok value middle =>
    rw [ended] at failed
    cases failed
  | error cause middle =>
    rw [ended] at failed
    cases failed
    exact fails before cause _ ended

/-- Whatever goes wrong, the words for it are of some kind.  Where errors are put into the words of
a fault, only these have to be looked at. -/
theorem failsWith_relabel {kind : ε' → Prop} {change : ε → ε'}
    (all : ∀ error, kind (change error)) (action : Action ε α) :
    FailsWith kind (relabel change action) := by
  apply FailsWith.relabel
  intro before error after failed
  exact all error

/-- Two steps fail with errors of a kind if both do, whatever the answer between them is. -/
theorem FailsWith.bind {first : Action ε α} {next : α → Action ε β}
    (inFirst : FailsWith kind first) (inNext : ∀ value, FailsWith kind (next value)) :
    FailsWith kind (first >>= next) := by
  intro before error after failed
  cases ended : first before with
  | ok value middle =>
    rw [bind_of_answer ended] at failed
    exact inNext value middle error after failed
  | error cause middle =>
    rw [bind_of_error ended] at failed
    cases failed
    exact inFirst before error _ ended

end FailsWith

end Pushdown.Session
