/-
Module: Pushdown.Proofs.Sql.Outcome
Purpose: Which trees have a statement, and what a limit on nesting changes about that.
Main exports: Aliases.Valid, Generator.statement_succeeds_iff, Generator.renderFrom_level,
  Generator.nesting_limit_exact
-/
import Pushdown.Proofs.Dialect
import Pushdown.Proofs.Sql.WellFormed
import Pushdown.Proofs.Vocabulary

namespace Pushdown

/-!
A tree has a statement if each of its nodes has a form, as far as the limit leaves room for the
tree.  The limit has no other effect: a tree that is too high fails, a tree that is not is treated
as under any larger limit, and a generator is on the same level after a tree as it was before,
whatever became of the tree.  So the trees that a generator has seen make no difference to those
that come after them.
-/

namespace Aliases

/-- Whether only functions that are called by name have names or operators of their own. -/
structure Valid (aliases : Aliases) : Prop where
  scalar : ∀ function, aliases.renames function → function.isSimple
  aggregate : ∀ function, (aliases.aggregate function).isSome → function.isSimple

end Aliases

/-- A search for members that are renamed and not simple finds none if all renamed ones are. -/
theorem find?_refused_eq_none_iff {α : Type} {all : List α} (complete : ∀ member, member ∈ all)
    (simple renamed : α → Bool) :
    (all.find? fun member => !simple member && renamed member) = none ↔
      ∀ member, renamed member → simple member := by
  rw [List.find?_eq_none]
  constructor
  · intro free member isRenamed
    simpa [isRenamed] using free member (complete member)
  · intro allSimple member _
    cases isRenamed : renamed member with
    | false => simp
    | true => simp [allSimple member isRenamed]

/-- No function is refused exactly if the aliases are valid. -/
theorem Aliases.firstRefused?_eq_none_iff (aliases : Aliases) :
    aliases.firstRefused? = none ↔ aliases.Valid := by
  have scalarFree := find?_refused_eq_none_iff ScalarFunction.mem_all
    ScalarFunction.isSimple aliases.renames
  have aggregateFree := find?_refused_eq_none_iff AggregateFunction.mem_all
    AggregateFunction.isSimple fun function => (aliases.aggregate function).isSome
  unfold firstRefused?
  constructor
  · intro accepted
    split at accepted
    · cases accepted
    · split at accepted
      · cases accepted
      · exact ⟨scalarFree.1 ‹_›, aggregateFree.1 ‹_›⟩
  · intro valid
    rw [scalarFree.2 valid.scalar, aggregateFree.2 valid.aggregate]

namespace Generator

/-- A dialect whose aliases do not contradict each other has a generator.  The dialects of the
library are among them, by a check of each. -/
theorem ofDialect_of_valid {dialect : Dialect} (valid : dialect.aliases.Valid)
    (context : QueryContext) :
    ofDialect dialect context = .ok (dialect.generator context defaultDepthLimit) := by
  unfold ofDialect
  rw [(Aliases.firstRefused?_eq_none_iff _).2 valid]
  rfl

/-! ### Success -/

/-- A tree within the limit has a statement exactly if each of its nodes has a form.  Soundness is a
condition on single nodes, so it can be looked up for each kind of node. -/
theorem statement_succeeds_iff {dialect : Dialect} (valid : dialect.aliases.Valid)
    (context : QueryContext) {limit : Nat} {node : Node} (fits : node.height ≤ limit) :
    ∃ generator, ofDialect dialect context = .ok generator ∧
      ((∃ sql, (generator.within limit).statement node = .ok sql) ↔
        ∀ subnode ∈ node.subnodes, generator.Sound subnode) := by
  refine ⟨_, ofDialect_of_valid valid context, ?_⟩
  simp only [statement_eq_ok_iff]
  -- Success at the default limit is well-formedness, and that is soundness of every node.
  constructor
  · rintro ⟨_, wellFormed, _⟩
    exact wellFormed
  · intro wellFormed
    exact ⟨_, wellFormed, fits, rfl⟩

/-- A dialect of its own, in which remainders are written between two arguments. -/
def remainderDialect : Dialect :=
  { Dialect.generic with
    aliases :=
      { Aliases.standard with
        between := fun function => match function with
          | .mod => some "%"
          | _ => none } }

/-- A remainder within a disjunction. -/
def remainderOf (arguments : List Node) : Node :=
  .junction .disjunction [.scalar .mod arguments]

/-- An operator of a custom dialect takes two operands, and is refused with one. -/
theorem statement_succeeds_iff_remainder :
    ∃ generator, ofDialect remainderDialect {} = .ok generator ∧
      (∃ sql, (generator.within 3).statement
        (remainderOf [.literal .null, .literal (.text "%")]) = .ok sql) ∧
      ¬ ∃ sql, (generator.within 3).statement (remainderOf [.literal .null]) = .ok sql := by
  have valid : remainderDialect.aliases.Valid := (Aliases.firstRefused?_eq_none_iff _).1 rfl
  have fits : (remainderOf [.literal .null, .literal (.text "%")]).height ≤ 3 := by
    simp [remainderOf, Node.height_eq, Node.children]
  have otherFits : (remainderOf [.literal .null]).height ≤ 3 := by
    simp [remainderOf, Node.height_eq, Node.children]
  obtain ⟨generator, created, two⟩ := statement_succeeds_iff valid {} fits
  obtain ⟨other, otherCreated, one⟩ := statement_succeeds_iff valid {} otherFits
  cases created
  cases otherCreated
  refine ⟨_, rfl, two.2 ?_, fun succeeds => ?_⟩
  · simp [remainderOf, Node.subnodes_eq, Node.children, Sound, SoundArity, SoundLiteral,
      remainderDialect, Aliases.standard, ScalarFunction.isSimple]
  · have sound := one.1 succeeds (.scalar .mod [.literal .null])
      (by simp [remainderOf, Node.subnodes_eq, Node.children])
    simp [Sound, SoundArity, remainderDialect, Aliases.standard] at sound

/-! ### The limit on nesting -/

section Limit

variable {generator : Generator} {node : Node} {level after : Nat}

/-- A rendering that answers leaves its level behind. -/
theorem renderFrom_of_ok {sql : Sql} (answered : generator.render node level = .ok sql after) :
    generator.renderFrom level node = (.ok sql, after) := by
  rw [renderFrom, answered]

/-- A rendering that fails leaves its level behind as well. -/
theorem renderFrom_of_error {error : GenerationError}
    (failed : generator.render node level = .error error after) :
    generator.renderFrom level node = (.error error, after) := by
  rw [renderFrom, failed]

end Limit

/-- Every node is guarded.  A rendering is therefore seen from outside as one that counts a level up
and, however it ends, down again. -/
theorem render_guarded (generator : Generator) (node : Node) :
    ∃ body, generator.render node = Rendering.nested generator.depthLimit body := by
  cases node <;> exact ⟨_, by rw [render]⟩

/-- A rendering comes back to the level it was started on, whatever the level and the end, so that
one failure does not use up the limit of the next rendering. -/
theorem renderFrom_level (generator : Generator) (level : Nat) (node : Node) :
    (generator.renderFrom level node).2 = level := by
  by_cases started : level ≤ generator.depthLimit
  · rcases (generator.render_settles node).ends started with ⟨sql, answered⟩ | ⟨error, failed⟩
    · have here : generator.render node level = .ok sql level := answered
      rw [renderFrom_of_ok here]
    · have here : generator.render node level = .error error level := failed
      rw [renderFrom_of_error here]
  · obtain ⟨body, guarded⟩ := generator.render_guarded node
    have full : generator.depthLimit ≤ level := by omega
    have failed :
        generator.render node level = .error (.maxRecursion generator.depthLimit) level := by
      rw [guarded, Rendering.nested, if_pos full]
    rw [renderFrom_of_error failed]

/-- Trees that are rendered one after the other are rendered as if each were the first. -/
theorem statementsFrom_eq_map (generator : Generator) (level : Nat) (nodes : List Node) :
    generator.statementsFrom level nodes =
      nodes.map fun node => (generator.renderFrom level node).1 := by
  induction nodes with
  | nil => rfl
  | cons node rest inductionHypothesis =>
    rw [statementsFrom, renderFrom_level, inductionHypothesis, List.map_cons]

/-- A tree within the limit is never stopped by the guard, and a larger limit changes nothing. -/
theorem statement_of_fits (dialect : Dialect) (context : QueryContext) {limit : Nat} {node : Node}
    (fits : node.height ≤ limit) :
    (∀ bound, (dialect.generator context limit).statement node ≠ .error (.maxRecursion bound)) ∧
      ∀ larger, limit ≤ larger →
        (dialect.generator context larger).statement node =
          (dialect.generator context limit).statement node := by
  have settled := (dialect.generator context 0).render_settles node
  by_cases wellFormed : (dialect.generator context 0).WellFormed node
  · have answer : ∀ enough, node.height ≤ enough →
        (dialect.generator context enough).statement node =
          .ok ((dialect.generator context 0).written node) := fun enough room =>
      congrArg Prod.fst
        (renderFrom_of_ok (settled.answers wellFormed enough 0 (by omega)))
    rw [answer limit fits]
    refine ⟨fun bound => by simp, fun larger more => ?_⟩
    rw [answer larger (by omega)]
  · obtain ⟨error, own, fails⟩ := settled.refuses wellFormed
    have answer : ∀ enough, node.height ≤ enough →
        (dialect.generator context enough).statement node = .error error := fun enough room =>
      congrArg Prod.fst (renderFrom_of_error (fails enough 0 (by omega)))
    rw [answer limit fits]
    refine ⟨fun bound same => ?_, fun larger more => ?_⟩
    · cases same
      exact own bound rfl
    · rw [answer larger (by omega)]

/-- A tree above the limit has no statement; if it is well formed, the guard says so.  Otherwise
another error may come first, since nodes are rendered from left to right. -/
theorem statement_of_high (dialect : Dialect) (context : QueryContext) {limit : Nat} {node : Node}
    (high : limit < node.height) :
    (∃ error, (dialect.generator context limit).statement node = .error error) ∧
      ((dialect.generator context limit).WellFormed node →
        (dialect.generator context limit).statement node = .error (.maxRecursion limit)) := by
  have settled := (dialect.generator context limit).render_settles node
  have overflow : (dialect.generator context limit).WellFormed node →
      (dialect.generator context limit).statement node = .error (.maxRecursion limit) :=
    fun wellFormed => congrArg Prod.fst
      (renderFrom_of_error (settled.overflows wellFormed limit 0 (by omega) (by omega)))
  refine ⟨?_, overflow⟩
  by_cases wellFormed : (dialect.generator context limit).WellFormed node
  · exact ⟨_, overflow wellFormed⟩
  · obtain ⟨error, fails⟩ := settled.stops wellFormed limit 0 (by omega) (by omega)
    exact ⟨error, congrArg Prod.fst (renderFrom_of_error fails)⟩

/-- The guard is exact: it stops well-formed trees above the limit and no others, and the limit
makes no difference to trees within it.  No rendering leaves a trace on the level, so a generator
treats each of several trees like a new generator. -/
theorem nesting_limit_exact (dialect : Dialect) (context : QueryContext) (limit : Nat)
    (node : Node) :
    (node.height ≤ limit →
      (∀ bound, (dialect.generator context limit).statement node ≠
        .error (.maxRecursion bound)) ∧
      ∀ larger, limit ≤ larger →
        (dialect.generator context larger).statement node =
          (dialect.generator context limit).statement node) ∧
    (limit < node.height →
      (∃ error, (dialect.generator context limit).statement node = .error error) ∧
      ((dialect.generator context limit).WellFormed node →
        (dialect.generator context limit).statement node = .error (.maxRecursion limit))) ∧
    (∀ level, ((dialect.generator context limit).renderFrom level node).2 = level) ∧
    ∀ nodes, (dialect.generator context limit).statements nodes =
      nodes.map (dialect.generator context limit).statement :=
  ⟨statement_of_fits dialect context, statement_of_high dialect context,
    fun level => renderFrom_level _ level node, statementsFrom_eq_map _ 0⟩

/-- A negation of a negation. -/
def doubleNegation : Node := .not (.not (.literal (.bool true)))

/-- A tree of three levels is rendered within a limit of three, and refused within two without harm
to the next. -/
theorem nesting_limit_exact_double_negation :
    (∀ bound, (Dialect.generic.generator {} 3).statement doubleNegation ≠
      .error (.maxRecursion bound)) ∧
    (Dialect.generic.generator {} 256).statement doubleNegation =
      (Dialect.generic.generator {} 3).statement doubleNegation ∧
    (Dialect.generic.generator {} 2).statements [doubleNegation, .literal .null] =
      [.error (.maxRecursion 2), (Dialect.generic.generator {} 2).statement (.literal .null)] := by
  have height : doubleNegation.height = 3 := by
    simp [doubleNegation, Node.height_eq, Node.children]
  have wellFormed : (Dialect.generic.generator {} 2).WellFormed doubleNegation := by
    simp [WellFormed, doubleNegation, Node.subnodes_eq, Node.children, Sound, SoundLiteral]
  obtain ⟨fits, -, -, -⟩ := nesting_limit_exact Dialect.generic {} 3 doubleNegation
  obtain ⟨-, high, -, several⟩ := nesting_limit_exact Dialect.generic {} 2 doubleNegation
  obtain ⟨neverStopped, sameUnder⟩ := fits (by omega)
  refine ⟨neverStopped, sameUnder 256 (by omega), ?_⟩
  rw [several, List.map_cons, (high (by omega)).2 wellFormed]
  rfl

end Generator

end Pushdown
