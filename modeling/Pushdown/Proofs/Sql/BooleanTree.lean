/-
Module: Pushdown.Proofs.Sql.BooleanTree
Purpose: Boolean trees keep their meaning when their text is read by the precedence of SQL.
Main exports: Node.IsBoolean, Node.truth, Generator.boolean_tree_reparses
-/
import Pushdown.Proofs.Sql.Predicate

namespace Pushdown

/-!
A junction is written in parentheses, so whatever its operands are, its connective is the only one
between them that a reader can take for its own.  The chain of operands is read from the left, and
the truth of what has been read so far is that of the operands so far; induction over the tree
does the rest.
-/

/-- Trees of junctions and negations over predicates and truth values. -/
inductive Node.IsBoolean : Node → Prop
  | literal (value : Bool) : IsBoolean (.literal (.bool value))
  | predicate {node : Node} (isPredicate : node.IsPredicate) : IsBoolean node
  | not {operand : Node} (isBoolean : operand.IsBoolean) : IsBoolean (.not operand)
  | junction (connective : Connective) {operands : List Node} (nonempty : operands ≠ [])
      (each : ∀ operand ∈ operands, operand.IsBoolean) :
      IsBoolean (.junction connective operands)

mutual

/-- The truth of a boolean tree, given the truth of its predicates. -/
def Node.truth (predicateTruth : Node → Bool) : Node → Bool
  | .junction .conjunction operands => allTrue predicateTruth operands
  | .junction .disjunction operands => anyTrue predicateTruth operands
  | .not operand => !operand.truth predicateTruth
  | .literal (.bool value) => value
  | node => predicateTruth node

/-- Whether all of several trees are true. -/
def allTrue (predicateTruth : Node → Bool) : List Node → Bool
  | [] => true
  | node :: rest => node.truth predicateTruth && allTrue predicateTruth rest

/-- Whether any of several trees is true. -/
def anyTrue (predicateTruth : Node → Bool) : List Node → Bool
  | [] => false
  | node :: rest => node.truth predicateTruth || anyTrue predicateTruth rest

end

theorem Node.IsPredicate.truth_eq {node : Node} (isPredicate : node.IsPredicate)
    (predicateTruth : Node → Bool) : node.truth predicateTruth = predicateTruth node := by
  cases isPredicate <;> rfl

/-! ### Parts, chains and parentheses -/

namespace Dialect

variable (dialect : Dialect)

/-- Reads what stands between two connectives. -/
def conjunct (depth : Nat) : List Token → Option (Formula × List Token) :=
  negation (dialect.primary (dialect.formula depth))

/-- The gap before a part does not matter to its reading. -/
theorem conjunct_widen (depth : Nat) (c : Char) (tokens : List Token) :
    dialect.conjunct depth (widen c tokens) = dialect.conjunct depth tokens :=
  negation_widen c (dialect.primary_widen _ c) tokens

variable {dialect}

theorem conjunct_predicate {depth : Nat} {token : Token} {rest : List Token}
    (notNegation : token.isWord "NOT" = false) (notOpening : token.isSign "(" = false) :
    dialect.conjunct depth (token :: rest) = dialect.predicate (token :: rest) := by
  simp only [conjunct, negation, primary, notNegation, notOpening, Bool.false_eq_true, if_false]

/-- What is in parentheses is read by itself. -/
theorem conjunct_parentheses {depth : Nat} {gap : List Char} {inside rest : List Token}
    {formula : Formula}
    (read : dialect.formula depth inside = some (formula, ⟨[], .sign [')']⟩ :: rest)) :
    dialect.conjunct depth (⟨gap, .sign ['(']⟩ :: inside) = some (formula, rest) := by
  have notNegation : (Token.mk gap (.sign ['('])).isWord "NOT" = false := rfl
  have opening : (Token.mk gap (.sign ['('])).isSign "(" = true := rfl
  have closing : (Token.mk [] (.sign [')'])).isSign ")" = true := rfl
  simp only [conjunct, negation, primary, notNegation, opening, closing, read,
    Bool.false_eq_true, if_false, if_true]

/-- A negation is read with the part behind it, which is the one in its parentheses.  It cannot
reach any further, although `NOT` binds less tightly than comparisons. -/
theorem conjunct_not {depth : Nat} {tokens rest : List Token} {formula : Formula}
    (read : dialect.conjunct depth tokens = some (formula, rest)) :
    dialect.conjunct depth (⟨[], .word ['N', 'O', 'T']⟩ :: tokens) =
      some (.not formula, rest) := by
  have isNot : (Token.mk [] (.word ['N', 'O', 'T'])).isWord "NOT" = true := rfl
  rw [conjunct] at read
  simp only [conjunct, negation, isNot, read, if_true]

end Dialect

/-- One part without its keyword behind it is a chain. -/
theorem chain_single {keyword : String} {join : Formula → Formula → Formula}
    {inner : List Token → Option (Formula × List Token)} {tokens rest : List Token}
    {formula : Formula} {next : Token} (read : inner tokens = some (formula, next :: rest))
    (ends : next.isWord keyword = false) :
    chain keyword join inner tokens = some (formula, next :: rest) := by
  simp only [chain, read, List.length_cons, chainEnd, ends, Bool.false_eq_true, if_false]

/-- A part that a closing parenthesis follows is an expression. -/
theorem Dialect.formula_closed {dialect : Dialect} {depth : Nat} {tokens rest : List Token}
    {formula : Formula}
    (read : dialect.conjunct depth tokens = some (formula, ⟨[], .sign [')']⟩ :: rest)) :
    dialect.formula (depth + 1) tokens = some (formula, ⟨[], .sign [')']⟩ :: rest) :=
  chain_single (chain_single read rfl) rfl

namespace Connective

/-- A connective between two expressions. -/
def join : Connective → Formula → Formula → Formula
  | .conjunction => .and
  | .disjunction => .or

/-- The truth of several trees under a connective. -/
def truthOf (connective : Connective) (predicateTruth : Node → Bool) (operands : List Node) :
    Bool :=
  match connective with
  | .conjunction => allTrue predicateTruth operands
  | .disjunction => anyTrue predicateTruth operands

/-- A connective between two truth values. -/
def apply : Connective → Bool → Bool → Bool
  | .conjunction => and
  | .disjunction => or

theorem eval_join (connective : Connective) (assign : String → Bool) (left right : Formula) :
    (connective.join left right).eval assign =
      connective.apply (left.eval assign) (right.eval assign) := by
  cases connective <;> rfl

/-- Chains of one connective may be read from either end.  The generator writes any number of
operands in a row, and the parser pairs them from the left. -/
theorem apply_assoc (connective : Connective) (a b c : Bool) :
    connective.apply (connective.apply a b) c = connective.apply a (connective.apply b c) := by
  cases connective <;> cases a <;> rfl

theorem truthOf_cons (connective : Connective) (predicateTruth : Node → Bool) (node : Node)
    (rest : List Node) :
    connective.truthOf predicateTruth (node :: rest) =
      connective.apply (node.truth predicateTruth) (connective.truthOf predicateTruth rest) := by
  cases connective <;> rfl

theorem apply_truthOf_nil (connective : Connective) (predicateTruth : Node → Bool) (value : Bool) :
    connective.apply value (connective.truthOf predicateTruth []) = value := by
  cases connective <;> cases value <;> rfl

theorem truth_junction (connective : Connective) (predicateTruth : Node → Bool)
    (operands : List Node) :
    (Node.junction connective operands).truth predicateTruth =
      connective.truthOf predicateTruth operands := by
  cases connective <;> rfl

/-- What may follow an operand of a junction. -/
inductive Continues (connective : Connective) : List Token → Prop
  | closing (rest : List Token) : Continues connective (⟨[], .sign [')']⟩ :: rest)
  | more (rest : List Token) :
      Continues connective (⟨[' '], .word connective.keyword.toList⟩ :: rest)

theorem Continues.follows {connective : Connective} {rest : List Token}
    (continues : connective.Continues rest) : Follows rest := by
  cases continues with
  | closing rest => exact .closing rest
  | more rest => exact .connective connective rest

/-- The tokens of further operands. -/
def furtherTokens (connective : Connective) : List Sql → List Token → List Token
  | [], rest => rest
  | part :: parts, rest =>
    ⟨[' '], .word connective.keyword.toList⟩ ::
      widen ' ' (part.onto (connective.furtherTokens parts rest))

/-- Further operands continue the chain, or its parenthesis closes. -/
theorem furtherTokens_continues (connective : Connective) (parts : List Sql)
    (rest : List Token) :
    connective.Continues (connective.furtherTokens parts (⟨[], .sign [')']⟩ :: rest)) := by
  cases parts with
  | nil => exact .closing rest
  | cons part parts => exact .more _

/-- The operands of a junction are read as the first one and those that continue the chain. -/
theorem onto_separated (connective : Connective) (part : Sql) (parts : List Sql)
    (rest : List Token) :
    (Sql.separated (" " ++ connective.keyword ++ " ") (part :: parts)).onto
        (⟨[], .sign [')']⟩ :: rest) =
      part.onto (connective.furtherTokens parts (⟨[], .sign [')']⟩ :: rest)) := by
  induction parts generalizing part with
  | nil => rfl
  | cons second parts inductionHypothesis =>
    have filled := (connective.furtherTokens_continues parts rest).follows.ne_nil
    rw [Sql.separated_cons_cons, Sql.onto_append, Sql.onto_append, inductionHypothesis,
      onto_connective connective (second.onto_ne_nil filled)]
    rfl

/-- Each further operand takes a token at least, so the fuel of the reader suffices for all. -/
theorem length_le_furtherTokens (connective : Connective) (parts : List Sql)
    (rest : List Token) : parts.length ≤ (connective.furtherTokens parts rest).length := by
  induction parts with
  | nil => exact Nat.zero_le _
  | cons part parts inductionHypothesis =>
    have added := part.length_le_onto (connective.furtherTokens parts rest)
    simp only [furtherTokens, List.length_cons, length_widen]
    omega

end Connective

/-! ### Boolean trees -/

/-- Whether a reader reads SQL up to given tokens, as an expression of a given truth. -/
def ReadsAs (inner : List Token → Option (Formula × List Token)) (sql : Sql)
    (truth : (String → Bool) → Bool) (rest : List Token) : Prop :=
  ∃ formula, inner (sql.onto rest) = some (formula, rest) ∧
    ∀ assign, formula.eval assign = truth assign

namespace Generator

variable (generator : Generator)

/-- The truth of predicates by their rendered texts. -/
def predicateTruth (assign : String → Bool) (node : Node) : Bool :=
  assign (settledSql (generator.statement node)).toText

/-- The truth of a tree by the rendered texts of its predicates. -/
def truth (node : Node) (assign : String → Bool) : Bool :=
  node.truth (generator.predicateTruth assign)

variable {generator}

/-- The operands of a junction behind the first one are read one by one. -/
theorem chainEnd_operands (connective : Connective)
    {inner : List Token → Option (Formula × List Token)}
    (blind : ∀ tokens, inner (widen ' ' tokens) = inner tokens) (after : List Token)
    {operands : List Node}
    (each : ∀ operand ∈ operands, ∀ rest, connective.Continues rest →
      ReadsAs inner (generator.written operand) (generator.truth operand) rest)
    (left : Formula) {fuel : Nat} (enough : operands.length ≤ fuel) :
    ∃ formula,
      chainEnd connective.keyword connective.join inner fuel left
          (connective.furtherTokens (operands.map generator.written) (⟨[], .sign [')']⟩ :: after)) =
        some (formula, ⟨[], .sign [')']⟩ :: after) ∧
      ∀ assign, formula.eval assign =
        connective.apply (left.eval assign)
          (connective.truthOf (generator.predicateTruth assign) operands) := by
  have ends : (Token.mk [] (.sign [')'])).isWord connective.keyword = false := rfl
  induction operands generalizing left fuel with
  | nil =>
    refine ⟨left, ?_, fun assign => (connective.apply_truthOf_nil _ _).symm⟩
    cases fuel with
    | zero => rfl
    | succ fuel =>
      simp only [List.map_nil, Connective.furtherTokens, chainEnd, ends, Bool.false_eq_true,
        if_false]
  | cons operand operands inductionHypothesis =>
    rw [List.forall_mem_cons] at each
    obtain ⟨first, read, firstTruth⟩ :=
      each.1 _ (connective.furtherTokens_continues (operands.map generator.written) after)
    match fuel, enough with
    | fuel + 1, enough =>
      -- What was read so far and this operand are the left side for all others.
      obtain ⟨formula, readRest, truth⟩ := inductionHypothesis each.2 (connective.join left first)
        (Nat.le_of_succ_le_succ enough)
      have keyword : (Token.mk [' '] (.word connective.keyword.toList)).isWord
          connective.keyword = true := by
        cases connective <;> rfl
      refine ⟨formula, ?_, fun assign => ?_⟩
      · simp only [List.map_cons, Connective.furtherTokens, chainEnd, keyword, if_true, blind,
          read, readRest]
      · rw [truth, connective.eval_join, firstTruth, connective.truthOf_cons,
          connective.apply_assoc]
        rfl

/-- The operands of a junction are read as a chain.  Their parentheses keep the other connective out
of it. -/
theorem chain_operands (connective : Connective)
    {inner : List Token → Option (Formula × List Token)}
    (blind : ∀ tokens, inner (widen ' ' tokens) = inner tokens) (after : List Token)
    {operands : List Node} (nonempty : operands ≠ [])
    (each : ∀ operand ∈ operands, ∀ rest, connective.Continues rest →
      ReadsAs inner (generator.written operand) (generator.truth operand) rest) :
    ReadsAs (chain connective.keyword connective.join inner)
      (Sql.separated (" " ++ connective.keyword ++ " ") (operands.map generator.written))
      (fun assign => connective.truthOf (generator.predicateTruth assign) operands)
      (⟨[], .sign [')']⟩ :: after) := by
  obtain ⟨operand, operands, rfl⟩ := List.exists_cons_of_ne_nil nonempty
  rw [List.forall_mem_cons] at each
  obtain ⟨first, read, firstTruth⟩ :=
    each.1 _ (connective.furtherTokens_continues (operands.map generator.written) after)
  have enough := connective.length_le_furtherTokens (operands.map generator.written)
    (⟨[], .sign [')']⟩ :: after)
  rw [List.length_map] at enough
  obtain ⟨formula, readRest, truth⟩ :=
    chainEnd_operands connective blind after each.2 first enough
  refine ⟨formula, ?_, fun assign => ?_⟩
  · rw [List.map_cons, connective.onto_separated, chain]
    simp only [read, readRest]
  · rw [truth, firstTruth]
    exact (connective.truthOf_cons _ operand operands).symm

/-- The operands of a junction of either connective are read as one expression.  A conjunction is a
chain within the one disjunct, a disjunction a chain of conjunctions with one part each. -/
theorem formula_operands (connective : Connective) {depth : Nat} {operands : List Node}
    (nonempty : operands ≠ [])
    (each : ∀ operand ∈ operands, ∀ rest, Follows rest →
      ReadsAs (generator.dialect.conjunct depth) (generator.written operand)
        (generator.truth operand) rest) (after : List Token) :
    ReadsAs (generator.dialect.formula (depth + 1))
      (Sql.separated (" " ++ connective.keyword ++ " ") (operands.map generator.written))
      (fun assign => connective.truthOf (generator.predicateTruth assign) operands)
      (⟨[], .sign [')']⟩ :: after) := by
  have blind := generator.dialect.conjunct_widen depth ' '
  cases connective with
  | conjunction =>
    obtain ⟨formula, read, truth⟩ := chain_operands .conjunction blind after nonempty
      fun operand member rest continues => each operand member rest continues.follows
    exact ⟨formula, chain_single read rfl, truth⟩
  | disjunction =>
    refine chain_operands .disjunction (chain_widen ' ' blind) after nonempty ?_
    intro operand member rest continues
    obtain ⟨formula, read, truth⟩ := each operand member rest continues.follows
    refine ⟨formula, ?_, truth⟩
    cases continues with
    | closing rest => exact chain_single read rfl
    | more rest => exact chain_single read rfl

/-- A boolean tree has a form if its operands are not missing, which being boolean includes. -/
theorem wellFormed_boolean (generator : Generator) {node : Node} (isBoolean : node.IsBoolean) :
    generator.WellFormed node := by
  induction isBoolean with
  | literal value =>
    rw [wellFormed_iff]
    simp [Sound, SoundLiteral, Node.children]
  | predicate isPredicate => exact wellFormed_predicate generator isPredicate
  | not _ inductionHypothesis =>
    rw [wellFormed_iff]
    simp [Sound, Node.children, inductionHypothesis]
  | junction connective nonempty _ inductionHypothesis =>
    rw [wellFormed_iff]
    exact ⟨nonempty, inductionHypothesis⟩

/-- A boolean tree is read as an expression of its truth, as one part of whatever it is in. -/
theorem conjunct_boolean (builtin : generator.dialect.IsBuiltin) {node : Node}
    (isBoolean : node.IsBoolean) {depth : Nat} {rest : List Token}
    (fits : node.height ≤ generator.depthLimit) (deep : node.height ≤ depth + 1)
    (follows : Follows rest) :
    ReadsAs (generator.dialect.conjunct depth) (generator.written node) (generator.truth node)
      rest := by
  induction isBoolean generalizing depth rest with
  | literal value =>
    obtain ⟨word, more, onto, notNegation, read⟩ := boolean_read builtin value follows
    refine ⟨.constant value, ?_, fun _ => rfl⟩
    rw [onto, Dialect.conjunct_predicate notNegation rfl, read]
  | @predicate node isPredicate =>
    have rendered : generator.statement node = .ok (generator.written node) :=
      (statement_eq_ok_iff _ _ _).2 ⟨wellFormed_predicate generator isPredicate, fits, rfl⟩
    refine ⟨.predicate (generator.written node).toText, ?_, fun assign => ?_⟩
    · obtain ⟨payload, more, tokens⟩ := predicateTokens_cons generator isPredicate
      rw [← predicate_onto builtin.readable isPredicate follows,
        onto_predicate isPredicate follows, tokens]
      exact Dialect.conjunct_predicate rfl rfl
    · rw [truth, isPredicate.truth_eq, predicateTruth, rendered]
      rfl
  | @not operand isBoolean inductionHypothesis =>
    rw [Node.height_eq] at fits deep
    simp only [Node.children, List.map_cons, List.map_nil, greatest_cons, greatest_nil] at fits deep
    have positive := operand.height_pos
    obtain ⟨depth, rfl⟩ : ∃ inner, depth = inner + 1 := ⟨depth - 1, by omega⟩
    obtain ⟨formula, read, truth⟩ :=
      @inductionHypothesis depth _ (by omega) (by omega) (.closing rest)
    refine ⟨.not formula, ?_, fun assign => ?_⟩
    · simp only [written, Sql.onto_append, onto_not, onto_closing]
      exact Dialect.conjunct_not (Dialect.conjunct_parentheses (Dialect.formula_closed read))
    · rw [Formula.eval, truth]
      rfl
  | @junction connective operands nonempty each inductionHypothesis =>
    rw [Node.height_eq] at fits deep
    simp only [Node.children] at fits deep
    have positive : 0 < greatest (operands.map Node.height) := by
      obtain ⟨operand, rest, rfl⟩ := List.exists_cons_of_ne_nil nonempty
      exact Nat.lt_of_lt_of_le operand.height_pos (Node.height_le_greatest List.mem_cons_self)
    obtain ⟨depth, rfl⟩ : ∃ inner, depth = inner + 1 := ⟨depth - 1, by omega⟩
    have parts : ∀ operand ∈ operands, ∀ following, Follows following →
        ReadsAs (generator.dialect.conjunct depth) (generator.written operand)
          (generator.truth operand) following := by
      intro operand member following follows
      have below := Node.height_le_greatest member
      exact inductionHypothesis operand member (by omega) (by omega) follows
    obtain ⟨formula, read, truth⟩ := formula_operands connective nonempty parts rest
    refine ⟨formula, ?_, fun assign => ?_⟩
    · simp only [written, writtenEach_eq_map, Sql.onto_append, onto_opening, onto_closing]
      exact Dialect.conjunct_parentheses read
    · rw [truth]
      exact (connective.truth_junction _ operands).symm

/-! ### Nesting -/

/-- Each row is at most as long as all rows with separators between them. -/
theorem length_le_separated (separator : String) {part : Sql} {parts : List Sql}
    (member : part ∈ parts) :
    part.chars.length ≤ (Sql.separated separator parts).chars.length := by
  induction parts with
  | nil => cases member
  | cons first rest inductionHypothesis =>
    cases rest with
    | nil =>
      obtain rfl := List.mem_singleton.1 member
      exact Nat.le_refl _
    | cons second rest =>
      rw [Sql.separated_cons_cons, Sql.chars_append, Sql.chars_append, List.length_append,
        List.length_append]
      rcases List.mem_cons.1 member with rfl | later
      · omega
      · have below := inductionHypothesis later
        omega

/-- A boolean tree is longer than it is high.  The parser has as much fuel as the text has
characters, which is therefore enough. -/
theorem height_le_chars (builtin : generator.dialect.IsBuiltin) {node : Node}
    (isBoolean : node.IsBoolean) : node.height ≤ (generator.written node).chars.length := by
  induction isBoolean with
  | literal value =>
    have token : 0 < (Sql.code (generator.dialect.booleanToken value)).chars.length := by
      rcases booleanTokens builtin with ⟨isTrue, isFalse⟩ | ⟨isTrue, isFalse⟩ <;> cases value <;>
        simp [Dialect.booleanToken, isTrue, isFalse, Sql.code, Sql.chars, Span.chars]
    rw [Node.height_eq]
    exact token
  | predicate isPredicate => exact height_le_chars_predicate generator isPredicate
  | not _ inductionHypothesis =>
    rw [Node.height_eq]
    simp only [Node.children, List.map_cons, List.map_nil, greatest_cons, greatest_nil, written,
      Sql.chars_append, List.length_append]
    have word : (Sql.code "NOT (").chars.length = 5 := rfl
    omega
  | @junction connective operands nonempty _ inductionHypothesis =>
    have parts : greatest (operands.map Node.height) ≤
        (Sql.separated (" " ++ connective.keyword ++ " ")
          (operands.map generator.written)).chars.length := by
      refine greatest_le (List.forall_mem_map.2 fun operand member => ?_)
      exact Nat.le_trans (inductionHypothesis operand member)
        (length_le_separated _ (List.mem_map_of_mem member))
    have opening : (Sql.code "(").chars.length = 1 := rfl
    rw [Node.height_eq]
    simp only [Node.children, written, writtenEach_eq_map, Sql.chars_append, List.length_append]
    omega

/-- The text of a boolean tree is read to its end, as an expression of its truth.  Truth is compared
under every assignment to the predicates, so the tree that is read may have another shape. -/
theorem reparse_written (builtin : generator.dialect.IsBuiltin) {node : Node}
    (isBoolean : node.IsBoolean) (fits : node.height ≤ generator.depthLimit) :
    ∃ formula, generator.dialect.reparse (generator.written node).toText = some formula ∧
      ∀ assign, formula.eval assign = generator.truth node assign := by
  have long := height_le_chars builtin isBoolean
  have positive := node.height_pos
  obtain ⟨depth, length⟩ : ∃ depth, (generator.written node).chars.length = depth + 1 :=
    ⟨(generator.written node).chars.length - 1, by omega⟩
  obtain ⟨formula, read, truth⟩ :=
    conjunct_boolean builtin isBoolean fits (length ▸ long) .finish
  have whole : generator.dialect.formula (depth + 1) (tokens (generator.written node).lexemes) =
      some (formula, [.finish]) := chain_single (chain_single read rfl) rfl
  have scanned :=
    scan_chars builtin.readable.distinct (written_legible builtin.readable node)
  refine ⟨formula, ?_, truth⟩
  rw [Dialect.reparse, Sql.toText, String.toList_ofList, scanned, length]
  simp only [whole]
  rfl

/-- Boolean trees keep their meaning.  Whatever its names and strings are, the text of a boolean
tree is read to its end by the precedence of standard SQL, and the expression that is read is true
exactly if the tree is, under every assignment of truth values to the texts of its predicates. -/
theorem boolean_tree_reparses {dialect : Dialect} (builtin : dialect.IsBuiltin)
    (context : QueryContext) {limit : Nat} {node : Node} (isBoolean : node.IsBoolean)
    (fits : node.height ≤ limit) :
    ∃ sql formula, (dialect.generator context limit).statement node = .ok sql ∧
      dialect.reparse sql.toText = some formula ∧
      ∀ assign, formula.eval assign =
        node.truth ((dialect.generator context limit).predicateTruth assign) := by
  obtain ⟨formula, read, truth⟩ :=
    @reparse_written (dialect.generator context limit) builtin node isBoolean fits
  have wellFormed := wellFormed_boolean (dialect.generator context limit) isBoolean
  exact ⟨_, formula, (statement_eq_ok_iff _ _ _).2 ⟨wellFormed, fits, rfl⟩, read, truth⟩

/-- A disjunction of a range with a negated truth value beside it, and a comparison. -/
def nestedJunction : Node :=
  .junction .disjunction
    [.junction .conjunction
      [.between (.column ⟨"A", none, none⟩) (.literal (.text "x AND y")) (.literal (.text "z")),
        .not (.literal (.bool false))],
      .comparison .lessEqual (.column ⟨"B]", some "T", none⟩) (.literal (.text ") OR ("))]

/-- A junction within a junction, with truth values and predicates, read back in a dialect that
writes truth values as comparisons. -/
theorem boolean_tree_reparses_nested :
    ∃ sql formula, (Dialect.sqlserver.generator {} 4).statement nestedJunction = .ok sql ∧
      Dialect.sqlserver.reparse sql.toText = some formula ∧
      ∀ assign, formula.eval assign =
        nestedJunction.truth ((Dialect.sqlserver.generator {} 4).predicateTruth assign) := by
  have isBoolean : nestedJunction.IsBoolean := by
    refine .junction .disjunction (by simp) fun operand member => ?_
    simp only [List.mem_cons, List.not_mem_nil, or_false] at member
    rcases member with rfl | rfl
    · refine .junction .conjunction (by simp) fun operand member => ?_
      simp only [List.mem_cons, List.not_mem_nil, or_false] at member
      rcases member with rfl | rfl
      · exact .predicate (.between (.column _) (.text _) (.text _))
      · exact .not (.literal false)
    · exact .predicate (.comparison .lessEqual (.column _) (.text _))
  have fits : nestedJunction.height ≤ 4 := by
    simp [nestedJunction, Node.height_eq, Node.children]
  exact boolean_tree_reparses ⟨"SQLSERVER", .empty, rfl⟩ {} isBoolean fits

end Generator

end Pushdown
