/-
Module: Pushdown.Proofs.Sql.Ambiguity
Purpose: Nested predicates that share their text with others, and exactly which do not.
Main exports: Start, Node.HasTwin, Node.Nested.unambiguous_of_alone,
  Generator.predicate_text_unique_iff
-/
import Pushdown.Proofs.Sql.Extension

namespace Pushdown

/-!
If something stands before an operand and an extension behind it, either could have been applied
first, and the text is the same.  So wherever the operands of a node leave a choice there is
another tree with the same text, and the trees that can be told from their text are exactly the
unambiguous ones.
-/

/-! ### Trees that share their text -/

/-- Everything of a predicate that stands before its last operand. -/
inductive Start where
  | comparison (operator : ComparisonOperator) (left : Node)
  | between (expression lower : Node)
  | like (expression : Node)

namespace Start

/-- The predicate that ends with an operand. -/
def onto (node : Node) : Start → Node
  | comparison operator left => .comparison operator left node
  | between expression lower => .between expression lower node
  | like expression => .like expression node none

/-- Whether the other operands are nested predicates. -/
def Nested : Start → Prop
  | comparison _ left => left.Nested
  | between expression lower => expression.Nested ∧ lower.Nested
  | like expression => expression.Nested

/-- What stands before the last operand. -/
def pieces : Start → List Piece
  | comparison operator left => left.pieces ++ [.joint (.comparison operator)]
  | between expression lower =>
    expression.pieces ++ .joint .between :: (lower.pieces ++ [.joint .conjunction])
  | like expression => expression.pieces ++ [.joint .like]

/-- What stands before an operand is written right before it, without parentheses. -/
theorem pieces_onto (node : Node) (start : Start) :
    (start.onto node).pieces = start.pieces ++ node.pieces := by
  cases start <;> simp [onto, pieces, Node.pieces]

theorem nested_onto {node : Node} {start : Start} (nested : node.Nested)
    (isNested : start.Nested) : (start.onto node).Nested := by
  cases start with
  | comparison operator left => exact .comparison operator isNested nested
  | between expression lower => exact .between isNested.1 isNested.2 nested
  | like expression => exact .like isNested nested

/-- An extension applied to the whole and one applied to its last operand are different. -/
theorem onto_ne (start : Start) (extension : Extension) (node : Node) :
    extension.onto (start.onto node) ≠ start.onto (extension.onto node) := by
  intro same
  cases start <;> cases extension <;>
    simp only [onto, Extension.onto, Node.comparison.injEq, Node.between.injEq, Node.like.injEq,
      reduceCtorEq] at same
  case comparison.comparison =>
    have smaller := congrArg sizeOf same.2.1
    simp only [Node.comparison.sizeOf_spec] at smaller
    omega
  case between.between =>
    have smaller := congrArg sizeOf same.1
    simp only [Node.between.sizeOf_spec] at smaller
    omega
  case like.like =>
    have smaller := congrArg sizeOf same.1
    simp only [Node.like.sizeOf_spec] at smaller
    omega

end Start

namespace Node

/-- Whether another tree has the same pieces. -/
def HasTwin (node : Node) : Prop :=
  ∃ other : Node, other.Nested ∧ other ≠ node ∧ other.pieces = node.pieces

variable {node : Node} {extension : Extension} {start : Start}

/-- A first operand can be exchanged for its twin.  What is written behind it does not depend on
it. -/
theorem HasTwin.first (twin : node.HasTwin) (isNested : extension.Nested) :
    (extension.onto node).HasTwin := by
  obtain ⟨other, nested, different, same⟩ := twin
  refine ⟨extension.onto other, Extension.nested_onto nested isNested, ?_, ?_⟩
  · intro equal
    cases extension <;> simp [Extension.onto, different] at equal
  · rw [Extension.pieces_onto, Extension.pieces_onto, same]

/-- A last operand can be exchanged for its twin.  What is written before it does not depend on
it. -/
theorem HasTwin.last (twin : node.HasTwin) (isNested : start.Nested) :
    (start.onto node).HasTwin := by
  obtain ⟨other, nested, different, same⟩ := twin
  refine ⟨start.onto other, Start.nested_onto nested isNested, ?_, ?_⟩
  · intro equal
    cases start <;> simp [Start.onto, different] at equal
  · rw [Start.pieces_onto, Start.pieces_onto, same]

/-- The text does not tell whether the whole was extended or its last operand.  All trees with a
common text come from this one equation. -/
theorem pieces_reassociated (start : Start) (extension : Extension) (node : Node) :
    (extension.onto (start.onto node)).pieces = (start.onto (extension.onto node)).pieces := by
  rw [Extension.pieces_onto, Start.pieces_onto, Start.pieces_onto, Extension.pieces_onto,
    List.append_assoc]

/-- A predicate on the right side of another, with an extension, could also be the extended one. -/
theorem hasTwin_extension_start (nested : node.Nested) (isNested : extension.Nested)
    (startNested : start.Nested) : (extension.onto (start.onto node)).HasTwin :=
  ⟨start.onto (extension.onto node),
    Start.nested_onto (Extension.nested_onto nested isNested) startNested,
    (start.onto_ne extension node).symm, (pieces_reassociated start extension node).symm⟩

/-- And the other way round: an extended predicate could also be one with an extension behind it. -/
theorem hasTwin_start_extension (nested : node.Nested) (isNested : extension.Nested)
    (startNested : start.Nested) : (start.onto (extension.onto node)).HasTwin :=
  ⟨extension.onto (start.onto node),
    Extension.nested_onto (Start.nested_onto nested startNested) isNested,
    start.onto_ne extension node, pieces_reassociated start extension node⟩

/-- An extension of a tree that is not postfixed could also be one of its last operand. -/
theorem Nested.hasTwin_onto (nested : node.Nested) (loose : node.isPostfixed = false)
    (isNested : extension.Nested) : (extension.onto node).HasTwin := by
  induction nested generalizing extension with
  | column | text | not => cases loose
  | comparison operator isLeft isRight =>
    exact @hasTwin_extension_start _ _ (.comparison operator _) isRight isNested isLeft
  | between isExpression isLower isUpper =>
    exact @hasTwin_extension_start _ _ (.between _ _) isUpper isNested ⟨isExpression, isLower⟩
  | like isExpression isPattern =>
    exact @hasTwin_extension_start _ _ (.like _) isPattern isNested isExpression
  | inList _ nonempty each atExpression =>
    have inner := @atExpression (.inList _) loose ⟨nonempty, each⟩
    exact inner.first isNested
  | isNull negated _ atOperand =>
    have inner := @atOperand (.isNull negated) loose trivial
    exact inner.first isNested

/-- A last operand that is not closed could also end before its extension.  The extension is then
one of the whole tree. -/
theorem Nested.onto_hasTwin (nested : node.Nested) (loose : node.isClosed = false)
    (startNested : start.Nested) : (start.onto node).HasTwin := by
  cases nested with
  | column | text | not => cases loose
  | comparison operator isLeft isRight =>
    exact @hasTwin_start_extension _ (.comparison operator _) _ isLeft isRight startNested
  | between isExpression isLower isUpper =>
    exact @hasTwin_start_extension _ (.between _ _) _ isExpression ⟨isLower, isUpper⟩ startNested
  | like isExpression isPattern =>
    exact @hasTwin_start_extension _ (.like _) _ isExpression isPattern startNested
  | inList isExpression nonempty each =>
    exact @hasTwin_start_extension _ (.inList _) _ isExpression ⟨nonempty, each⟩ startNested
  | isNull negated isOperand =>
    exact @hasTwin_start_extension _ (.isNull negated) _ isOperand trivial startNested

/-- Without a twin, a first operand leaves no choice.  It has no twin itself, and what extends it
could not extend a part of it. -/
theorem first_of_alone (nested : node.Nested) (isNested : extension.Nested)
    (alone : ¬ (extension.onto node).HasTwin) : ¬ node.HasTwin ∧ node.isPostfixed := by
  refine ⟨fun twin => alone (twin.first isNested), ?_⟩
  cases postfixed : node.isPostfixed with
  | true => rfl
  | false => exact absurd (nested.hasTwin_onto postfixed isNested) alone

/-- Without a twin, a last operand leaves no choice.  It has no twin itself, and it is closed, so it
could not end earlier. -/
theorem last_of_alone (nested : node.Nested) (startNested : start.Nested)
    (alone : ¬ (start.onto node).HasTwin) : ¬ node.HasTwin ∧ node.isClosed := by
  refine ⟨fun twin => alone (twin.last startNested), ?_⟩
  cases closed : node.isClosed with
  | true => rfl
  | false => exact absurd (nested.onto_hasTwin closed startNested) alone

/-- A twin below a negation makes a twin of the negation. -/
theorem HasTwin.negated (twin : node.HasTwin) : (Node.not node).HasTwin := by
  obtain ⟨other, nested, different, same⟩ := twin
  refine ⟨.not other, .not nested, fun equal => different (Node.not.inj equal), ?_⟩
  simp only [pieces, same]

/-- A twin as a lower bound makes a twin of the range. -/
theorem HasTwin.between {expression upper : Node} (twin : node.HasTwin)
    (isExpression : expression.Nested) (isUpper : upper.Nested) :
    (Node.between expression node upper).HasTwin := by
  obtain ⟨other, nested, different, same⟩ := twin
  refine ⟨.between expression other upper, .between isExpression nested isUpper,
    fun equal => different (Node.between.inj equal).2.1, ?_⟩
  simp only [pieces, same]

/-- A candidate with the same pieces leaves those of the list as they are. -/
theorem candidatePieces_append_cons (before after : List Node) {other : Node}
    (same : other.pieces = node.pieces) :
    candidatePieces (before ++ other :: after) = candidatePieces (before ++ node :: after) := by
  have further : ∀ before : List Node,
      furtherPieces (before ++ other :: after) = furtherPieces (before ++ node :: after) := by
    intro before
    induction before with
    | nil => simp only [List.nil_append, furtherPieces, same]
    | cons candidate before inductionHypothesis =>
      simp only [List.cons_append, furtherPieces, inductionHypothesis]
  cases before with
  | nil => simp only [List.nil_append, candidatePieces, same]
  | cons candidate before => simp only [List.cons_append, candidatePieces, further]

/-- A twin among candidates makes a twin of the list.  Candidates are separated by commas, so each
of them can be exchanged by itself. -/
theorem HasTwin.candidate {expression : Node} {candidates : List Node} (twin : node.HasTwin)
    (isExpression : expression.Nested) (each : ∀ candidate ∈ candidates, candidate.Nested)
    (member : node ∈ candidates) : (Node.inList expression candidates).HasTwin := by
  obtain ⟨other, nested, different, same⟩ := twin
  obtain ⟨before, after, rfl⟩ := List.append_of_mem member
  refine ⟨.inList expression (before ++ other :: after), .inList isExpression (by simp) ?_, ?_,
    ?_⟩
  · simp only [List.mem_append, List.mem_cons, or_imp, forall_and, forall_eq] at each ⊢
    exact ⟨each.1, nested, each.2.2⟩
  · intro equal
    have lists := (Node.inList.inj equal).2
    exact different (List.cons_eq_cons.1 (List.append_cancel_left lists)).1
  · simp only [pieces, candidatePieces_append_cons before after same]

/-- A tree without a twin is unambiguous: wherever operands do not fit, another tree with the same
pieces can be built around them. -/
theorem Nested.unambiguous_of_alone (nested : node.Nested) (alone : ¬ node.HasTwin) :
    node.Unambiguous := by
  induction nested with
  | column name table => exact (unambiguous_iff _).2 ⟨rfl, by simp [children]⟩
  | text value => exact (unambiguous_iff _).2 ⟨rfl, by simp [children]⟩
  | not _ atOperand =>
    have clear := atOperand fun twin => alone twin.negated
    exact (unambiguous_iff _).2 ⟨rfl, by simpa [children] using clear⟩
  | comparison operator isLeft isRight atLeft atRight =>
    -- A twin of an operand would make a twin of the node, and so would an operand that does not
    -- fit.
    obtain ⟨leftAlone, postfixed⟩ :=
      @first_of_alone _ (.comparison operator _) isLeft isRight alone
    obtain ⟨rightAlone, closed⟩ :=
      @last_of_alone _ (.comparison operator _) isRight isLeft alone
    refine (unambiguous_iff _).2 ⟨by simp [operandsFit, postfixed, closed], ?_⟩
    simpa [children] using ⟨atLeft leftAlone, atRight rightAlone⟩
  | between isExpression isLower isUpper atExpression atLower atUpper =>
    obtain ⟨expressionAlone, postfixed⟩ :=
      @first_of_alone _ (.between _ _) isExpression ⟨isLower, isUpper⟩ alone
    obtain ⟨upperAlone, closed⟩ :=
      @last_of_alone _ (.between _ _) isUpper ⟨isExpression, isLower⟩ alone
    have clearLower := atLower fun twin => alone (twin.between isExpression isUpper)
    refine (unambiguous_iff _).2 ⟨by simp [operandsFit, postfixed, closed], ?_⟩
    simpa [children] using ⟨atExpression expressionAlone, clearLower, atUpper upperAlone⟩
  | like isExpression isPattern atExpression atPattern =>
    obtain ⟨expressionAlone, postfixed⟩ :=
      @first_of_alone _ (.like _) isExpression isPattern alone
    obtain ⟨patternAlone, closed⟩ := @last_of_alone _ (.like _) isPattern isExpression alone
    refine (unambiguous_iff _).2 ⟨by simp [operandsFit, postfixed, closed], ?_⟩
    simpa [children] using ⟨atExpression expressionAlone, atPattern patternAlone⟩
  | inList isExpression nonempty each atExpression atEach =>
    obtain ⟨expressionAlone, postfixed⟩ :=
      @first_of_alone _ (.inList _) isExpression ⟨nonempty, each⟩ alone
    have clear := fun candidate member => atEach candidate member fun twin =>
      alone (twin.candidate isExpression each member)
    refine (unambiguous_iff _).2 ⟨postfixed, ?_⟩
    simpa [children] using ⟨atExpression expressionAlone, clear⟩
  | isNull negated isOperand atOperand =>
    obtain ⟨operandAlone, postfixed⟩ :=
      @first_of_alone _ (.isNull negated) isOperand trivial alone
    refine (unambiguous_iff _).2 ⟨postfixed, ?_⟩
    simpa [children] using atOperand operandAlone

end Node

namespace Generator

/-- Which nested predicates can be told from their text: no other tree of predicates has the text
of a tree, in any context and under any limit, exactly if the tree is unambiguous. -/
theorem predicate_text_unique_iff {context : QueryContext} {limit : Nat} {node : Node} {sql : Sql}
    (isTree : node.IsPredicateTree)
    (rendered : (Dialect.generic.generator context limit).statement node = .ok sql) :
    (∀ otherContext otherLimit other otherSql, Node.IsPredicateTree other →
      (Dialect.generic.generator otherContext otherLimit).statement other = .ok otherSql →
      otherSql.toText = sql.toText → other = node) ↔ node.Unambiguous := by
  have sameText := fun otherContext otherLimit =>
    @text_eq_iff_pieces_eq _ Dialect.generic_readable Dialect.generic_quote_injective
      otherContext context otherLimit limit
  obtain ⟨wellFormed, fits, rfl⟩ := (statement_eq_ok_iff _ _ _).1 rendered
  have nested := node.nested_of_wellFormed _ isTree wellFormed
  constructor
  · intro alone
    refine nested.unambiguous_of_alone ?_
    rintro ⟨other, otherNested, different, same⟩
    obtain ⟨otherTree, otherFormed⟩ :=
      otherNested.wellFormed (Dialect.generic.generator context other.height)
    have otherRendered := (statement_eq_ok_iff _ other _).2 ⟨otherFormed, Nat.le_refl _, rfl⟩
    exact different (alone context other.height other _ otherTree otherRendered
      ((sameText _ _ otherNested nested).2 same))
  · intro unambiguous otherContext otherLimit other otherSql otherTree otherRendered same
    obtain ⟨otherFormed, otherFits, rfl⟩ := (statement_eq_ok_iff _ _ _).1 otherRendered
    have otherNested := other.nested_of_wellFormed _ otherTree otherFormed
    exact nested.unique otherNested unambiguous ((sameText _ _ otherNested nested).1 same)

/-- A range whose parts are predicates again. -/
def rangeOfPredicates : Node :=
  .between (.isNull false (.column ⟨"A", some "T", none⟩))
    (.comparison .less (.column ⟨"B", none, none⟩) (.literal (.text "x AND y")))
    (.not (.like (.column ⟨"C", none, none⟩) (.literal (.text "%")) none))

/-- A range over predicates that no other tree shares its text with, since its lower bound stands
between two words. -/
theorem predicate_text_unique_range :
    ∃ sql, (Dialect.generic.generator {} 4).statement rangeOfPredicates = .ok sql ∧
      ∀ context limit other otherSql, Node.IsPredicateTree other →
        (Dialect.generic.generator context limit).statement other = .ok otherSql →
        otherSql.toText = sql.toText → other = rangeOfPredicates := by
  have nested : rangeOfPredicates.Nested :=
    .between (.isNull false (.column _ _)) (.comparison _ (.column _ _) (.text _))
      (.not (.like (.column _ _) (.text _)))
  obtain ⟨isTree, wellFormed⟩ := nested.wellFormed (Dialect.generic.generator {} 4)
  have fits : rangeOfPredicates.height ≤ 4 := by
    simp [rangeOfPredicates, Node.height_eq, Node.children]
  have unambiguous : rangeOfPredicates.Unambiguous := by
    simp [rangeOfPredicates, Node.Unambiguous, Node.subnodes_eq, Node.children,
      Node.operandsFit, Node.isPostfixed, Node.isClosed]
  have rendered := (statement_eq_ok_iff _ rangeOfPredicates _).2 ⟨wellFormed, fits, rfl⟩
  exact ⟨_, rendered, (predicate_text_unique_iff isTree rendered).2 unambiguous⟩

/-- Three columns compared from the left. -/
def comparedFromLeft : Node :=
  .comparison .equal
    (.comparison .equal (.column ⟨"A", none, none⟩) (.column ⟨"B", none, none⟩))
    (.column ⟨"C", none, none⟩)

/-- The same columns compared from the right. -/
def comparedFromRight : Node :=
  .comparison .equal (.column ⟨"A", none, none⟩)
    (.comparison .equal (.column ⟨"B", none, none⟩) (.column ⟨"C", none, none⟩))

/-- Comparisons have no parentheses, so the order in which three columns are compared is lost. -/
theorem comparison_order_lost :
    ¬ ∀ context limit node other sql otherSql, Node.IsPredicateTree node →
      Node.IsPredicateTree other →
      (Dialect.generic.generator context limit).statement node = .ok sql →
      (Dialect.generic.generator context limit).statement other = .ok otherSql →
      sql.toText = otherSql.toText → node = other := by
  intro told
  have fromLeft : comparedFromLeft.Nested :=
    .comparison _ (.comparison _ (.column _ _) (.column _ _)) (.column _ _)
  have fromRight : comparedFromRight.Nested :=
    .comparison _ (.column _ _) (.comparison _ (.column _ _) (.column _ _))
  obtain ⟨leftTree, leftFormed⟩ := fromLeft.wellFormed (Dialect.generic.generator {} 3)
  obtain ⟨rightTree, rightFormed⟩ := fromRight.wellFormed (Dialect.generic.generator {} 3)
  have leftFits : comparedFromLeft.height ≤ 3 := by
    simp [comparedFromLeft, Node.height_eq, Node.children]
  have rightFits : comparedFromRight.height ≤ 3 := by
    simp [comparedFromRight, Node.height_eq, Node.children]
  have same := told {} 3 _ _ _ _ leftTree rightTree
    ((statement_eq_ok_iff _ _ _).2 ⟨leftFormed, leftFits, rfl⟩)
    ((statement_eq_ok_iff _ _ _).2 ⟨rightFormed, rightFits, rfl⟩) rfl
  cases same

end Generator

end Pushdown
