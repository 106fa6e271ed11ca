/-
Module: Pushdown.Proofs.Sql.Extension
Purpose: Nested predicates as closed trees with extensions, and which can be told from their pieces.
Main exports: Node.Unambiguous, Extension, Node.extend, Node.Nested.unique
-/
import Pushdown.Proofs.Sql.Piece

namespace Pushdown

/-!
Only `NOT` puts its operand in parentheses; every other predicate is written right behind its
first operand, and most end with their last.  A tree is therefore a closed one with extensions
applied one after the other, and its pieces are those of the closed tree and of each extension in
this order.  A reader that knows the pieces cannot tell at which tree an extension was applied
unless the nodes before it leave no choice: `Node.operandsFit` says when this is so at one node,
and a tree in which it is so at every node is the only one with its pieces.
-/

/-! ### Unambiguous trees -/

/-- Whether a tree is written as a name, as a string, or in parentheses behind `NOT`. -/
def Node.isClosed : Node → Bool
  | .column _ => true
  | .literal _ => true
  | .not _ => true
  | _ => false

/-- Whether a tree is a closed one with null tests and lists of candidates behind it. -/
def Node.isPostfixed : Node → Bool
  | .isNull _ operand => operand.isPostfixed
  | .inList expression _ => expression.isPostfixed
  | node => node.isClosed

theorem Node.isPostfixed_of_isClosed {node : Node} (closed : node.isClosed) :
    node.isPostfixed := by
  cases node <;> first | exact closed | cases closed

/-- Whether the operands at the ends of a node leave no doubt where they end. -/
def Node.operandsFit : Node → Bool
  | .comparison _ left right => left.isPostfixed && right.isClosed
  | .between expression _ upper => expression.isPostfixed && upper.isClosed
  | .like expression pattern _ => expression.isPostfixed && pattern.isClosed
  | .inList expression _ => expression.isPostfixed
  | .isNull _ operand => operand.isPostfixed
  | _ => true

/-- Trees whose operands leave no doubt anywhere. -/
def Node.Unambiguous (node : Node) : Prop := ∀ subnode ∈ node.subnodes, subnode.operandsFit

/-- A tree is unambiguous if its own operands fit and the trees below it are unambiguous. -/
theorem Node.unambiguous_iff (node : Node) :
    node.Unambiguous ↔ node.operandsFit ∧ ∀ child ∈ node.children, child.Unambiguous :=
  node.forall_subnodes_iff fun subnode => subnode.operandsFit

/-! ### Extensions -/

/-- What makes a predicate of its first operand. -/
inductive Extension where
  | comparison (operator : ComparisonOperator) (right : Node)
  | between (lower upper : Node)
  | like (pattern : Node)
  | inList (candidates : List Node)
  | isNull (negated : Bool)

namespace Extension

/-- The predicate that an extension makes of an operand. -/
def onto (node : Node) : Extension → Node
  | comparison operator right => .comparison operator node right
  | between lower upper => .between node lower upper
  | like pattern => .like node pattern none
  | inList candidates => .inList node candidates
  | isNull negated => .isNull negated node

/-- Whether the other operands are nested predicates. -/
def Nested : Extension → Prop
  | comparison _ right => right.Nested
  | between lower upper => lower.Nested ∧ upper.Nested
  | like pattern => pattern.Nested
  | inList candidates => candidates ≠ [] ∧ ∀ candidate ∈ candidates, candidate.Nested
  | isNull _ => True

/-- What an extension is written as, behind its first operand. -/
def pieces : Extension → List Piece
  | comparison operator right => .joint (.comparison operator) :: right.pieces
  | between lower upper => .joint .between :: (lower.pieces ++ .joint .conjunction :: upper.pieces)
  | like pattern => .joint .like :: pattern.pieces
  | inList candidates => .joint .candidates :: (candidatePieces candidates ++ [.joint .closing])
  | isNull negated => [.joint (.isNull negated)]

theorem pieces_onto (node : Node) (extension : Extension) :
    (extension.onto node).pieces = node.pieces ++ extension.pieces := by
  cases extension <;> rfl

/-- Extensions lead from nested predicates to nested predicates.  A tree may therefore be given by a
closed one and the extensions of it, in order. -/
theorem nested_onto {node : Node} {extension : Extension} (nested : node.Nested)
    (isNested : extension.Nested) : (extension.onto node).Nested := by
  cases extension with
  | comparison operator right => exact .comparison operator nested isNested
  | between lower upper => exact .between nested isNested.1 isNested.2
  | like pattern => exact .like nested isNested
  | inList candidates => exact .inList nested isNested.1 isNested.2
  | isNull negated => exact .isNull negated nested

theorem isClosed_onto (node : Node) (extension : Extension) :
    (extension.onto node).isClosed = false := by
  cases extension <;> rfl

end Extension

/-- The tree that several extensions make one after the other. -/
def Node.extend (node : Node) (extensions : List Extension) : Node :=
  extensions.foldl Extension.onto node

namespace Node

@[simp]
theorem extend_nil (node : Node) : node.extend [] = node := rfl

@[simp]
theorem extend_cons (node : Node) (extension : Extension) (extensions : List Extension) :
    node.extend (extension :: extensions) = (extension.onto node).extend extensions := rfl

theorem extend_concat (node : Node) (extensions : List Extension) (extension : Extension) :
    node.extend (extensions ++ [extension]) = extension.onto (node.extend extensions) := by
  simp [extend]

/-- Extensions are written in the order in which they are applied. -/
theorem pieces_extend (node : Node) (extensions : List Extension) :
    (node.extend extensions).pieces = node.pieces ++ extensions.flatMap Extension.pieces := by
  induction extensions generalizing node with
  | nil => simp
  | cons extension extensions inductionHypothesis =>
    rw [extend_cons, inductionHypothesis, Extension.pieces_onto, List.flatMap_cons,
      List.append_assoc]

/-- Extensions in a row lead to nested predicates as well. -/
theorem nested_extend {node : Node} (nested : node.Nested) {extensions : List Extension}
    (each : ∀ extension ∈ extensions, extension.Nested) : (node.extend extensions).Nested := by
  induction extensions generalizing node with
  | nil => exact nested
  | cons extension extensions inductionHypothesis =>
    rw [List.forall_mem_cons] at each
    exact inductionHypothesis (Extension.nested_onto nested each.1) each.2

/-- A tree that is closed has not been extended. -/
theorem eq_nil_of_isClosed_extend {node : Node} {extensions : List Extension}
    (closed : (node.extend extensions).isClosed) : extensions = [] := by
  rcases List.eq_nil_or_concat extensions with rfl | ⟨before, last, rfl⟩
  · rfl
  · rw [List.concat_eq_append, extend_concat, Extension.isClosed_onto] at closed
    cases closed

/-- Whether a tree is a closed one with extensions. -/
def IsExtended (node : Node) : Prop :=
  ∃ (front : Node) (extensions : List Extension), front.Nested ∧ front.isClosed ∧
    (∀ extension ∈ extensions, extension.Nested) ∧ node = front.extend extensions

theorem isExtended_of_isClosed {node : Node} (nested : node.Nested) (closed : node.isClosed) :
    node.IsExtended :=
  ⟨node, [], nested, closed, by simp, rfl⟩

/-- One more extension, applied behind those before.  This is the step from a tree to the one it is
the first operand of. -/
theorem IsExtended.onto {operand : Node} (extended : operand.IsExtended)
    {extension : Extension} (isNested : extension.Nested) :
    (extension.onto operand).IsExtended := by
  obtain ⟨front, extensions, nested, closed, each, rfl⟩ := extended
  refine ⟨front, extensions ++ [extension], nested, closed, ?_, ?_⟩
  · intro other member
    rcases List.mem_append.1 member with earlier | last
    · exact each other earlier
    · obtain rfl := List.mem_singleton.1 last
      exact isNested
  · rw [extend_concat]

/-- Every nested predicate is a closed tree with extensions.  The closed tree is what stands first
in its text. -/
theorem Nested.isExtended {node : Node} (nested : node.Nested) : node.IsExtended := by
  induction nested with
  | column name table => exact isExtended_of_isClosed (.column name table) rfl
  | text value => exact isExtended_of_isClosed (.text value) rfl
  | not nested => exact isExtended_of_isClosed (.not nested) rfl
  | comparison operator _ isRight atLeft =>
    exact @IsExtended.onto _ atLeft (.comparison operator _) isRight
  | between _ isLower isUpper atExpression =>
    exact @IsExtended.onto _ atExpression (.between _ _) ⟨isLower, isUpper⟩
  | like _ isPattern atExpression => exact @IsExtended.onto _ atExpression (.like _) isPattern
  | inList _ nonempty each atExpression =>
    exact @IsExtended.onto _ atExpression (.inList _) ⟨nonempty, each⟩
  | isNull negated _ atOperand => exact @IsExtended.onto _ atOperand (.isNull negated) trivial

end Node

/-! ### Reading from the left -/

/-- What may stand behind a whole operand. -/
inductive Ends : List Piece → Prop
  | finish : Ends []
  | closing (rest : List Piece) : Ends (.joint .closing :: rest)
  | comma (rest : List Piece) : Ends (.joint .comma :: rest)
  | conjunction (rest : List Piece) : Ends (.joint .conjunction :: rest)

/-- Whether a row does not go on with the name of a column behind its table. -/
def NoStop (row : List Piece) : Prop := row.head? ≠ some (.joint .stop)

theorem Ends.noStop {row : List Piece} (ends : Ends row) : NoStop row := by
  cases ends <;> simp [NoStop]

/-- A candidate ends where another follows or the list ends. -/
theorem ends_further (candidates : List Node) (rest : List Piece) :
    Ends (furtherPieces candidates ++ .joint .closing :: rest) := by
  cases candidates with
  | nil => exact .closing rest
  | cons candidate candidates => exact .comma _

/-- Where an extension begins, the operand before it goes on.  An operand that ends there is
therefore a shorter one. -/
theorem not_ends_extension (extension : Extension) (rest : List Piece) :
    ¬ Ends (extension.pieces ++ rest) := by
  intro ends
  cases extension <;> cases ends

/-- No extension begins like the second part of a name. -/
theorem noStop_extension (extension : Extension) (rest : List Piece) :
    NoStop (extension.pieces ++ rest) := by
  cases extension <;> simp [NoStop, Extension.pieces]

/-- No row of extensions before the end of an operand begins like the second part of a name. -/
theorem noStop_extensions (extensions : List Extension) {remainder : List Piece}
    (ends : Ends remainder) :
    NoStop (extensions.flatMap Extension.pieces ++ remainder) := by
  cases extensions with
  | nil => exact ends.noStop
  | cons extension extensions =>
    rw [List.flatMap_cons, List.append_assoc]
    exact noStop_extension extension _

/-- At the end of an operand nothing is extended. -/
theorem Ends.eq_nil {row remainder : List Piece} (ends : Ends row) {extensions : List Extension}
    (same : row = extensions.flatMap Extension.pieces ++ remainder) :
    extensions = [] ∧ row = remainder := by
  cases extensions with
  | nil => exact ⟨rfl, same⟩
  | cons extension extensions =>
    rw [same, List.flatMap_cons, List.append_assoc] at ends
    cases not_ends_extension _ _ ends

namespace Node

/-- Whether no other tree has the pieces of a tree as one operand. -/
def Determined (node : Node) : Prop :=
  ∀ ⦃other : Node⦄ ⦃rest remainder : List Piece⦄, other.Nested → Ends rest → Ends remainder →
    node.pieces ++ rest = other.pieces ++ remainder → other = node ∧ rest = remainder

/-- Whether every tree whose pieces start with those of a tree is an extension of it. -/
def Leads (node : Node) : Prop :=
  ∀ ⦃other : Node⦄ ⦃rest remainder : List Piece⦄, other.Nested → NoStop rest → Ends remainder →
    node.pieces ++ rest = other.pieces ++ remainder →
    ∃ extensions : List Extension, (∀ extension ∈ extensions, extension.Nested) ∧
      other = node.extend extensions ∧ rest = extensions.flatMap Extension.pieces ++ remainder

/-- A tree that leads is determined as an operand, since at its end there is no room for
extensions. -/
theorem Leads.determined {node : Node} (leads : node.Leads) : node.Determined := by
  intro other rest remainder otherNested ends otherEnds same
  obtain ⟨extensions, -, equal, tail⟩ := leads otherNested ends.noStop otherEnds same
  obtain ⟨rfl, rests⟩ := ends.eq_nil tail
  exact ⟨equal, rests⟩

/-- A last operand that is closed ends where the tree ends.  Nothing can be behind it that was taken
from it. -/
theorem Leads.last {node : Node} (leads : node.Leads) (closed : node.isClosed) {other : Node}
    (otherNested : other.Nested) {extensions : List Extension}
    (each : ∀ extension ∈ extensions, extension.Nested) {rest remainder : List Piece}
    (ends : Ends rest) (otherEnds : Ends remainder)
    (same : node.pieces ++ rest =
      other.pieces ++ (extensions.flatMap Extension.pieces ++ remainder)) :
    other = node ∧ extensions = [] ∧ rest = remainder := by
  rw [← List.append_assoc, ← pieces_extend] at same
  obtain ⟨equal, rests⟩ :=
    leads.determined (nested_extend otherNested each) ends otherEnds same
  obtain rfl := eq_nil_of_isClosed_extend (equal ▸ closed)
  exact ⟨equal, rfl, rests⟩

/-! ### Closed trees -/

/-- Columns with the same pieces have the same names, qualified or not, as long as no further name
follows. -/
theorem eq_of_column_pieces {name otherName : String} {table otherTable : Option String}
    {rest remainder : List Piece} (noStop : NoStop rest) (otherNoStop : NoStop remainder)
    (same : (Node.column ⟨name, table, none⟩).pieces ++ rest =
      (Node.column ⟨otherName, otherTable, none⟩).pieces ++ remainder) :
    name = otherName ∧ table = otherTable ∧ rest = remainder := by
  cases table with
  | none =>
    cases otherTable with
    | none =>
      obtain ⟨piece, rests⟩ := List.cons_eq_cons.1 same
      cases piece
      exact ⟨rfl, rfl, rests⟩
    | some otherTable =>
      obtain ⟨-, rests⟩ := List.cons_eq_cons.1 same
      cases noStop (congrArg List.head? rests)
  | some table =>
    cases otherTable with
    | none =>
      obtain ⟨-, rests⟩ := List.cons_eq_cons.1 same
      cases otherNoStop (congrArg List.head? rests.symm)
    | some otherTable =>
      obtain ⟨qualifier, names⟩ := List.cons_eq_cons.1 same
      obtain ⟨-, names⟩ := List.cons_eq_cons.1 names
      obtain ⟨piece, rests⟩ := List.cons_eq_cons.1 names
      cases qualifier
      cases piece
      exact ⟨rfl, rfl, rests⟩

/-- A column starts with a name. -/
theorem column_pieces_ne {piece : Piece} (noName : ∀ name, piece ≠ .payload (.name name))
    (name : String) (table : Option String) (rest row : List Piece) :
    (Node.column ⟨name, table, none⟩).pieces ++ rest ≠ piece :: row := by
  intro same
  cases table with
  | none => exact noName _ (List.cons_eq_cons.1 same).1.symm
  | some table => exact noName _ (List.cons_eq_cons.1 same).1.symm

/-- Closed trees at the start of the same row are equal. -/
theorem eq_of_isClosed {node other : Node} (nested : node.Nested) (otherNested : other.Nested)
    (closed : node.isClosed) (otherClosed : other.isClosed)
    (inside : ∀ operand, node = .not operand → operand.Determined)
    {rest remainder : List Piece} (noStop : NoStop rest) (otherNoStop : NoStop remainder)
    (same : node.pieces ++ rest = other.pieces ++ remainder) :
    other = node ∧ rest = remainder := by
  cases nested with
  | column name table =>
    cases otherNested with
    | column otherName otherTable =>
      obtain ⟨rfl, rfl, rests⟩ := eq_of_column_pieces noStop otherNoStop same
      exact ⟨rfl, rests⟩
    | text value => exact absurd same (column_pieces_ne (by simp) _ _ _ _)
    | not _ => exact absurd same (column_pieces_ne (by simp) _ _ _ _)
    | _ => cases otherClosed
  | text value =>
    cases otherNested with
    | column otherName otherTable => exact absurd same.symm (column_pieces_ne (by simp) _ _ _ _)
    | text otherValue =>
      obtain ⟨piece, rests⟩ := List.cons_eq_cons.1 same
      cases piece
      exact ⟨rfl, rests⟩
    | not _ => cases (List.cons_eq_cons.1 same).1
    | _ => cases otherClosed
  | @not operand _ =>
    cases otherNested with
    | column otherName otherTable => exact absurd same.symm (column_pieces_ne (by simp) _ _ _ _)
    | text otherValue => cases (List.cons_eq_cons.1 same).1
    | @not otherOperand otherNested =>
      simp only [pieces, List.cons_append, List.append_assoc, List.cons.injEq, true_and] at same
      obtain ⟨rfl, rests⟩ := inside operand rfl otherNested (.closing _) (.closing _) same
      exact ⟨rfl, (List.cons_eq_cons.1 rests).2⟩
    | _ => cases otherClosed
  | _ => cases closed

/-- A closed tree leads whatever starts with it.  Its text cannot be part of a longer closed one, so
only its extensions are left to compare. -/
theorem leads_of_isClosed {node : Node} (nested : node.Nested) (closed : node.isClosed)
    (inside : ∀ operand, node = .not operand → operand.Determined) : node.Leads := by
  intro other rest remainder otherNested noStop ends same
  obtain ⟨front, extensions, frontNested, frontClosed, each, rfl⟩ := otherNested.isExtended
  rw [pieces_extend, List.append_assoc] at same
  obtain ⟨rfl, rests⟩ := eq_of_isClosed nested frontNested closed frontClosed inside noStop
    (noStop_extensions extensions ends) same
  exact ⟨extensions, each, rfl, rests⟩

/-! ### Extended trees -/

/-- Lists of candidates with the same pieces are equal, if each candidate can be told. -/
theorem eq_of_further_pieces {candidates others : List Node}
    (determined : ∀ candidate ∈ candidates, candidate.Determined)
    (otherNested : ∀ other ∈ others, other.Nested) {rest remainder : List Piece}
    (same : furtherPieces candidates ++ .joint .closing :: rest =
      furtherPieces others ++ .joint .closing :: remainder) :
    others = candidates ∧ rest = remainder := by
  induction candidates generalizing others with
  | nil =>
    cases others with
    | nil => exact ⟨rfl, (List.cons_eq_cons.1 same).2⟩
    | cons other others => cases (List.cons_eq_cons.1 same).1
  | cons candidate candidates inductionHypothesis =>
    cases others with
    | nil => cases (List.cons_eq_cons.1 same).1
    | cons other others =>
      rw [List.forall_mem_cons] at determined otherNested
      simp only [furtherPieces, List.cons_append, List.append_assoc, List.cons.injEq, true_and]
        at same
      obtain ⟨rfl, furthers⟩ := determined.1 otherNested.1 (ends_further _ _)
        (ends_further _ _) same
      obtain ⟨rfl, rests⟩ := inductionHypothesis determined.2 otherNested.2 furthers
      exact ⟨rfl, rests⟩

/-- Lists of candidates up to their closing parenthesis are equal if their pieces are.  Their number
is not known beforehand, so the end has to be recognised. -/
theorem eq_of_candidate_pieces {candidates others : List Node}
    (determined : ∀ candidate ∈ candidates, candidate.Determined)
    (otherNested : ∀ other ∈ others, other.Nested) (nonempty : candidates ≠ [])
    (otherNonempty : others ≠ []) {rest remainder : List Piece}
    (same : candidatePieces candidates ++ .joint .closing :: rest =
      candidatePieces others ++ .joint .closing :: remainder) :
    others = candidates ∧ rest = remainder := by
  obtain ⟨candidate, candidates, rfl⟩ := List.exists_cons_of_ne_nil nonempty
  obtain ⟨other, others, rfl⟩ := List.exists_cons_of_ne_nil otherNonempty
  rw [List.forall_mem_cons] at determined otherNested
  simp only [candidatePieces, List.append_assoc] at same
  obtain ⟨rfl, furthers⟩ := determined.1 otherNested.1 (ends_further _ _) (ends_further _ _) same
  obtain ⟨rfl, rests⟩ := eq_of_further_pieces determined.2 otherNested.2 furthers
  exact ⟨rfl, rests⟩

/-- A tree that starts with the pieces of another and of an extension has an extension there. -/
theorem Leads.extension {node : Node} (leads : node.Leads) {extension : Extension} {other : Node}
    {rest remainder : List Piece} (otherNested : other.Nested) (ends : Ends remainder)
    (same : (extension.onto node).pieces ++ rest = other.pieces ++ remainder) :
    ∃ (next : Extension) (more : List Extension), next.Nested ∧
      (∀ later ∈ more, later.Nested) ∧ other = (next.onto node).extend more ∧
      extension.pieces ++ rest = next.pieces ++ (more.flatMap Extension.pieces ++ remainder) := by
  rw [Extension.pieces_onto, List.append_assoc] at same
  obtain ⟨extensions, each, equal, tail⟩ :=
    leads otherNested (noStop_extension extension rest) ends same
  cases extensions with
  | nil => exact absurd (tail ▸ ends) (not_ends_extension extension rest)
  | cons next more =>
    rw [List.forall_mem_cons] at each
    rw [List.flatMap_cons, List.append_assoc] at tail
    exact ⟨next, more, each.1, each.2, equal, tail⟩

/-- A null test behind a tree that leads is found there by every reader, so the test leads as
well. -/
theorem Leads.isNull {operand : Node} (leads : operand.Leads) (negated : Bool) :
    (Node.isNull negated operand).Leads := by
  intro other rest remainder otherNested _ ends same
  obtain ⟨next, more, -, each, rfl, rows⟩ :=
    @Leads.extension _ leads (.isNull negated) _ _ _ otherNested ends same
  cases next with
  | isNull otherNegated =>
    obtain ⟨piece, rests⟩ := List.cons_eq_cons.1 rows
    cases piece
    exact ⟨more, each, rfl, rests⟩
  | _ => cases (List.cons_eq_cons.1 rows).1

/-- A list of candidates behind a tree that leads is closed by a parenthesis, so nothing is open at
its end. -/
theorem Leads.inList {expression : Node} (leads : expression.Leads) {candidates : List Node}
    (nonempty : candidates ≠ [])
    (determined : ∀ candidate ∈ candidates, candidate.Determined) :
    (Node.inList expression candidates).Leads := by
  intro other rest remainder otherNested _ ends same
  obtain ⟨next, more, nextNested, each, rfl, rows⟩ :=
    @Leads.extension _ leads (.inList candidates) _ _ _ otherNested ends same
  cases next with
  | inList others =>
    simp only [Extension.pieces, List.cons_append, List.append_assoc, List.nil_append,
      List.cons.injEq, true_and] at rows
    obtain ⟨rfl, rests⟩ :=
      eq_of_candidate_pieces determined nextNested.2 nonempty nextNested.1 rows
    exact ⟨more, each, rfl, rests⟩
  | _ => cases (List.cons_eq_cons.1 rows).1

/-- A comparison is determined if its left side leads and its right side is closed: the right side
then ends where the comparison does. -/
theorem determined_comparison {left right : Node} (leads : left.Leads) (rightLeads : right.Leads)
    (closed : right.isClosed) (operator : ComparisonOperator) :
    (Node.comparison operator left right).Determined := by
  intro other rest remainder otherNested ends otherEnds same
  obtain ⟨next, more, nextNested, each, rfl, rows⟩ :=
    @Leads.extension _ leads (.comparison operator right) _ _ _ otherNested otherEnds same
  cases next with
  | comparison otherOperator otherRight =>
    obtain ⟨piece, rights⟩ := List.cons_eq_cons.1 rows
    cases piece
    obtain ⟨rfl, rfl, rests⟩ := rightLeads.last closed nextNested each ends otherEnds rights
    exact ⟨rfl, rests⟩
  | _ => cases (List.cons_eq_cons.1 rows).1

/-- A test against a pattern is determined if its first operand leads and its pattern is closed. -/
theorem determined_like {expression pattern : Node} (leads : expression.Leads)
    (patternLeads : pattern.Leads) (closed : pattern.isClosed) :
    (Node.like expression pattern none).Determined := by
  intro other rest remainder otherNested ends otherEnds same
  obtain ⟨next, more, nextNested, each, rfl, rows⟩ :=
    @Leads.extension _ leads (.like pattern) _ _ _ otherNested otherEnds same
  cases next with
  | like otherPattern =>
    obtain ⟨-, patterns⟩ := List.cons_eq_cons.1 rows
    obtain ⟨rfl, rfl, rests⟩ := patternLeads.last closed nextNested each ends otherEnds patterns
    exact ⟨rfl, rests⟩
  | _ => cases (List.cons_eq_cons.1 rows).1

/-- A range is determined if its first operand leads and its upper bound is closed; its lower bound
stands between two words and only has to be determined. -/
theorem determined_between {expression lower upper : Node} (leads : expression.Leads)
    (lowerDetermined : lower.Determined) (upperLeads : upper.Leads) (closed : upper.isClosed) :
    (Node.between expression lower upper).Determined := by
  intro other rest remainder otherNested ends otherEnds same
  obtain ⟨next, more, nextNested, each, rfl, rows⟩ :=
    @Leads.extension _ leads (.between lower upper) _ _ _ otherNested otherEnds same
  cases next with
  | between otherLower otherUpper =>
    simp only [Extension.pieces, List.cons_append, List.append_assoc, List.cons.injEq,
      true_and] at rows
    obtain ⟨rfl, uppers⟩ :=
      lowerDetermined nextNested.1 (.conjunction _) (.conjunction _) rows
    obtain ⟨rfl, rfl, rests⟩ := upperLeads.last closed nextNested.2 each ends otherEnds
      (List.cons_eq_cons.1 uppers).2
    exact ⟨rfl, rests⟩
  | _ => cases (List.cons_eq_cons.1 rows).1

/-- An unambiguous tree can be told from its pieces; and if it is postfixed, then also in front of
whatever extends it.  The second is what carries the induction through first operands, and the
first through operands that stand between others. -/
theorem Nested.reading {node : Node} (nested : node.Nested) (unambiguous : node.Unambiguous) :
    node.Determined ∧ (node.isPostfixed → node.Leads) := by
  induction nested with
  | column name table =>
    have leads := leads_of_isClosed (.column name table) rfl (by rintro other ⟨⟩)
    exact ⟨leads.determined, fun _ => leads⟩
  | text value =>
    have leads := leads_of_isClosed (.text value) rfl (by rintro other ⟨⟩)
    exact ⟨leads.determined, fun _ => leads⟩
  | @not operand nested atOperand =>
    simp only [unambiguous_iff (.not operand), children, List.forall_mem_cons] at unambiguous
    obtain ⟨-, clear, -⟩ := unambiguous
    have inside : ∀ other, Node.not operand = .not other → other.Determined := by
      rintro other ⟨⟩
      exact (atOperand clear).1
    have leads := leads_of_isClosed (.not nested) rfl inside
    exact ⟨leads.determined, fun _ => leads⟩
  -- From here on a first operand is followed by more, and a last one ends with the node.
  | @comparison operator left right _ _ atLeft atRight =>
    simp only [unambiguous_iff (.comparison operator left right), operandsFit, children,
      Bool.and_eq_true, List.forall_mem_cons] at unambiguous
    obtain ⟨⟨postfixed, closed⟩, clearLeft, clearRight, -⟩ := unambiguous
    have rightLeads := (atRight clearRight).2 (isPostfixed_of_isClosed closed)
    exact ⟨determined_comparison ((atLeft clearLeft).2 postfixed) rightLeads closed operator,
      by rintro ⟨⟩⟩
  | @between expression lower upper _ _ _ atExpression atLower atUpper =>
    simp only [unambiguous_iff (.between expression lower upper), operandsFit, children,
      Bool.and_eq_true, List.forall_mem_cons] at unambiguous
    obtain ⟨⟨postfixed, closed⟩, clearExpression, clearLower, clearUpper, -⟩ := unambiguous
    have upperLeads := (atUpper clearUpper).2 (isPostfixed_of_isClosed closed)
    exact ⟨determined_between ((atExpression clearExpression).2 postfixed)
      (atLower clearLower).1 upperLeads closed, by rintro ⟨⟩⟩
  | @like expression pattern _ _ atExpression atPattern =>
    simp only [unambiguous_iff (.like expression pattern none), operandsFit, children,
      Bool.and_eq_true, List.forall_mem_cons] at unambiguous
    obtain ⟨⟨postfixed, closed⟩, clearExpression, clearPattern, -⟩ := unambiguous
    have patternLeads := (atPattern clearPattern).2 (isPostfixed_of_isClosed closed)
    exact ⟨determined_like ((atExpression clearExpression).2 postfixed) patternLeads closed,
      by rintro ⟨⟩⟩
  | @inList expression candidates _ nonempty _ atExpression atEach =>
    simp only [unambiguous_iff (.inList expression candidates), operandsFit, children,
      List.forall_mem_cons] at unambiguous
    obtain ⟨postfixed, clearExpression, clearEach⟩ := unambiguous
    have leads := ((atExpression clearExpression).2 postfixed).inList nonempty
      fun candidate member => (atEach candidate member (clearEach candidate member)).1
    exact ⟨leads.determined, fun _ => leads⟩
  | @isNull negated operand _ atOperand =>
    simp only [unambiguous_iff (.isNull negated operand), operandsFit, children,
      List.forall_mem_cons] at unambiguous
    obtain ⟨postfixed, clear, -⟩ := unambiguous
    have leads := ((atOperand clear).2 postfixed).isNull negated
    exact ⟨leads.determined, fun _ => leads⟩

/-- No other tree of nested predicates has the pieces of an unambiguous one.  The text of such a
tree determines it. -/
theorem Nested.unique {node other : Node} (nested : node.Nested) (otherNested : other.Nested)
    (unambiguous : node.Unambiguous) (same : other.pieces = node.pieces) : other = node := by
  have rows : node.pieces ++ [] = other.pieces ++ [] := by rw [same]
  exact ((nested.reading unambiguous).1 otherNested .finish .finish rows).1

end Node

end Pushdown
