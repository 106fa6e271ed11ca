/-
Module: Pushdown.Proofs.Sql.Piece
Purpose: Trees of nested predicates, and their texts as rows of pieces that can be told apart.
Main exports: Node.IsPredicateTree, Node.Nested, Piece, Node.pieces,
  Generator.text_eq_iff_pieces_eq
-/
import Pushdown.Proofs.Sql.Legible
import Pushdown.Proofs.Sql.Payload
import Pushdown.Proofs.Text.Value

namespace Pushdown

/-!
The text of a nested predicate consists of quoted texts and of few words and signs, each of which
the library writes with the blanks around it.  None of these pieces begins another, so the text
can be cut into pieces in one way only, and two texts are equal only if their pieces are.
-/

/-! ### The trees -/

/-- Whether a node may occur among nested predicates: a column without an alias, a string, a
comparison, a range, a null test, a pattern without an escape, a list of candidates or `NOT`. -/
def Node.nests : Node → Prop
  | .column reference => reference.tableAlias = none
  | .literal (.text _) => True
  | .not _ => True
  | .comparison _ _ _ => True
  | .between _ _ _ => True
  | .like _ _ escape => escape = none
  | .inList _ _ => True
  | .isNull _ _ => True
  | _ => False

/-- Trees of predicates in which the operands may be predicates again. -/
def Node.IsPredicateTree (node : Node) : Prop := ∀ subnode ∈ node.subnodes, subnode.nests

/-- The same trees by the ways in which they are built.  A list of candidates is not empty. -/
inductive Node.Nested : Node → Prop
  | column (name : String) (table : Option String) : Nested (.column ⟨name, table, none⟩)
  | text (value : String) : Nested (.literal (.text value))
  | not {operand : Node} (nested : operand.Nested) : Nested (.not operand)
  | comparison (operator : ComparisonOperator) {left right : Node} (isLeft : left.Nested)
      (isRight : right.Nested) : Nested (.comparison operator left right)
  | between {expression lower upper : Node} (isExpression : expression.Nested)
      (isLower : lower.Nested) (isUpper : upper.Nested) :
      Nested (.between expression lower upper)
  | like {expression pattern : Node} (isExpression : expression.Nested)
      (isPattern : pattern.Nested) : Nested (.like expression pattern none)
  | inList {expression : Node} {candidates : List Node} (isExpression : expression.Nested)
      (nonempty : candidates ≠ []) (each : ∀ candidate ∈ candidates, candidate.Nested) :
      Nested (.inList expression candidates)
  | isNull (negated : Bool) {operand : Node} (nested : operand.Nested) :
      Nested (.isNull negated operand)

/-- A tree is one of nested predicates if its root nests and the trees below do.  The claim has the
condition for all nodes, the induction needs it by level. -/
theorem Node.isPredicateTree_iff (node : Node) :
    node.IsPredicateTree ↔ node.nests ∧ ∀ child ∈ node.children, child.IsPredicateTree :=
  node.forall_subnodes_iff Node.nests

/-- A tree of predicates that has a form. -/
theorem Node.nested_of_wellFormed (generator : Generator) (node : Node)
    (isTree : node.IsPredicateTree) (wellFormed : generator.WellFormed node) : node.Nested := by
  induction node using Node.inductionOnChildren with
  | step node inductionHypothesis =>
    obtain ⟨nests, childTrees⟩ := node.isPredicateTree_iff.1 isTree
    obtain ⟨sound, childrenFormed⟩ := (generator.wellFormed_iff node).1 wellFormed
    have below : ∀ child ∈ node.children, child.Nested := fun child member =>
      inductionHypothesis child member (childTrees child member) (childrenFormed child member)
    match node with
    | .column ⟨name, qualifier, none⟩ => exact .column name qualifier
    | .literal (.text value) => exact .text value
    | .not operand =>
      simp only [children, List.forall_mem_cons] at below
      exact .not below.1
    | .comparison operator left right =>
      simp only [children, List.forall_mem_cons] at below
      exact .comparison operator below.1 below.2.1
    | .between expression lower upper =>
      simp only [children, List.forall_mem_cons] at below
      exact .between below.1 below.2.1 below.2.2.1
    | .like expression pattern none =>
      simp only [children, List.forall_mem_cons] at below
      exact .like below.1 below.2.1
    | .inList expression candidates =>
      simp only [children, List.forall_mem_cons] at below
      exact .inList below.1 sound below.2
    | .isNull negated operand =>
      simp only [children, List.forall_mem_cons] at below
      exact .isNull negated below.1

/-- Such a tree is one of predicates and has a form under every generator.  Nothing about its
rendering is left open but its text. -/
theorem Node.Nested.wellFormed {node : Node} (nested : node.Nested) (generator : Generator) :
    node.IsPredicateTree ∧ generator.WellFormed node := by
  induction nested with
  | column | text =>
    rw [Node.isPredicateTree_iff, Generator.wellFormed_iff]
    simp [Node.nests, Node.children, Generator.Sound, Generator.SoundLiteral]
  | not | isNull =>
    rw [Node.isPredicateTree_iff, Generator.wellFormed_iff]
    simp_all [Node.nests, Node.children, Generator.Sound]
  | comparison | between | like =>
    rw [Node.isPredicateTree_iff, Generator.wellFormed_iff]
    simp_all [Node.nests, Node.children, Generator.Sound]
  | inList _ nonempty each atExpression atEach =>
    rw [Node.isPredicateTree_iff, Generator.wellFormed_iff]
    simp only [Node.nests, Node.children, Generator.Sound, List.forall_mem_cons]
    exact ⟨⟨trivial, atExpression.1, fun candidate member => (atEach candidate member).1⟩,
      nonempty, atExpression.2, fun candidate member => (atEach candidate member).2⟩

/-! ### The pieces -/

/-- The words and signs between the operands of predicates. -/
inductive Joint where
  | stop
  | comma
  | closing
  | negation
  | conjunction
  | comparison (operator : ComparisonOperator)
  | between
  | like
  | candidates
  | isNull (negated : Bool)
deriving Repr, DecidableEq

namespace Joint

/-- Every joint. -/
def all : List Joint :=
  [.stop, .comma, .closing, .negation, .conjunction] ++
    ComparisonOperator.all.map .comparison ++
    [.between, .like, .candidates, .isNull false, .isNull true]

theorem mem_all (joint : Joint) : joint ∈ all := by
  cases joint with
  | comparison operator => cases operator <;> decide
  | isNull negated => cases negated <;> decide
  | _ => decide

/-- A joint as written. -/
def text : Joint → String
  | .stop => "."
  | .comma => ", "
  | .closing => ")"
  | .negation => "NOT ("
  | .conjunction => " AND "
  | .comparison operator => " " ++ operator.symbol ++ " "
  | .between => " BETWEEN "
  | .like => " LIKE "
  | .candidates => " IN ("
  | .isNull negated => if negated then " IS NOT NULL" else " IS NULL"

theorem text_ne_nil : ∀ joint ∈ all, joint.text.toList ≠ [] := by decide

/-- No joint begins with another. -/
theorem prefixFree : PrefixFree fun joint : Joint => joint.text.toList :=
  .of_table mem_all (by decide)

end Joint

/-- A piece of the text of a predicate. -/
inductive Piece where
  | payload (payload : Payload)
  | joint (joint : Joint)
deriving Repr, DecidableEq

/-- What a reader makes of a piece. -/
def Piece.lexemes (dialect : Dialect) : Piece → List Lexeme
  | .payload quoted => [.quoted (dialect.quote quoted).1 (dialect.quote quoted).2]
  | .joint word => word.text.toList.map .plain

mutual

/-- The pieces of a predicate. -/
def Node.pieces : Node → List Piece
  | .column reference =>
    match reference.qualifier with
    | some qualifier =>
      [.payload (.name qualifier), .joint .stop, .payload (.name reference.name)]
    | none => [.payload (.name reference.name)]
  | .literal (.text value) => [.payload (.text value)]
  | .not operand => .joint .negation :: (operand.pieces ++ [.joint .closing])
  | .comparison operator left right =>
    left.pieces ++ .joint (.comparison operator) :: right.pieces
  | .between expression lower upper =>
    expression.pieces ++ .joint .between :: (lower.pieces ++ .joint .conjunction :: upper.pieces)
  | .like expression pattern _ => expression.pieces ++ .joint .like :: pattern.pieces
  | .inList expression candidates =>
    expression.pieces ++ .joint .candidates :: (candidatePieces candidates ++ [.joint .closing])
  | .isNull negated operand => operand.pieces ++ [.joint (.isNull negated)]
  | _ => []

/-- The pieces of a list of candidates. -/
def candidatePieces : List Node → List Piece
  | [] => []
  | candidate :: rest => candidate.pieces ++ furtherPieces rest

/-- The pieces of candidates behind another. -/
def furtherPieces : List Node → List Piece
  | [] => []
  | candidate :: rest => .joint .comma :: (candidate.pieces ++ furtherPieces rest)

end

/-! ### Rows of pieces can be told apart -/

/-- A joint begins with a character of the library's own, which no quoted text does.  Joints and
names are told apart by their first lexeme. -/
theorem Joint.lexemes_cons (dialect : Dialect) (joint : Joint) :
    ∃ c rest, (Piece.joint joint).lexemes dialect = .plain c :: rest := by
  obtain ⟨c, rest, same⟩ := List.exists_cons_of_ne_nil (text_ne_nil joint joint.mem_all)
  exact ⟨c, rest.map .plain, by rw [Piece.lexemes, same, List.map_cons]⟩

/-- No piece begins with another, if the marks of the dialect give payloads back as they are. -/
theorem Piece.prefixFree {dialect : Dialect} (faithful : Function.Injective dialect.quote) :
    PrefixFree (Piece.lexemes dialect) := by
  intro piece other start
  cases piece with
  | payload quoted =>
    cases other with
    | payload otherQuoted =>
      obtain ⟨style, text⟩ := Lexeme.quoted.inj (List.cons_prefix_cons.1 start).1
      exact congrArg Piece.payload (faithful (Prod.ext style text))
    | joint word =>
      obtain ⟨c, more, letters⟩ := word.lexemes_cons dialect
      rw [letters] at start
      cases (List.cons_prefix_cons.1 start).1
  | joint word =>
    cases other with
    | payload otherQuoted =>
      obtain ⟨c, more, letters⟩ := word.lexemes_cons dialect
      rw [letters] at start
      cases (List.cons_prefix_cons.1 start).1
    | joint otherWord =>
      have plainInjective : Function.Injective Lexeme.plain := fun _ _ => Lexeme.plain.inj
      exact congrArg Piece.joint (Joint.prefixFree.map plainInjective word otherWord start)

/-- Every piece is written as something.  Without this, equal texts could have different numbers of
pieces. -/
theorem Piece.lexemes_ne_nil (dialect : Dialect) (piece : Piece) :
    piece.lexemes dialect ≠ [] := by
  cases piece with
  | payload quoted => exact List.cons_ne_nil _ _
  | joint word =>
    obtain ⟨c, rest, same⟩ := word.lexemes_cons dialect
    rw [same]
    exact List.cons_ne_nil _ _

/-! ### The pieces have the text of the tree -/

/-- Pieces of SQL in a row have the separator before each but the first. -/
theorem Sql.lexemes_separated (separator : String) (first : Sql) (rest : List Sql) :
    (Sql.separated separator (first :: rest)).lexemes =
      first.lexemes ++ rest.flatMap fun part => separator.toList.map .plain ++ part.lexemes := by
  induction rest generalizing first with
  | nil => simp [Sql.separated]
  | cons second rest inductionHypothesis =>
    rw [Sql.separated_cons_cons, Sql.lexemes_append, Sql.lexemes_append, inductionHypothesis,
      Sql.lexemes_code, List.flatMap_cons, List.append_assoc, List.append_assoc]

namespace Generator

variable (generator : Generator)

/-- Further candidates have a comma before each of them. -/
theorem lexemes_further {candidates : List Node}
    (each : ∀ candidate ∈ candidates, (generator.written candidate).lexemes =
      candidate.pieces.flatMap (Piece.lexemes generator.dialect)) :
    ((candidates.map generator.written).flatMap fun part =>
        ", ".toList.map .plain ++ part.lexemes) =
      (furtherPieces candidates).flatMap (Piece.lexemes generator.dialect) := by
  induction candidates with
  | nil => rfl
  | cons candidate rest inductionHypothesis =>
    rw [List.forall_mem_cons] at each
    rw [List.map_cons, List.flatMap_cons, inductionHypothesis each.2, each.1, furtherPieces,
      List.flatMap_cons, List.flatMap_append, List.append_assoc]
    rfl

/-- A predicate is written as its pieces.  From here on trees are compared by pieces, and characters
play no further part. -/
theorem lexemes_written {node : Node} (nested : node.Nested) :
    (generator.written node).lexemes =
      node.pieces.flatMap (Piece.lexemes generator.dialect) := by
  induction nested with
  | column name table => cases table <;> rfl
  | text value => rfl
  | not _ inductionHypothesis =>
    simp [written, Node.pieces, inductionHypothesis, Piece.lexemes, Joint.text]
  | comparison operator _ _ atLeft atRight =>
    simp [written, Node.pieces, atLeft, atRight, Piece.lexemes, Joint.text]
  | between _ _ _ atExpression atLower atUpper =>
    simp [written, Node.pieces, atExpression, atLower, atUpper, Piece.lexemes, Joint.text]
  | like _ _ atExpression atPattern =>
    simp [written, writtenAfter, Node.pieces, atExpression, atPattern, Piece.lexemes, Joint.text]
  | @inList expression candidates _ nonempty _ atExpression atEach =>
    obtain ⟨first, rest, rfl⟩ := List.exists_cons_of_ne_nil nonempty
    rw [List.forall_mem_cons] at atEach
    have further := generator.lexemes_further atEach.2
    simpa [written, Node.pieces, candidatePieces, writtenEach_eq_map, Sql.commaSeparated,
      Sql.lexemes_separated, atExpression, atEach.1, Piece.lexemes, Joint.text] using further
  | isNull negated _ inductionHypothesis =>
    simp [written, Node.pieces, inductionHypothesis, Piece.lexemes, Joint.text]

/-- Predicates that are written alike have the same pieces, and those with the same pieces are
written alike, if the marks of the dialect give payloads back as they are. -/
theorem text_eq_iff_pieces_eq {dialect : Dialect} (readable : dialect.Readable)
    (faithful : Function.Injective dialect.quote) {context otherContext : QueryContext}
    {limit otherLimit : Nat} {node other : Node} (nested : node.Nested)
    (otherNested : other.Nested) :
    ((dialect.generator context limit).written node).toText =
        ((dialect.generator otherContext otherLimit).written other).toText ↔
      node.pieces = other.pieces := by
  have read := scan_chars readable.distinct
    ((dialect.generator context limit).written_legible readable node)
  have otherRead := scan_chars readable.distinct
    ((dialect.generator otherContext otherLimit).written_legible readable other)
  rw [lexemes_written _ nested] at read
  rw [lexemes_written _ otherNested] at otherRead
  rw [Sql.toText, Sql.toText, String.ofList_inj]
  constructor
  · intro same
    rw [same, otherRead, Option.some.injEq] at read
    exact (Piece.prefixFree faithful).flatMap_injective (Piece.lexemes_ne_nil dialect) read.symm
  · intro same
    rw [← Sql.lexemes_chars, ← Sql.lexemes_chars, lexemes_written _ nested,
      lexemes_written _ otherNested, same]
    rfl

end Generator

/-- The standard marks give every payload back. -/
theorem Dialect.generic_quote_injective : Function.Injective Dialect.generic.quote := by
  intro payload other same
  cases payload with
  | name text =>
    cases other with
    | name otherText => exact congrArg Payload.name (congrArg Prod.snd same)
    | text value => cases congrArg Prod.fst same
  | text value =>
    cases other with
    | name otherText => cases congrArg Prod.fst same
    | text otherValue => exact congrArg Payload.text (congrArg Prod.snd same)

end Pushdown
