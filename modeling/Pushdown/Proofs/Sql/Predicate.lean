/-
Module: Pushdown.Proofs.Sql.Predicate
Purpose: Predicates over columns and strings, and truth values, as they are read.
Main exports: Node.IsOperand, Node.IsPredicate, Follows, Generator.predicate_onto,
  Generator.boolean_read
-/
import Pushdown.Proofs.Sql.Formula
import Pushdown.Proofs.Sql.Legible
import Pushdown.Proofs.Sql.Payload

namespace Pushdown

/-!
A predicate is made of operands and of a few words and signs, so its tokens can be listed without
knowing its names and strings.  Reading them back takes exactly these tokens, whatever follows the
predicate in a boolean tree.
-/

/-- Trees that can be compared: columns and strings. -/
inductive Node.IsOperand : Node → Prop
  | column (column : ColumnReference) : IsOperand (.column column)
  | text (value : String) : IsOperand (.literal (.text value))

/-- Predicates over columns and strings. -/
inductive Node.IsPredicate : Node → Prop
  | column (column : ColumnReference) : IsPredicate (.column column)
  | comparison (operator : ComparisonOperator) {left right : Node} (isLeft : left.IsOperand)
      (isRight : right.IsOperand) : IsPredicate (.comparison operator left right)
  | between {expression lower upper : Node} (isExpression : expression.IsOperand)
      (isLower : lower.IsOperand) (isUpper : upper.IsOperand) :
      IsPredicate (.between expression lower upper)
  | isNull (negated : Bool) {operand : Node} (isOperand : operand.IsOperand) :
      IsPredicate (.isNull negated operand)

/-! ### Tokens of the library's own words -/

theorem push_sign {c : Char} (blank : c.isWhitespace = false) (sign : isWordChar c = false)
    (alone : ∀ text, joinsSign c text = false) (rest : List Token) :
    push (.plain c) rest = ⟨[], .sign [c]⟩ :: rest := by
  simp only [push, blank, sign, alone, Bool.false_eq_true, if_false]
  split <;> rfl

theorem onto_opening (rest : List Token) :
    (Sql.code "(").onto rest = ⟨[], .sign ['(']⟩ :: rest :=
  @push_sign '(' rfl rfl (fun _ => rfl) rest

theorem onto_closing (rest : List Token) :
    (Sql.code ")").onto rest = ⟨[], .sign [')']⟩ :: rest :=
  @push_sign ')' rfl rfl (fun _ => rfl) rest

/-- The negation with its parenthesis makes two tokens. -/
theorem onto_not (rest : List Token) :
    (Sql.code "NOT (").onto rest =
      ⟨[], .word ['N', 'O', 'T']⟩ :: ⟨[' '], .sign ['(']⟩ :: rest := by
  change ['N', 'O', 'T', ' '].foldr (fun c => push (.plain c)) ((Sql.code "(").onto rest) = _
  rw [onto_opening]
  rfl

/-- A comparison operator is one token, also where it has two characters, and the blank behind it
widens the next gap. -/
theorem onto_comparison (operator : ComparisonOperator) {rest : List Token}
    (nonempty : rest ≠ []) :
    (Sql.code (" " ++ operator.symbol ++ " ")).onto rest =
      ⟨[' '], .sign operator.symbol.toList⟩ :: widen ' ' rest := by
  obtain ⟨token, rest, rfl⟩ := List.exists_cons_of_ne_nil nonempty
  cases operator <;> rfl

theorem onto_connective (connective : Connective) {rest : List Token} (nonempty : rest ≠ []) :
    (Sql.code (" " ++ connective.keyword ++ " ")).onto rest =
      ⟨[' '], .word connective.keyword.toList⟩ :: widen ' ' rest := by
  obtain ⟨token, rest, rfl⟩ := List.exists_cons_of_ne_nil nonempty
  cases connective <;> rfl

theorem onto_and {rest : List Token} (nonempty : rest ≠ []) :
    (Sql.code " AND ").onto rest = ⟨[' '], .word "AND".toList⟩ :: widen ' ' rest :=
  onto_connective .conjunction nonempty

theorem onto_between {rest : List Token} (nonempty : rest ≠ []) :
    (Sql.code " BETWEEN ").onto rest =
      ⟨[' '], .word "BETWEEN".toList⟩ :: widen ' ' rest := by
  obtain ⟨token, rest, rfl⟩ := List.exists_cons_of_ne_nil nonempty
  rfl

/-! ### Operands and predicates -/

/-- What may follow a part of a boolean tree: the end, a closing parenthesis or a connective. -/
inductive Follows : List Token → Prop
  | finish : Follows [.finish]
  | closing (rest : List Token) : Follows (⟨[], .sign [')']⟩ :: rest)
  | connective (connective : Connective) (rest : List Token) :
      Follows (⟨[' '], .word connective.keyword.toList⟩ :: rest)

theorem Follows.ne_nil {rest : List Token} (follows : Follows rest) : rest ≠ [] := by
  cases follows <;> exact List.cons_ne_nil _ _

/-- What may follow a part does not go on with an operand.  It begins with a blank or closes a
parenthesis. -/
theorem Follows.noStop {token : Token} {rest : List Token} (follows : Follows (token :: rest)) :
    token.isSign "." = false := by
  cases follows <;> rfl

/-- What may follow a part does not go on with a predicate. -/
theorem Follows.predicateEnd {rest : List Token} (follows : Follows rest) :
    predicateEnd rest = some rest := by
  cases follows with
  | finish => rfl
  | closing => rfl
  | connective connective => cases connective <;> rfl

theorem onto_isNull {rest : List Token} (follows : Follows rest) :
    (Sql.code " IS NULL").onto rest =
      ⟨[' '], .word "IS".toList⟩ :: ⟨[' '], .word "NULL".toList⟩ :: rest := by
  cases follows <;> rfl

theorem onto_isNotNull {rest : List Token} (follows : Follows rest) :
    (Sql.code " IS NOT NULL").onto rest =
      ⟨[' '], .word "IS".toList⟩ :: ⟨[' '], .word "NOT".toList⟩ ::
        ⟨[' '], .word "NULL".toList⟩ :: rest := by
  cases follows <;> rfl

theorem widen_append (c : Char) {left : List Token} (nonempty : left ≠ []) (right : List Token) :
    widen c (left ++ right) = widen c left ++ right := by
  obtain ⟨token, rest, rfl⟩ := List.exists_cons_of_ne_nil nonempty
  rfl

namespace Generator

variable (generator : Generator)

/-- The token of a payload. -/
def quotedToken (payload : Payload) : Token :=
  ⟨[], .quoted (generator.dialect.quote payload).1 (generator.dialect.quote payload).2⟩

/-- The tokens of an operand. -/
def operandTokens : Node → List Token
  | .column column =>
    match column.qualifier with
    | some qualifier =>
      [generator.quotedToken (.name qualifier), ⟨[], .sign ['.']⟩,
        generator.quotedToken (.name column.name)]
    | none => [generator.quotedToken (.name column.name)]
  | .literal (.text value) => [generator.quotedToken (.text value)]
  | _ => []

/-- The tokens of a predicate. -/
def predicateTokens : Node → List Token
  | .comparison operator left right =>
    generator.operandTokens left ++
      ⟨[' '], .sign operator.symbol.toList⟩ :: widen ' ' (generator.operandTokens right)
  | .between expression lower upper =>
    generator.operandTokens expression ++ ⟨[' '], .word "BETWEEN".toList⟩ ::
      (widen ' ' (generator.operandTokens lower) ++ ⟨[' '], .word "AND".toList⟩ ::
        widen ' ' (generator.operandTokens upper))
  | .isNull negated operand =>
    generator.operandTokens operand ++
      if negated then
        [⟨[' '], .word "IS".toList⟩, ⟨[' '], .word "NOT".toList⟩, ⟨[' '], .word "NULL".toList⟩]
      else [⟨[' '], .word "IS".toList⟩, ⟨[' '], .word "NULL".toList⟩]
  | node => generator.operandTokens node

variable {generator} {node : Node}

theorem operandTokens_cons (generator : Generator) (isOperand : node.IsOperand) :
    ∃ payload rest, generator.operandTokens node = generator.quotedToken payload :: rest := by
  cases isOperand with
  | column column =>
    simp only [operandTokens]
    cases column.qualifier with
    | none => exact ⟨_, _, rfl⟩
    | some qualifier => exact ⟨_, _, rfl⟩
  | text value => exact ⟨_, _, rfl⟩

theorem operandTokens_ne_nil (generator : Generator) (isOperand : node.IsOperand) :
    generator.operandTokens node ≠ [] := by
  obtain ⟨payload, rest, same⟩ := operandTokens_cons generator isOperand
  rw [same]
  exact List.cons_ne_nil _ _

/-- What is written for an operand is read as its tokens. -/
theorem onto_operand (isOperand : node.IsOperand) (rest : List Token) :
    (generator.written node).onto rest = generator.operandTokens node ++ rest := by
  cases isOperand with
  | column column =>
    simp only [written, Generator.column, operandTokens]
    cases column.qualifier with
    | none => rfl
    | some qualifier => rfl
  | text value => rfl

/-- An operand is read up to its end. -/
theorem operand_operandTokens (isOperand : node.IsOperand) {token : Token} {rest : List Token}
    (noStop : token.isSign "." = false) :
    operand (generator.operandTokens node ++ token :: rest) = some (token :: rest) := by
  have alone : ∀ payload, operand (generator.quotedToken payload :: token :: rest) =
      some (token :: rest) := by
    intro payload
    simp only [operand, noStop, Bool.false_eq_true, if_false]
    rfl
  cases isOperand with
  | column column =>
    simp only [operandTokens]
    cases column.qualifier with
    | none => exact alone _
    | some qualifier => exact alone _
  | text value => exact alone _

/-- A blank before an operand makes no difference to where it ends. -/
theorem operand_widened (isOperand : node.IsOperand) {token : Token} {rest : List Token}
    (noStop : token.isSign "." = false) :
    operand (widen ' ' (generator.operandTokens node) ++ token :: rest) =
      some (token :: rest) := by
  rw [← widen_append ' ' (operandTokens_ne_nil generator isOperand), operand_widen]
  exact operand_operandTokens isOperand noStop

/-- What is written for a predicate is read as its tokens, before whatever may follow a part. -/
theorem onto_predicate (isPredicate : node.IsPredicate) {rest : List Token}
    (follows : Follows rest) :
    (generator.written node).onto rest = generator.predicateTokens node ++ rest := by
  have nonempty := follows.ne_nil
  cases isPredicate with
  | column column => exact onto_operand (.column column) rest
  | comparison operator isLeft isRight =>
    have filled := operandTokens_ne_nil generator isRight
    simp only [written, predicateTokens, Sql.onto_append, onto_operand isLeft,
      onto_operand isRight]
    rw [onto_comparison operator (List.append_ne_nil_of_left_ne_nil filled rest),
      widen_append ' ' filled]
    simp
  | @between expression lower upper isExpression isLower isUpper =>
    have filledLower := operandTokens_ne_nil generator isLower
    have filledUpper := operandTokens_ne_nil generator isUpper
    have filled : generator.operandTokens lower ++ ⟨[' '], .word "AND".toList⟩ ::
        widen ' ' (generator.operandTokens upper ++ rest) ≠ [] :=
      List.append_ne_nil_of_left_ne_nil filledLower _
    simp only [written, predicateTokens, Sql.onto_append, onto_operand isExpression,
      onto_operand isLower, onto_operand isUpper]
    rw [onto_and (List.append_ne_nil_of_left_ne_nil filledUpper rest), onto_between filled,
      widen_append ' ' filledLower, widen_append ' ' filledUpper]
    simp
  | isNull negated isOperand =>
    simp only [written, predicateTokens, Sql.onto_append, onto_operand isOperand,
      List.append_assoc]
    congr 1
    cases negated with
    | false => exact onto_isNull follows
    | true => exact onto_isNotNull follows

/-- A range is read to the end of its upper bound; the word between its bounds is no connective. -/
theorem predicateEnd_between {gap : List Char} {rest upper : List Token} {conjunction : Token}
    (lower : operand rest = some (conjunction :: upper))
    (isAnd : conjunction.isWord "AND" = true) :
    predicateEnd (⟨gap, .word "BETWEEN".toList⟩ :: rest) = operand upper := by
  have notCompares : (Token.mk gap (.word "BETWEEN".toList)).compares = false := rfl
  have isBetween : (Token.mk gap (.word "BETWEEN".toList)).isWord "BETWEEN" = true := rfl
  simp only [predicateEnd, notCompares, isBetween, lower, isAnd, if_true, Bool.false_eq_true,
    if_false]

/-- A predicate is read up to its end.  There are as many cases as forms of predicates, and each
ends where an operand or a keyword ends. -/
theorem operand_predicateTokens (generator : Generator) (isPredicate : node.IsPredicate)
    {rest : List Token} (follows : Follows rest) :
    ∃ more, operand (generator.predicateTokens node ++ rest) = some more ∧
      predicateEnd more = some rest := by
  obtain ⟨next, after, rfl⟩ := List.exists_cons_of_ne_nil follows.ne_nil
  have noStop := follows.noStop
  cases isPredicate with
  | column column =>
    exact ⟨_, operand_operandTokens (.column column) noStop, follows.predicateEnd⟩
  | comparison operator isLeft isRight =>
    simp only [predicateTokens, List.append_assoc, List.cons_append]
    refine ⟨_, operand_operandTokens isLeft ?_, ?_⟩
    · cases operator <;> rfl
    · have compares : (Token.mk [' '] (.sign operator.symbol.toList)).compares = true := by
        cases operator <;> rfl
      simp only [predicateEnd, compares, if_true]
      exact operand_widened isRight noStop
  | between isExpression isLower isUpper =>
    simp only [predicateTokens, List.append_assoc, List.cons_append]
    refine ⟨_, operand_operandTokens isExpression rfl, ?_⟩
    rw [predicateEnd_between (operand_widened isLower rfl) rfl]
    exact operand_widened isUpper noStop
  | isNull negated isOperand =>
    simp only [predicateTokens, List.append_assoc]
    cases negated with
    | false => exact ⟨_, operand_operandTokens isOperand rfl, rfl⟩
    | true => exact ⟨_, operand_operandTokens isOperand rfl, rfl⟩

/-- A predicate starts with a quoted token, that of its first operand. -/
theorem predicateTokens_cons (generator : Generator) (isPredicate : node.IsPredicate) :
    ∃ payload rest, generator.predicateTokens node = generator.quotedToken payload :: rest := by
  cases isPredicate with
  | column column => exact operandTokens_cons generator (.column column)
  | comparison operator isLeft isRight =>
    obtain ⟨payload, rest, same⟩ := operandTokens_cons generator isLeft
    exact ⟨payload, _, by rw [predicateTokens, same]; rfl⟩
  | between isExpression isLower isUpper =>
    obtain ⟨payload, rest, same⟩ := operandTokens_cons generator isExpression
    exact ⟨payload, _, by rw [predicateTokens, same]; rfl⟩
  | isNull negated isOperand =>
    obtain ⟨payload, rest, same⟩ := operandTokens_cons generator isOperand
    exact ⟨payload, _, by rw [predicateTokens, same]; rfl⟩

/-- The tokens of a predicate have its text. -/
theorem sourceText_predicateTokens (isPredicate : node.IsPredicate) :
    sourceText (generator.predicateTokens node) = (generator.written node).toText := by
  have chars := (generator.written node).chars_onto (List.cons_ne_nil Token.finish [])
  rw [onto_predicate isPredicate .finish, spacedChars_append] at chars
  have same := List.append_cancel_right chars
  obtain ⟨payload, rest, tokens⟩ := predicateTokens_cons generator isPredicate
  rw [tokens] at same ⊢
  rw [Sql.toText, ← same, spacedChars_cons]
  rfl

/-- The text of a predicate starts with a mark.  Truth values start with a letter or a digit, so the
two cannot be confused. -/
theorem marked_of_isPredicate (readable : generator.dialect.Readable)
    (isPredicate : node.IsPredicate) : ¬ Text.Unmarked (generator.written node).toText := by
  obtain ⟨payload, rest, tokens⟩ := predicateTokens_cons generator isPredicate
  have style : (generator.dialect.quote payload).1 ∈ generator.dialect.quoting := by
    cases payload <;> simp [Dialect.quote, Dialect.quoting]
  have mark := (readable.distinct _ style).2.1
  intro unmarked
  rw [← sourceText_predicateTokens isPredicate, tokens] at unmarked
  have unmarkedOpening := unmarked (generator.dialect.quote payload).1.opening (by
    simp [sourceText, quotedToken, TokenKind.chars, Text.QuoteStyle.encodeChars])
  rw [mark] at unmarkedOpening
  cases unmarkedOpening

/-- So it is not the text of a truth value, and is taken for a predicate. -/
theorem predicateOf_written (readable : generator.dialect.Readable)
    (isPredicate : node.IsPredicate) :
    generator.dialect.predicateOf (generator.written node).toText =
      .predicate (generator.written node).toText := by
  have marked := marked_of_isPredicate readable isPredicate
  have notTrue : (generator.written node).toText ≠ generator.dialect.trueToken := fun same =>
    marked (same ▸ readable.booleanToken true)
  have notFalse : (generator.written node).toText ≠ generator.dialect.falseToken := fun same =>
    marked (same ▸ readable.booleanToken false)
  rw [Dialect.predicateOf, if_neg notTrue, if_neg notFalse]

/-- A predicate is cut out of its tokens by where it ends, and known by the text that was cut
out. -/
theorem predicate_of_tokens (dialect : Dialect) {front rest more : List Token}
    (operandRead : operand (front ++ rest) = some more)
    (endRead : predicateEnd more = some rest) :
    dialect.predicate (front ++ rest) =
      some (dialect.predicateOf (sourceText front), rest) := by
  have taken : (front ++ rest).take ((front ++ rest).length - rest.length) = front := by simp
  simp only [Dialect.predicate, operandRead, endRead, taken]

/-- A predicate is read as its text, up to what follows it and no further.  This is the only fact on
predicates that the reading of trees depends on. -/
theorem predicate_onto (readable : generator.dialect.Readable) (isPredicate : node.IsPredicate)
    {rest : List Token} (follows : Follows rest) :
    generator.dialect.predicate ((generator.written node).onto rest) =
      some (.predicate (generator.written node).toText, rest) := by
  obtain ⟨more, operandRead, endRead⟩ :=
    operand_predicateTokens generator isPredicate follows
  rw [onto_predicate isPredicate follows, predicate_of_tokens _ operandRead endRead,
    sourceText_predicateTokens isPredicate, predicateOf_written readable isPredicate]

/-! ### Truth values -/

/-- The two ways in which dialects write truth values. -/
theorem booleanTokens {dialect : Dialect} (builtin : dialect.IsBuiltin) :
    (dialect.trueToken = "true" ∧ dialect.falseToken = "false") ∨
      (dialect.trueToken = "1 = 1" ∧ dialect.falseToken = "1 = 0") := by
  rcases builtin.cases with rfl | rfl | rfl | ⟨identifierCase, rfl⟩ | rfl
  · exact .inl ⟨rfl, rfl⟩
  · exact .inl ⟨rfl, rfl⟩
  · exact .inl ⟨rfl, rfl⟩
  · exact .inl ⟨rfl, rfl⟩
  · exact .inr ⟨rfl, rfl⟩

/-- The texts of truth values are predicates that start with a word. -/
theorem booleanText_read {text : String} (listed : text ∈ ["true", "false", "1 = 1", "1 = 0"])
    {rest : List Token} (follows : Follows rest) :
    ∃ word tail more, (Sql.code text).onto rest = (⟨[], .word word⟩ :: tail) ++ rest ∧
      (Token.mk [] (.word word)).isWord "NOT" = false ∧
      operand ((⟨[], .word word⟩ :: tail) ++ rest) = some more ∧
      predicateEnd more = some rest ∧ sourceText (⟨[], .word word⟩ :: tail) = text := by
  have alone : ∀ gap word, (Token.mk gap (.word word)).isAtom = true →
      operand (⟨gap, .word word⟩ :: rest) = some rest := by
    intro gap word atom
    obtain ⟨next, after, rfl⟩ := List.exists_cons_of_ne_nil follows.ne_nil
    simp only [operand, atom, follows.noStop, if_true, Bool.false_eq_true, if_false]
  have equation : ∀ word, (Token.mk [' '] (.word word)).isAtom = true →
      predicateEnd (⟨[' '], .sign ['=']⟩ :: ⟨[' '], .word word⟩ :: rest) = some rest :=
    fun word atom => alone [' '] word atom
  simp only [List.mem_cons, List.not_mem_nil, or_false] at listed
  rcases listed with rfl | rfl | rfl | rfl
  · refine ⟨"true".toList, [], rest, ?_, rfl, alone _ _ rfl, follows.predicateEnd, rfl⟩
    cases follows <;> rfl
  · refine ⟨"false".toList, [], rest, ?_, rfl, alone _ _ rfl, follows.predicateEnd, rfl⟩
    cases follows <;> rfl
  · refine ⟨['1'], [⟨[' '], .sign ['=']⟩, ⟨[' '], .word ['1']⟩], _, ?_, rfl, rfl,
      equation _ rfl, rfl⟩
    cases follows <;> rfl
  · refine ⟨['1'], [⟨[' '], .sign ['=']⟩, ⟨[' '], .word ['0']⟩], _, ?_, rfl, rfl,
      equation _ rfl, rfl⟩
    cases follows <;> rfl

/-- A truth value is read as itself in every dialect of the library, also where it is written as a
comparison of numbers. -/
theorem boolean_read (builtin : generator.dialect.IsBuiltin) (value : Bool)
    {rest : List Token} (follows : Follows rest) :
    ∃ word more,
      (generator.written (.literal (.bool value))).onto rest = ⟨[], .word word⟩ :: more ∧
      (Token.mk [] (.word word)).isWord "NOT" = false ∧
      generator.dialect.predicate (⟨[], .word word⟩ :: more) = some (.constant value, rest) := by
  have listed : generator.dialect.booleanToken value ∈ ["true", "false", "1 = 1", "1 = 0"] := by
    rcases booleanTokens builtin with ⟨isTrue, isFalse⟩ | ⟨isTrue, isFalse⟩ <;>
      cases value <;> simp [Dialect.booleanToken, isTrue, isFalse]
  have distinct : generator.dialect.falseToken ≠ generator.dialect.trueToken := by
    rcases booleanTokens builtin with ⟨isTrue, isFalse⟩ | ⟨isTrue, isFalse⟩ <;>
      simp [isTrue, isFalse]
  obtain ⟨word, tail, more, onto, notNegation, operandRead, endRead, text⟩ :=
    booleanText_read listed follows
  refine ⟨word, tail ++ rest, onto, notNegation, ?_⟩
  have read := predicate_of_tokens generator.dialect operandRead endRead
  rw [text] at read
  refine read.trans ?_
  cases value with
  | true => simp [Dialect.predicateOf, Dialect.booleanToken]
  | false => simp [Dialect.predicateOf, Dialect.booleanToken, distinct]

/-! ### Form and height -/

theorem wellFormed_operand (generator : Generator) {node : Node} (isOperand : node.IsOperand) :
    generator.WellFormed node := by
  rw [wellFormed_iff]
  cases isOperand <;> simp [Sound, SoundLiteral, Node.children]

/-- A predicate over operands always has a form in SQL.  Well-formedness is therefore no condition
of its own. -/
theorem wellFormed_predicate (generator : Generator) {node : Node}
    (isPredicate : node.IsPredicate) : generator.WellFormed node := by
  rw [wellFormed_iff]
  cases isPredicate with
  | column column => simp [Sound, Node.children]
  | comparison operator isLeft isRight =>
    simp [Sound, Node.children, wellFormed_operand generator isLeft,
      wellFormed_operand generator isRight]
  | between isExpression isLower isUpper =>
    simp [Sound, Node.children, wellFormed_operand generator isExpression,
      wellFormed_operand generator isLower, wellFormed_operand generator isUpper]
  | isNull negated isOperand =>
    simp [Sound, Node.children, wellFormed_operand generator isOperand]

theorem height_operand {node : Node} (isOperand : node.IsOperand) : node.height = 1 := by
  cases isOperand <;> simp [Node.height_eq, Node.children]

theorem length_chars_operand (generator : Generator) {node : Node} (isOperand : node.IsOperand) :
    0 < (generator.written node).chars.length := by
  have chars := (generator.written node).chars_onto (List.cons_ne_nil Token.finish [])
  obtain ⟨payload, rest, tokens⟩ := operandTokens_cons generator isOperand
  rw [onto_operand isOperand, spacedChars_append] at chars
  rw [← List.append_cancel_right chars, tokens]
  simp [quotedToken, TokenKind.chars, Text.QuoteStyle.encodeChars]

/-- A predicate is longer than it is high. -/
theorem height_le_chars_predicate (generator : Generator) {node : Node}
    (isPredicate : node.IsPredicate) :
    node.height ≤ (generator.written node).chars.length := by
  have positive := fun {node : Node} => @length_chars_operand generator node
  cases isPredicate with
  | column column =>
    rw [height_operand (.column column)]
    exact positive (.column column)
  | comparison operator isLeft isRight =>
    have left := positive isLeft
    have right := positive isRight
    rw [Node.height_eq]
    simp only [Node.children, List.map_cons, List.map_nil, greatest_cons, greatest_nil, written,
      height_operand isLeft, height_operand isRight, Sql.chars_append, List.length_append]
    omega
  | between isExpression isLower isUpper =>
    have expression := positive isExpression
    have lower := positive isLower
    rw [Node.height_eq]
    simp only [Node.children, List.map_cons, List.map_nil, greatest_cons, greatest_nil, written,
      height_operand isExpression, height_operand isLower, height_operand isUpper,
      Sql.chars_append, List.length_append]
    omega
  | isNull negated isOperand =>
    have operand := positive isOperand
    have words : 0 < (Sql.code (if negated then " IS NOT NULL" else " IS NULL")).chars.length := by
      cases negated <;> decide
    rw [Node.height_eq]
    simp only [Node.children, List.map_cons, List.map_nil, greatest_cons, greatest_nil, written,
      height_operand isOperand, Sql.chars_append, List.length_append]
    omega

end Generator

end Pushdown
