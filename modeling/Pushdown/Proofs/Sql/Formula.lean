/-
Module: Pushdown.Proofs.Sql.Formula
Purpose: SQL as words, signs and quoted texts, and a reader of boolean expressions in it.
Main exports: Token, tokens, Sql.onto, Sql.chars_onto, Formula, Formula.eval, Dialect.formula,
  Dialect.reparse
-/
import Pushdown.Proofs.Dialect
import Pushdown.Proofs.Sql.Scan

namespace Pushdown

/-! ## Tokens

Tokens are made from lexemes by joining neighbours: letters and digits to words, and characters
to the signs of comparisons.  Each token keeps the white space before it, so no character is lost
and the text of any row of tokens can be told.  A last token stands for the end of the text, so
there always is a token that white space can stand before.
-/

/-- What a token is. -/
inductive TokenKind where
  | word (text : List Char)
  | sign (text : List Char)
  | quoted (style : Text.QuoteStyle) (payload : String)
  | finish
deriving Repr, DecidableEq

/-- A token with the white space before it. -/
structure Token where
  gap : List Char
  kind : TokenKind
deriving Repr, DecidableEq

/-- The end of a text. -/
def Token.finish : Token := ⟨[], .finish⟩

/-- Puts a character of white space before tokens. -/
def widen (c : Char) : List Token → List Token
  | [] => []
  | token :: rest => ⟨c :: token.gap, token.kind⟩ :: rest

/-- Whether a character belongs to words. -/
def isWordChar (c : Char) : Bool := c.isAlphanum || c == '_'

/-- Whether a character and the sign after it are one sign. -/
def joinsSign (c : Char) (sign : List Char) : Bool :=
  [('<', ['=']), ('<', ['>']), ('>', ['='])].contains (c, sign)

/-- Puts a lexeme before tokens; it joins the first of them if the two belong together. -/
def push (lexeme : Lexeme) (tokens : List Token) : List Token :=
  match lexeme with
  | .quoted style payload => ⟨[], .quoted style payload⟩ :: tokens
  | .plain c =>
    if c.isWhitespace then widen c tokens
    else if isWordChar c then
      match tokens with
      | ⟨[], .word text⟩ :: rest => ⟨[], .word (c :: text)⟩ :: rest
      | _ => ⟨[], .word [c]⟩ :: tokens
    else
      match tokens with
      | ⟨[], .sign text⟩ :: rest =>
        if joinsSign c text then ⟨[], .sign (c :: text)⟩ :: rest
        else ⟨[], .sign [c]⟩ :: tokens
      | _ => ⟨[], .sign [c]⟩ :: tokens

/-- The tokens of a text. -/
def tokens (lexemes : List Lexeme) : List Token := lexemes.foldr push [.finish]

/-- The tokens of SQL, put before others. -/
def Sql.onto (sql : Sql) (rest : List Token) : List Token := sql.lexemes.foldr push rest

/-- Two pieces of SQL are read from the right, each before the tokens of what follows.  Reading can
follow the structure of what was written. -/
theorem Sql.onto_append (left right : Sql) (rest : List Token) :
    (left ++ right).onto rest = left.onto (right.onto rest) := by
  simp [onto]

/-! ### No character is lost -/

/-- The characters that a token consists of, without the white space before it. -/
def TokenKind.chars : TokenKind → List Char
  | .word text => text
  | .sign text => text
  | .quoted style payload => style.encodeChars payload.toList
  | .finish => []

/-- The characters of tokens and of the white space before each. -/
def spacedChars (tokens : List Token) : List Char :=
  tokens.flatMap fun token => token.gap ++ token.kind.chars

@[simp]
theorem spacedChars_cons (token : Token) (rest : List Token) :
    spacedChars (token :: rest) = token.gap ++ token.kind.chars ++ spacedChars rest := by
  simp [spacedChars]

@[simp]
theorem spacedChars_append (left right : List Token) :
    spacedChars (left ++ right) = spacedChars left ++ spacedChars right := by
  simp [spacedChars]

/-- One more lexeme is one more piece of text. -/
theorem push_chars (lexeme : Lexeme) {tokens : List Token} (nonempty : tokens ≠ []) :
    push lexeme tokens ≠ [] ∧
      spacedChars (push lexeme tokens) = lexeme.chars ++ spacedChars tokens := by
  obtain ⟨token, rest, rfl⟩ := List.exists_cons_of_ne_nil nonempty
  unfold push
  split
  · simp [TokenKind.chars, Lexeme.chars]
  · split
    · simp [widen, Lexeme.chars]
    · split
      · split
        next text after same =>
          obtain ⟨rfl, rfl⟩ := List.cons_eq_cons.1 same
          simp [TokenKind.chars, Lexeme.chars]
        next => simp [TokenKind.chars, Lexeme.chars]
      · split
        next text after same =>
          obtain ⟨rfl, rfl⟩ := List.cons_eq_cons.1 same
          split <;> simp [TokenKind.chars, Lexeme.chars]
        next => simp [TokenKind.chars, Lexeme.chars]

/-- Reading lexemes adds their characters to those of the tokens behind them. -/
theorem foldr_push_chars (lexemes : List Lexeme) {tokens : List Token} (nonempty : tokens ≠ []) :
    lexemes.foldr push tokens ≠ [] ∧
      spacedChars (lexemes.foldr push tokens) =
        lexemes.flatMap Lexeme.chars ++ spacedChars tokens := by
  induction lexemes with
  | nil => exact ⟨nonempty, rfl⟩
  | cons lexeme lexemes inductionHypothesis =>
    obtain ⟨filled, chars⟩ := inductionHypothesis
    obtain ⟨pushed, pushedChars⟩ := push_chars lexeme filled
    refine ⟨pushed, ?_⟩
    rw [List.foldr_cons, pushedChars, chars, List.flatMap_cons, List.append_assoc]

/-- Reading takes no tokens away. -/
theorem length_le_push (lexeme : Lexeme) (tokens : List Token) :
    tokens.length ≤ (push lexeme tokens).length := by
  unfold push
  split
  · simp
  · split
    · cases tokens <;> simp [widen]
    · split
      · split <;> simp
      · split
        · split <;> simp
        · simp

/-- Tokens are only added. -/
theorem Sql.length_le_onto (sql : Sql) (rest : List Token) :
    rest.length ≤ (sql.onto rest).length := by
  rw [onto]
  induction sql.lexemes with
  | nil => exact Nat.le_refl _
  | cons lexeme lexemes inductionHypothesis =>
    exact Nat.le_trans inductionHypothesis (length_le_push lexeme _)

/-- The tokens of SQL have its characters, gaps included, so a reader of tokens has lost nothing of
the text. -/
theorem Sql.chars_onto (sql : Sql) {rest : List Token} (nonempty : rest ≠ []) :
    spacedChars (sql.onto rest) = sql.chars ++ spacedChars rest := by
  rw [onto, (foldr_push_chars sql.lexemes nonempty).2, lexemes_chars]

theorem Sql.onto_ne_nil (sql : Sql) {rest : List Token} (nonempty : rest ≠ []) :
    sql.onto rest ≠ [] := (foldr_push_chars sql.lexemes nonempty).1

/-! ## Formulas

The reader knows nothing of trees.  `OR` binds less than `AND`, `AND` less than `NOT`, and `NOT`
less than a predicate, which is an operand alone, a comparison, a `BETWEEN` or an `IS NULL`; the
`AND` of a `BETWEEN` belongs to it.  A predicate that is written like one of the boolean constants
of the dialect is that constant; of any other only the text is kept, since its truth is up to the
data.
-/

/-- A boolean expression over predicates that are known by their texts. -/
inductive Formula where
  | constant (value : Bool)
  | predicate (text : String)
  | not (operand : Formula)
  | and (left right : Formula)
  | or (left right : Formula)
deriving Repr, DecidableEq

/-- The truth of an expression under an assignment of truth values to texts. -/
def Formula.eval (assign : String → Bool) : Formula → Bool
  | .constant value => value
  | .predicate text => assign text
  | .not operand => !operand.eval assign
  | .and left right => left.eval assign && right.eval assign
  | .or left right => left.eval assign || right.eval assign

/-! ### Tests on tokens -/

namespace Token

/-- Whether a token is a word, in any case. -/
def isWord (token : Token) (word : String) : Bool :=
  match token.kind with
  | .word text => text.map Char.toUpper == word.toList
  | _ => false

/-- Whether a token is a sign. -/
def isSign (token : Token) (sign : String) : Bool :=
  match token.kind with
  | .sign text => text == sign.toList
  | _ => false

/-- Whether a token compares what is before it with what is behind it. -/
def compares (token : Token) : Bool :=
  ["=", "<>", "<", "<=", ">", ">="].any token.isSign

/-- Whether an operand may consist of a token. -/
def isAtom (token : Token) : Bool :=
  match token.kind with
  | .word _ => !(["OR", "AND", "NOT", "BETWEEN", "IS"].any token.isWord)
  | .quoted _ _ => true
  | _ => false

end Token

/-! ### The reader -/

/-- Reads an operand, which is one atom or several with full stops between them, and returns what
follows it. -/
def operand : List Token → Option (List Token)
  | [] => none
  | [atom] => if atom.isAtom then some [] else none
  | atom :: stop :: rest =>
    if atom.isAtom then
      if stop.isSign "." then operand rest else some (stop :: rest)
    else none

/-- Reads what makes a predicate of an operand before it. -/
def predicateEnd : List Token → Option (List Token)
  | [] => some []
  | token :: rest =>
    if token.compares then operand rest
    else if token.isWord "BETWEEN" then
      match operand rest with
      | some (conjunction :: upper) =>
        if conjunction.isWord "AND" then operand upper else none
      | _ => none
    else if token.isWord "IS" then
      match rest with
      | first :: more =>
        if first.isWord "NULL" then some more
        else if first.isWord "NOT" then
          match more with
          | second :: after => if second.isWord "NULL" then some after else none
          | [] => none
        else none
      | [] => none
    else some (token :: rest)

/-- The text of tokens, without the white space before the first. -/
def sourceText : List Token → String
  | [] => ""
  | token :: rest => String.ofList (token.kind.chars ++ spacedChars rest)

/-- Reads `NOT` any number of times before something else. -/
def negation (inner : List Token → Option (Formula × List Token)) :
    List Token → Option (Formula × List Token)
  | [] => none
  | token :: rest =>
    if token.isWord "NOT" then
      match negation inner rest with
      | some (formula, after) => some (.not formula, after)
      | none => none
    else inner (token :: rest)

/-- Reads as many more parts as there are, each behind a keyword. -/
def chainEnd (keyword : String) (join : Formula → Formula → Formula)
    (inner : List Token → Option (Formula × List Token)) :
    Nat → Formula → List Token → Option (Formula × List Token)
  | fuel + 1, left, token :: rest =>
    if token.isWord keyword then
      match inner rest with
      | some (right, after) => chainEnd keyword join inner fuel (join left right) after
      | none => none
    else some (left, token :: rest)
  | _, left, rest => some (left, rest)

/-- Reads one or more parts with a keyword between neighbours. -/
def chain (keyword : String) (join : Formula → Formula → Formula)
    (inner : List Token → Option (Formula × List Token)) (tokens : List Token) :
    Option (Formula × List Token) :=
  match inner tokens with
  | some (first, rest) => chainEnd keyword join inner rest.length first rest
  | none => none

namespace Dialect

/-- What a predicate is by its text. -/
def predicateOf (dialect : Dialect) (text : String) : Formula :=
  if text = dialect.trueToken then .constant true
  else if text = dialect.falseToken then .constant false
  else .predicate text

/-- Reads a predicate. -/
def predicate (dialect : Dialect) (tokens : List Token) : Option (Formula × List Token) :=
  match operand tokens with
  | some rest =>
    match predicateEnd rest with
    | some after =>
      some (dialect.predicateOf (sourceText (tokens.take (tokens.length - after.length))), after)
    | none => none
  | none => none

/-- Reads a predicate or something in parentheses. -/
def primary (dialect : Dialect) (inner : List Token → Option (Formula × List Token))
    (tokens : List Token) : Option (Formula × List Token) :=
  match tokens with
  | token :: rest =>
    if token.isSign "(" then
      match inner rest with
      | some (formula, closing :: after) =>
        if closing.isSign ")" then some (formula, after) else none
      | _ => none
    else dialect.predicate (token :: rest)
  | [] => none

/-- Reads an expression with parentheses up to a given depth. -/
def formula (dialect : Dialect) : Nat → List Token → Option (Formula × List Token)
  | 0, _ => none
  | depth + 1, tokens =>
    chain "OR" .or (chain "AND" .and (negation (dialect.primary (dialect.formula depth)))) tokens

/-- Reads a text as one expression, up to its end.  Parentheses cannot be nested more deeply than
the text is long. -/
def reparse (dialect : Dialect) (text : String) : Option Formula :=
  match scan dialect.quoting text.toList with
  | some lexemes =>
    match dialect.formula text.toList.length (tokens lexemes) with
    | some (formula, [⟨_, .finish⟩]) => some formula
    | _ => none
  | none => none

end Dialect

/-! ### White space before an expression does not matter -/

@[simp]
theorem length_widen (c : Char) (tokens : List Token) :
    (widen c tokens).length = tokens.length := by
  cases tokens <;> rfl

/-- The gap before an operand does not matter. -/
theorem operand_widen (c : Char) (tokens : List Token) :
    operand (widen c tokens) = operand tokens := by
  match tokens with
  | [] => rfl
  | [atom] => rfl
  | atom :: stop :: rest => rfl

/-- The text of tokens begins with the first of them, not with the gap before it.  So predicates can
be compared by their texts, wherever they stand. -/
theorem sourceText_widen (c : Char) (tokens : List Token) (count : Nat) :
    sourceText ((widen c tokens).take count) = sourceText (tokens.take count) := by
  cases tokens <;> cases count <;> rfl

/-- A reader of negations does not look at the first gap if the reader inside does not. -/
theorem negation_widen {inner : List Token → Option (Formula × List Token)} (c : Char)
    (blind : ∀ tokens, inner (widen c tokens) = inner tokens) (tokens : List Token) :
    negation inner (widen c tokens) = negation inner tokens := by
  cases tokens with
  | nil => rfl
  | cons token rest =>
    have same := blind (token :: rest)
    simp only [widen] at same
    simp only [widen, negation, same]
    rfl

/-- A reader of chains does not look at the first gap if the reader of its parts does not. -/
theorem chain_widen {keyword : String} {join : Formula → Formula → Formula}
    {inner : List Token → Option (Formula × List Token)} (c : Char)
    (blind : ∀ tokens, inner (widen c tokens) = inner tokens) (tokens : List Token) :
    chain keyword join inner (widen c tokens) = chain keyword join inner tokens := by
  rw [chain, chain, blind]

/-- The reader of parts decides by the kind of the first token, never by the gap before it. -/
theorem Dialect.primary_widen (dialect : Dialect)
    (inner : List Token → Option (Formula × List Token)) (c : Char) (tokens : List Token) :
    dialect.primary inner (widen c tokens) = dialect.primary inner tokens := by
  have same : dialect.predicate (widen c tokens) = dialect.predicate tokens := by
    simp only [Dialect.predicate, operand_widen, length_widen, sourceText_widen]
  cases tokens with
  | nil => rfl
  | cons token rest =>
    simp only [widen] at same
    simp only [widen, Dialect.primary, same]
    rfl

end Pushdown
