/-
Module: Pushdown.Proofs.Sql.JoinTree
Purpose: Trees of joins are read back from their statements.
Main exports: JoinTree, cut, clauses?, Node.IsCondition, Sql.JoinPart, Generator.joinPart_table,
  Node.IsJoinTree, Generator.joinTree?, Generator.reads_joins
-/
import Pushdown.Proofs.Double.Text
import Pushdown.Proofs.Sql.Literal
import Pushdown.Proofs.Sql.Predicate
import Pushdown.Proofs.Sql.Word
import Pushdown.Proofs.Tree
import Pushdown.Tree

namespace Pushdown

/-! ## A reader of joins

The reader knows nothing of the trees that statements are made from.  It cuts a text at the words
of joins, which leaves a table and clauses: each `JOIN` with the table behind it and each `ON` with
the condition behind it.  Clauses are then matched like brackets.  A `JOIN` puts aside what was
read before it and starts again with its table; an `ON` closes the last `JOIN` that is open, with
what was read since as its right side.
-/

/-- A tree of joins over tables and conditions that are known by their texts. -/
inductive JoinTree where
  | table (text : String)
  | join (type : JoinType) (left right : JoinTree) (condition : String)
deriving Repr, DecidableEq

/-! ### Words and clauses -/

/-- The words that joins are written with. -/
inductive JoinWord where
  | opens (type : JoinType)
  | outer
  | join
  | on
deriving Repr, DecidableEq

namespace JoinWord

/-- A word as it is written. -/
def text : JoinWord → String
  | .opens .inner => "INNER"
  | .opens .leftOuter => "LEFT"
  | .opens .rightOuter => "RIGHT"
  | .opens .fullOuter => "FULL"
  | .outer => "OUTER"
  | .join => "JOIN"
  | .on => "ON"

/-- Every word. -/
def all : List JoinWord := JoinType.all.map .opens ++ [.outer, .join, .on]

/-- The word that is written by some characters, in any case. -/
def ofChars? (chars : List Char) : Option JoinWord :=
  all.find? fun word => chars.map Char.toUpper == word.text.toList

/-- The word that a token is, if it is one. -/
def ofToken? (token : Token) : Option JoinWord :=
  match token.kind with
  | .word chars => ofChars? chars
  | _ => none

theorem ofChars?_text (word : JoinWord) : ofChars? word.text.toList = some word := by
  cases word with
  | opens type => cases type <;> rfl
  | _ => rfl

/-- A word with a blank before it. -/
def token (word : JoinWord) : Token := ⟨[' '], .word word.text.toList⟩

end JoinWord

/-- The words of a join, up to the table behind it. -/
def JoinType.joinWords : JoinType → List JoinWord
  | .inner => [.opens .inner, .join]
  | type => [.opens type, .outer, .join]

/-- What follows a table in joins. -/
inductive JoinClause where
  | join (type : JoinType) (table : String)
  | on (condition : String)
deriving Repr, DecidableEq

/-- Cuts tokens at the words of joins: those before the first such word, and each word with what
follows it. -/
def cut : List Token → List Token × List (JoinWord × List Token)
  | [] => ([], [])
  | token :: rest =>
    match JoinWord.ofToken? token with
    | some word => ([], (word, (cut rest).1) :: (cut rest).2)
    | none => (token :: (cut rest).1, (cut rest).2)

/-- The clauses that words of joins and what follows them make.  `OUTER` may be left out, but not
be added to an inner join. -/
def clauses? : List (JoinWord × List Token) → Option (List JoinClause)
  | [] => some []
  | (.opens type, []) :: (.join, table) :: rest =>
    (clauses? rest).map (.join type (sourceText table) :: ·)
  | (.opens type, []) :: (.outer, []) :: (.join, table) :: rest =>
    if type = .inner then none
    else (clauses? rest).map (.join type (sourceText table) :: ·)
  | (.on, condition) :: rest => (clauses? rest).map (.on (sourceText condition) :: ·)
  | _ => none

/-! ### Brackets -/

/-- Matches clauses like brackets.  What was read before each open join is pending, the last one
first; the tree is what was read since. -/
def assemble : List (JoinTree × JoinType) → JoinTree → List JoinClause → Option JoinTree
  | [], tree, [] => some tree
  | pending, tree, .join type table :: rest =>
    assemble ((tree, type) :: pending) (.table table) rest
  | (left, type) :: pending, tree, .on condition :: rest =>
    assemble pending (.join type left tree condition) rest
  | _, _, _ => none

/-- Reads a text as joins, up to its end. -/
def Dialect.readJoins? (dialect : Dialect) (text : String) : Option JoinTree :=
  match scan dialect.quoting text.toList with
  | none => none
  | some lexemes =>
    let (table, parts) := cut (lexemes.foldr push [])
    match clauses? parts with
    | none => none
    | some clauses => assemble [] (.table (sourceText table)) clauses

namespace JoinTree

/-- The table that a tree starts with. -/
def leading : JoinTree → String
  | table text => text
  | join _ left _ _ => left.leading

/-- The clauses of a tree behind the table that it starts with. -/
def clauses : JoinTree → List JoinClause
  | table _ => []
  | join type left right condition =>
    left.clauses ++ .join type right.leading :: (right.clauses ++ [.on condition])

/-- Clauses of a tree are matched to that tree, whatever is pending and whatever follows.  What is
pending grows with the joins on the way down the right side, and what follows with the clauses on
the way down the left side. -/
theorem assemble_clauses (tree : JoinTree) (pending : List (JoinTree × JoinType))
    (rest : List JoinClause) :
    assemble pending (.table tree.leading) (tree.clauses ++ rest) = assemble pending tree rest := by
  induction tree generalizing pending rest with
  | table text => rfl
  | join type left right condition leftHypothesis rightHypothesis =>
    rw [leading, clauses, List.append_assoc, leftHypothesis, List.cons_append, List.append_assoc,
      List.singleton_append, assemble, rightHypothesis, assemble]

end JoinTree

/-! ### Cutting what is put together -/

/-- A word of joins starts a clause, with what comes before the next such word. -/
theorem cut_token (word : JoinWord) (rest : List Token) :
    cut (word.token :: rest) = ([], (word, (cut rest).1) :: (cut rest).2) := by
  have isWord : JoinWord.ofToken? word.token = some word := word.ofChars?_text
  rw [cut, isWord]

/-- The words of a join are read as one clause with what follows them.  Its first word tells the
type, and the table stands behind the last. -/
theorem cut_joinWords (type : JoinType) (rest : List Token) :
    (cut (type.joinWords.map JoinWord.token ++ rest)).1 = [] ∧
      clauses? (cut (type.joinWords.map JoinWord.token ++ rest)).2 =
        (clauses? (cut rest).2).map (.join type (sourceText (cut rest).1) :: ·) := by
  cases type <;>
    simp only [JoinType.joinWords, List.map_cons, List.map_nil, List.cons_append, List.nil_append,
      cut_token, true_and] <;>
    rfl

/-- A wider gap before the first token is part of no text, so tokens are cut alike. -/
theorem cut_widen (c : Char) (tokens : List Token) :
    sourceText (cut (widen c tokens)).1 = sourceText (cut tokens).1 ∧
      (cut (widen c tokens)).2 = (cut tokens).2 := by
  cases tokens with
  | nil => exact ⟨rfl, rfl⟩
  | cons token rest =>
    have same : JoinWord.ofToken? ⟨c :: token.gap, token.kind⟩ = JoinWord.ofToken? token := rfl
    simp only [widen, cut, same]
    split <;> exact ⟨rfl, rfl⟩

/-- Tokens without words of joins are not cut.  Parts are such, since their words are those of
tables, columns and literals. -/
theorem cut_append {front : List Token}
    (joinless : ∀ chars ∈ wordTexts front, JoinWord.ofChars? chars = none) (rest : List Token) :
    cut (front ++ rest) = (front ++ (cut rest).1, (cut rest).2) := by
  induction front with
  | nil => rfl
  | cons token front inductionHypothesis =>
    have other : JoinWord.ofToken? token = none := by
      unfold JoinWord.ofToken?
      split
      next chars kind => exact joinless chars (mem_wordTexts.2 ⟨token, List.mem_cons_self, kind⟩)
      next => rfl
    have later := inductionHypothesis fun chars member => by
      obtain ⟨token, member, kind⟩ := mem_wordTexts.1 member
      exact joinless chars (mem_wordTexts.2 ⟨token, List.mem_cons_of_mem _ member, kind⟩)
    rw [List.cons_append, cut, other, later]
    rfl

/-! ## Parts of joins

What is in quotes is no word, whatever names and strings are; numbers are made of other characters
than words of joins.  The library's own words for conditions and literals are few, and none of them
is a word of joins, so it remains to see that no two of them join where one part of a condition
stands beside another.
-/

/-- Conditions over columns and literals. -/
inductive Node.IsCondition : Node → Prop
  | column (column : ColumnReference) : IsCondition (.column column)
  | literal (literal : Literal) : IsCondition (.literal literal)
  | comparison (operator : ComparisonOperator) {left right : Node} (isLeft : left.IsCondition)
      (isRight : right.IsCondition) : IsCondition (.comparison operator left right)
  | not {operand : Node} (isCondition : operand.IsCondition) : IsCondition (.not operand)
  | junction (connective : Connective) {operands : List Node}
      (each : ∀ operand ∈ operands, operand.IsCondition) :
      IsCondition (.junction connective operands)

/-! ### Parts without words of joins -/

namespace Sql

/-- Whether no word of SQL is one of joins. -/
def Joinless (sql : Sql) : Prop := ∀ chars ∈ sql.wordTexts, JoinWord.ofChars? chars = none

instance (sql : Sql) : Decidable sql.Joinless :=
  List.decidableBAll (fun chars => JoinWord.ofChars? chars = none) sql.wordTexts

/-- No word of joins comes about where two pieces of SQL stand side by side, provided that no word
runs on over the seam. -/
theorem Joinless.append {left right : Sql} (inLeft : left.Joinless) (inRight : right.Joinless)
    (apart : left.Apart right) : (left ++ right).Joinless := by
  unfold Joinless
  rw [wordTexts_append apart]
  exact List.forall_mem_append.2 ⟨inLeft, inRight⟩

/-- SQL that can be a table or a condition in joins. -/
structure JoinPart (sql : Sql) : Prop extends sql.Trimmed where
  joinless : sql.Joinless

/-- SQL that a part can be put behind. -/
structure Opens (sql : Sql) : Prop where
  first : ∃ first ∈ sql.lexemes.head?, first.isBlank = false
  last : ∃ last ∈ sql.lexemes.getLast?, last.isWord = false
  joinless : sql.Joinless

/-- SQL that can be put behind a part. -/
structure Closes (sql : Sql) : Prop where
  first : ∃ first ∈ sql.lexemes.head?, first.isWord = false
  last : ∃ last ∈ sql.lexemes.getLast?, last.isBlank = false
  joinless : sql.Joinless

/-- SQL that can be put between two parts. -/
structure Divides (sql : Sql) : Prop where
  first : ∃ first ∈ sql.lexemes.head?, first.isWord = false
  last : ∃ last ∈ sql.lexemes.getLast?, last.isWord = false
  joinless : sql.Joinless

/-- Words do not run on into what starts with something else.  A keyword next to a quoted name is
therefore a word by itself. -/
theorem Apart.of_first {left right : Sql}
    (starts : ∃ first ∈ right.lexemes.head?, first.isWord = false) : left.Apart right := by
  obtain ⟨first, member, notWord⟩ := starts
  refine .inr ?_
  intro other otherMember
  obtain rfl := Option.mem_unique member otherMember
  exact notWord

theorem first_append {property : Lexeme → Prop} {left : Sql}
    (starts : ∃ first ∈ left.lexemes.head?, property first) (right : Sql) :
    ∃ first ∈ (left ++ right).lexemes.head?, property first := by
  obtain ⟨first, member, holds⟩ := starts
  refine ⟨first, ?_, holds⟩
  rw [lexemes_append]
  exact List.mem_head?_append_of_mem_head? member

theorem last_append {property : Lexeme → Prop} {right : Sql} (left : Sql)
    (ends : ∃ last ∈ right.lexemes.getLast?, property last) :
    ∃ last ∈ (left ++ right).lexemes.getLast?, property last := by
  obtain ⟨last, member, holds⟩ := ends
  refine ⟨last, ?_, holds⟩
  rw [lexemes_append]
  exact List.mem_getLast?_append_of_mem_getLast? member

namespace JoinPart

variable {left right part : Sql}

/-- Being a part is a question to the lexemes, not to the way in which they are grouped into
spans. -/
theorem congr (same : left.lexemes = right.lexemes) (isPart : left.JoinPart) :
    right.JoinPart := by
  obtain ⟨⟨first, last⟩, joinless⟩ := isPart
  rw [same] at first last
  refine ⟨⟨first, last⟩, ?_⟩
  unfold Joinless Sql.wordTexts onto at joinless ⊢
  rwa [← same]

/-- A part stays one behind an opening. -/
theorem after (isPart : part.JoinPart) {opening : Sql} (opens : opening.Opens) :
    (opening ++ part).JoinPart := by
  constructor
  · constructor
    · exact first_append opens.first part
    · exact last_append opening isPart.last
  · exact opens.joinless.append isPart.joinless (.inl opens.last)

/-- A part stays one before a closing. -/
theorem before (isPart : part.JoinPart) {closing : Sql} (closes : closing.Closes) :
    (part ++ closing).JoinPart := by
  constructor
  · constructor
    · exact first_append isPart.first closing
    · exact last_append part closes.last
  · exact isPart.joinless.append closes.joinless (.of_first closes.first)

/-- Two parts with a divider between them. -/
theorem beside (isLeft : left.JoinPart) (isRight : right.JoinPart) {between : Sql}
    (divides : between.Divides) : (left ++ between ++ right).JoinPart := by
  apply isRight.after
  constructor
  · exact first_append isLeft.first between
  · exact last_append left divides.last
  · exact isLeft.joinless.append divides.joinless (.of_first divides.first)

/-- Several parts with a divider between neighbours. -/
theorem separated {separator : String} (divides : (Sql.code separator).Divides)
    {parts : List Sql} (nonempty : parts ≠ []) (each : ∀ part ∈ parts, part.JoinPart) :
    (Sql.separated separator parts).JoinPart := by
  induction parts with
  | nil => exact absurd rfl nonempty
  | cons part rest inductionHypothesis =>
    rw [List.forall_mem_cons] at each
    cases rest with
    | nil => exact each.1
    | cons next more =>
      rw [separated_cons_cons]
      exact each.1.beside (inductionHypothesis (List.cons_ne_nil _ _) each.2) divides

theorem quoted (style : Text.QuoteStyle) (payload : String) :
    JoinPart [.quoted style payload] where
  first := ⟨_, rfl, rfl⟩
  last := ⟨_, rfl, rfl⟩
  joinless := nofun

end JoinPart

end Sql

/-! ### Numbers -/

/-- Words of joins are recognised in any case, and numerals have none. -/
theorem Text.toUpper_of_isNumeral {c : Char} (numeral : Text.isNumeral c = true) :
    c.toUpper = c := by
  rcases Bool.or_eq_true_iff.1 numeral with digit | other
  · simp only [Char.isDigit, Bool.and_eq_true, decide_eq_true_eq] at digit
    unfold Char.toUpper
    rw [dif_neg]
    rintro ⟨low, _⟩
    exact absurd (UInt32.le_trans low digit.2) (by decide)
  · simp only [List.contains_eq_mem, List.mem_cons, List.not_mem_nil, or_false,
      decide_eq_true_eq] at other
    rcases other with rfl | rfl | rfl <;> rfl

/-- Every word of joins has a letter that numerals do not have. -/
theorem JoinWord.ofChars?_of_isNumeral {chars : List Char}
    (each : ∀ c ∈ chars, Text.isNumeral c = true) : ofChars? chars = none := by
  have foreign : ∀ word : JoinWord, ∃ c ∈ word.text.toList, Text.isNumeral c = false := by
    intro word
    cases word with
    | opens type => cases type <;> exact ⟨_, List.mem_cons_self, rfl⟩
    | _ => exact ⟨_, List.mem_cons_self, rfl⟩
  unfold ofChars?
  rw [List.find?_eq_none]
  intro word _ same
  obtain ⟨c, inWord, notNumeral⟩ := foreign word
  rw [← beq_iff_eq.1 same] at inWord
  obtain ⟨d, inChars, rfl⟩ := List.mem_map.1 inWord
  rw [Text.toUpper_of_isNumeral (each d inChars), each d inChars] at notNumeral
  cases notNumeral

theorem Text.not_blank_of_isNumeral {c : Char} (numeral : Text.isNumeral c = true) :
    c.isWhitespace = false := by
  rw [Bool.eq_false_iff]
  intro blank
  simp only [Char.isWhitespace, Bool.or_eq_true, decide_eq_true_eq] at blank
  rcases blank with ((rfl | rfl) | rfl) | rfl <;> cases numeral

/-- A text made of numerals is a part: it has no blanks at its ends and no word of joins in it. -/
theorem Sql.JoinPart.numeral {text : String} (filled : text.toList ≠ [])
    (each : ∀ c ∈ text.toList, Text.isNumeral c = true) : (Sql.code text).JoinPart := by
  have notBlank : ∀ lexeme ∈ (Sql.code text).lexemes, lexeme.isBlank = false := by
    intro lexeme member
    rw [lexemes_code] at member
    obtain ⟨c, inText, rfl⟩ := List.mem_map.1 member
    exact Text.not_blank_of_isNumeral (each c inText)
  have nonempty : (Sql.code text).lexemes ≠ [] := by
    rw [lexemes_code]
    simpa using filled
  constructor
  · constructor
    · exact ⟨_, List.head?_eq_some_head nonempty, notBlank _ (List.head_mem nonempty)⟩
    · exact ⟨_, List.getLast?_eq_some_getLast nonempty, notBlank _ (List.getLast_mem nonempty)⟩
  · intro chars member
    apply JoinWord.ofChars?_of_isNumeral
    intro c part
    have plain := plain_of_mem_wordTexts member part
    rw [lexemes_code] at plain
    obtain ⟨d, member, same⟩ := List.mem_map.1 plain
    cases same
    exact each c member

/-- Every number that is written with a point and an exponent is made of numerals. -/
theorem Sql.JoinPart.decimal {text : String} {decimal : Text.Decimal}
    (wellFormed : decimal.WellFormed) (same : text.toList = decimal.chars) :
    (Sql.code text).JoinPart := by
  apply numeral
  · rw [same]
    exact wellFormed.chars_ne_nil
  · rw [same]
    intro c member
    exact wellFormed.isNumeral_of_mem_chars member

/-- Precisions of intervals are decimal digits. -/
theorem Sql.JoinPart.repr (n : Nat) : (Sql.code (Nat.repr n)).JoinPart := by
  apply numeral
  · rw [Nat.toList_repr]
    exact Nat.toDigits_ne_nil
  · rw [Nat.toList_repr]
    intro c member
    rw [Text.isNumeral, Text.isDigit_of_mem_toDigits member]
    rfl

/-! ### Tables and conditions -/

namespace Generator

variable {generator : Generator}

theorem closes_parenthesis : (Sql.code ")").Closes :=
  ⟨⟨_, rfl, rfl⟩, ⟨_, rfl, rfl⟩, by decide⟩

theorem joinPart_qualified (generator : Generator) (name : Option String) {part : Sql}
    (isPart : part.JoinPart) : (generator.qualifier name ++ part).JoinPart := by
  cases name with
  | none => exact isPart
  | some name => exact isPart.after ⟨⟨_, rfl, rfl⟩, ⟨_, rfl, rfl⟩, nofun⟩

/-- A table is a part, whatever its names and its alias are.  They are in quotes, and what is in
quotes is no word. -/
theorem joinPart_table (generator : Generator) (table : TableReference) :
    (generator.table table).JoinPart := by
  have name := Sql.JoinPart.quoted generator.dialect.identifierQuotes
    (generator.dialect.identifierCase.remoteForm table.name)
  unfold Generator.table
  rw [List.append_assoc, List.append_assoc]
  apply joinPart_qualified
  apply joinPart_qualified
  split
  · exact name.before ⟨⟨_, rfl, rfl⟩, ⟨_, rfl, rfl⟩, nofun⟩
  · exact name

/-- A column is a part, whatever its names are. -/
theorem joinPart_column (generator : Generator) (column : ColumnReference) :
    (generator.column column).JoinPart := by
  have name := Sql.JoinPart.quoted generator.dialect.identifierQuotes
    (generator.dialect.identifierCase.remoteForm column.name)
  unfold Generator.column
  split
  next qualifier _ => exact joinPart_qualified generator (some qualifier) name
  next => exact name

/-- Both forms of dates and timestamps are parts: none of their keywords is one of joins. -/
theorem joinPart_temporal (form : TemporalForm) {text : Span} (isPart : Sql.JoinPart [text]) :
    (form.date text).JoinPart ∧ (form.timestamp text).JoinPart := by
  have opens {opening : String} (listed : opening ∈ ["DATE ", "TIMESTAMP ", "CAST("]) :
      (Sql.code opening).Opens := by
    simp only [List.mem_cons, List.not_mem_nil, or_false] at listed
    rcases listed with rfl | rfl | rfl <;> exact ⟨⟨_, rfl, rfl⟩, ⟨_, rfl, rfl⟩, by decide⟩
  have closes {closing : String} (listed : closing ∈ [" AS DATE)", " AS DATETIME2)"]) :
      (Sql.code closing).Closes := by
    simp only [List.mem_cons, List.not_mem_nil, or_false] at listed
    rcases listed with rfl | rfl <;> exact ⟨⟨_, rfl, rfl⟩, ⟨_, rfl, rfl⟩, by decide⟩
  cases form with
  | keyword => exact ⟨isPart.after (opens (by simp)), isPart.after (opens (by simp))⟩
  | cast =>
    have cast : (Sql.code "CAST(").Opens := opens (by simp)
    have converted := isPart.after cast
    exact ⟨converted.before (closes (by simp)), converted.before (closes (by simp))⟩

/-- An interval is a part, with its fields between and behind its numbers. -/
theorem joinPart_interval (dialect : Dialect) (value : String) (kind : IntervalKind)
    (precision fraction : Nat) :
    (dialect.intervalLiteral value kind precision fraction).JoinPart := by
  have string := Sql.JoinPart.quoted dialect.stringQuotes value
  have opens : (Sql.code "INTERVAL ").Opens := ⟨⟨_, rfl, rfl⟩, ⟨_, rfl, rfl⟩, by decide⟩
  cases kind with
  | yearToMonth =>
    have divides : (Sql.code " YEAR (").Divides := ⟨⟨_, rfl, rfl⟩, ⟨_, rfl, rfl⟩, by decide⟩
    have closes : (Sql.code ") TO MONTH").Closes := ⟨⟨_, rfl, rfl⟩, ⟨_, rfl, rfl⟩, by decide⟩
    have years := string.beside (.repr precision) divides
    refine ((years.after opens).before closes).congr ?_
    simp [Sql.lexemes, Sql.code, Span.lexemes, Dialect.intervalLiteral, Dialect.stringLiteral]
  | dayToSecond =>
    have divides : (Sql.code " DAY (").Divides := ⟨⟨_, rfl, rfl⟩, ⟨_, rfl, rfl⟩, by decide⟩
    have continues : (Sql.code ") TO SECOND (").Divides :=
      ⟨⟨_, rfl, rfl⟩, ⟨_, rfl, rfl⟩, by decide⟩
    have days := string.beside (.repr precision) divides
    have seconds := days.beside (.repr fraction) continues
    refine ((seconds.after opens).before closes_parenthesis).congr ?_
    simp [Sql.lexemes, Sql.code, Span.lexemes, Dialect.intervalLiteral, Dialect.stringLiteral]

/-- A literal is a part in every dialect of the library.  The functions by which some dialects write
temporal literals have no words of joins in them. -/
theorem joinPart_literal (builtin : generator.dialect.IsBuiltin) {literal : Literal}
    (sound : SoundLiteral literal) : (settledSql (generator.literal literal)).JoinPart := by
  have string := Sql.JoinPart.quoted generator.dialect.stringQuotes
  cases literal with
  | null =>
    change (Sql.code "NULL").JoinPart
    exact ⟨⟨⟨_, rfl, rfl⟩, ⟨_, rfl, rfl⟩⟩, by decide⟩
  | bool value =>
    have token : generator.dialect.booleanToken value ∈ ["true", "false", "1 = 1", "1 = 0"] := by
      rcases booleanTokens builtin with ⟨isTrue, isFalse⟩ | ⟨isTrue, isFalse⟩ <;>
        cases value <;> simp [Dialect.booleanToken, isTrue, isFalse]
    simp only [Generator.literal, settledSql]
    generalize generator.dialect.booleanToken value = text at token
    simp only [List.mem_cons, List.not_mem_nil, or_false] at token
    rcases token with rfl | rfl | rfl | rfl <;>
      exact ⟨⟨⟨_, rfl, rfl⟩, ⟨_, rfl, rfl⟩⟩, by decide⟩
  | text value => exact string value
  | double value =>
    have finite : value.isFinite = true := sound
    simp only [Generator.literal, finite, if_true, settledSql]
    exact .decimal value.wellFormed_decimal value.toList_scientific
  | exact value => exact .decimal value.wellFormed_decimal value.toList_plain
  | date value => exact (joinPart_temporal _ (string value)).1
  | timestamp value => exact (joinPart_temporal _ (string value)).2
  | timestampUtc value => exact (joinPart_temporal _ (string value)).2
  | interval value type =>
    obtain ⟨kind, precision, fraction, rfl⟩ := sound
    exact joinPart_interval _ _ _ _ _

/-- A condition is a part, by induction over its parts: operators, connectives and parentheses
divide, open and close. -/
theorem joinPart_condition (builtin : generator.dialect.IsBuiltin) {node : Node}
    (isCondition : node.IsCondition) (wellFormed : generator.WellFormed node) :
    (generator.written node).JoinPart := by
  induction isCondition with
  | column column => exact joinPart_column generator column
  | literal literal =>
    rw [wellFormed_iff] at wellFormed
    exact joinPart_literal builtin wellFormed.1
  | comparison operator _ _ leftHypothesis rightHypothesis =>
    rw [wellFormed_iff] at wellFormed
    simp only [Node.children, List.forall_mem_cons] at wellFormed
    obtain ⟨-, atLeft, atRight, -⟩ := wellFormed
    simp only [written]
    apply (leftHypothesis atLeft).beside (rightHypothesis atRight)
    cases operator <;> exact ⟨⟨_, rfl, rfl⟩, ⟨_, rfl, rfl⟩, by decide⟩
  | not _ inductionHypothesis =>
    rw [wellFormed_iff] at wellFormed
    simp only [Node.children, List.forall_mem_cons] at wellFormed
    have opens : (Sql.code "NOT (").Opens := ⟨⟨_, rfl, rfl⟩, ⟨_, rfl, rfl⟩, by decide⟩
    exact ((inductionHypothesis wellFormed.2.1).after opens).before closes_parenthesis
  | @junction connective operands _ inductionHypothesis =>
    rw [wellFormed_iff] at wellFormed
    obtain ⟨nonempty, inOperands⟩ := wellFormed
    have each : ∀ part ∈ operands.map generator.written, part.JoinPart := by
      intro part member
      obtain ⟨operand, inside, rfl⟩ := List.mem_map.1 member
      exact inductionHypothesis operand inside (inOperands operand inside)
    have filled : operands.map generator.written ≠ [] := fun empty =>
      nonempty (List.map_eq_nil_iff.1 empty)
    have divides : (Sql.code (" " ++ connective.keyword ++ " ")).Divides := by
      cases connective <;> exact ⟨⟨_, rfl, rfl⟩, ⟨_, rfl, rfl⟩, by decide⟩
    simp only [written, writtenEach_eq_map]
    have opens : (Sql.code "(").Opens := ⟨⟨_, rfl, rfl⟩, ⟨_, rfl, rfl⟩, by decide⟩
    exact ((Sql.JoinPart.separated divides filled each).after opens).before closes_parenthesis

end Generator

/-! ## Reading

Joins are written without parentheses, so only the places of `JOIN` and `ON` tell how they are
nested.  Whatever a join tree is put before is read as clauses already; the tree adds its own
clauses to these, and its first table stands before them.  For a join this is used three times,
from right to left: what follows its condition, then its `ON` and what follows, then its `JOIN`,
its right side and what follows.
-/

/-- Trees of joins over tables, with conditions over columns and literals. -/
inductive Node.IsJoinTree : Node → Prop
  | table (table : TableReference) : IsJoinTree (.table table)
  | join (type : JoinType) {left right condition : Node} (isLeft : left.IsJoinTree)
      (isRight : right.IsJoinTree) (isCondition : condition.IsCondition) :
      IsJoinTree (.join type left right condition)

/-! ### What is read before clauses -/

/-- Whether tokens can follow a part of joins and are read as clauses. -/
structure JoinTail (tokens : List Token) (clauses : List JoinClause) : Prop where
  separate : Separate tokens
  front : (cut tokens).1 = []
  read : clauses? (cut tokens).2 = some clauses

/-- Whether tokens are read as a table or a condition, and clauses behind it. -/
structure ReadsJoins (tokens : List Token) (text : String) (clauses : List JoinClause) : Prop where
  front : sourceText (cut tokens).1 = text
  read : clauses? (cut tokens).2 = some clauses

theorem joinTail_nil : JoinTail [] [] := ⟨nofun, rfl, rfl⟩

/-- The words between the two sides of a join are tokens of their own, and a wider gap is left
behind them. -/
theorem onto_join (type : JoinType) (tokens : List Token) :
    (Sql.code (" " ++ type.words ++ " JOIN ")).onto tokens =
      type.joinWords.map JoinWord.token ++ widen ' ' tokens := by
  cases type <;> cases tokens <;> rfl

theorem onto_on (tokens : List Token) :
    (Sql.code " ON ").onto tokens = JoinWord.on.token :: widen ' ' tokens := by
  cases tokens <;> rfl

theorem separate_token (word : JoinWord) (rest : List Token) : Separate (word.token :: rest) := by
  intro token member
  obtain rfl : word.token = token := by simpa using member
  exact .inl (List.cons_ne_nil _ _)

/-- A join before what is behind it. -/
theorem JoinTail.join (type : JoinType) {tokens : List Token} {table : String}
    {clauses : List JoinClause} (reads : ReadsJoins tokens table clauses) :
    JoinTail ((Sql.code (" " ++ type.words ++ " JOIN ")).onto tokens)
      (.join type table :: clauses) := by
  obtain ⟨sameFront, sameParts⟩ := cut_widen ' ' tokens
  obtain ⟨front, read⟩ := cut_joinWords type (widen ' ' tokens)
  rw [onto_join]
  constructor
  · cases type <;> exact separate_token _ _
  · exact front
  · rw [read, sameParts, sameFront, reads.read, reads.front]
    rfl

/-- An `ON` before what is behind it. -/
theorem JoinTail.on {tokens : List Token} {condition : String} {clauses : List JoinClause}
    (reads : ReadsJoins tokens condition clauses) :
    JoinTail ((Sql.code " ON ").onto tokens) (.on condition :: clauses) := by
  obtain ⟨sameFront, sameParts⟩ := cut_widen ' ' tokens
  rw [onto_on]
  constructor
  · exact separate_token _ _
  · rw [cut_token]
  · rw [cut_token, clauses?, sameParts, sameFront, reads.read, reads.front]
    rfl

/-- A part is read up to the clauses that follow it.  Its own text has no words of joins, so it is
not cut. -/
theorem JoinTail.reads {rest : List Token} {clauses : List JoinClause}
    (tail : JoinTail rest clauses) {sql : Sql} (part : sql.JoinPart) :
    ReadsJoins (sql.onto rest) sql.toText clauses := by
  have tokens := part.toTrimmed.onto_eq tail.separate
  have cutting := cut_append part.joinless rest
  constructor
  · rw [tokens, cutting, tail.front, List.append_nil]
    exact part.toTrimmed.sourceText_onto
  · rw [tokens, cutting]
    exact tail.read

namespace Generator

/-- The tree of the rendered texts of a tree of joins. -/
def joinTree? (generator : Generator) : Node → Option JoinTree
  | .table table =>
    match generator.statement (.table table) with
    | .ok sql => some (.table sql.toText)
    | .error _ => none
  | .join type left right condition =>
    match generator.joinTree? left, generator.joinTree? right, generator.statement condition with
    | some left, some right, .ok sql => some (.join type left right sql.toText)
    | _, _, _ => none
  | _ => none

variable {generator : Generator}

/-- The parts of a join are rendered wherever it is. -/
theorem statement_of_mem_children {node : Node} (wellFormed : generator.WellFormed node)
    (fits : node.height ≤ generator.depthLimit) (child : Node) (member : child ∈ node.children) :
    generator.WellFormed child ∧ child.height ≤ generator.depthLimit ∧
      generator.statement child = .ok (generator.written child) := by
  have childWellFormed := ((wellFormed_iff _ _).1 wellFormed).2 child member
  have childFits : child.height ≤ generator.depthLimit := by
    have below := Node.height_le_greatest member
    rw [Node.height_eq] at fits
    omega
  exact ⟨childWellFormed, childFits,
    (statement_eq_ok_iff _ _ _).2 ⟨childWellFormed, childFits, rfl⟩⟩

/-- A tree of joins is read as its clauses behind its first table, before those that follow.  The
induction is over the tree, for all that may follow it. -/
theorem reads_joins (builtin : generator.dialect.IsBuiltin) {node : Node}
    (isJoinTree : node.IsJoinTree) (wellFormed : generator.WellFormed node)
    (fits : node.height ≤ generator.depthLimit) :
    ∃ tree, generator.joinTree? node = some tree ∧
      ∀ rest clauses, JoinTail rest clauses →
        ReadsJoins ((generator.written node).onto rest) tree.leading (tree.clauses ++ clauses) := by
  induction isJoinTree with
  | table table =>
    have rendered : generator.statement (.table table) = .ok (generator.table table) :=
      (statement_eq_ok_iff _ _ _).2 ⟨wellFormed, fits, rfl⟩
    refine ⟨.table (generator.table table).toText, ?_, ?_⟩
    · simp only [joinTree?, rendered]
    · intro rest clauses tail
      exact tail.reads (joinPart_table generator table)
  | @join type left right condition _ _ isCondition leftHypothesis rightHypothesis =>
    have parts := statement_of_mem_children wellFormed fits
    simp only [Node.children, List.forall_mem_cons] at parts
    obtain ⟨⟨leftWellFormed, leftFits, -⟩, ⟨rightWellFormed, rightFits, -⟩,
      ⟨conditionWellFormed, -, rendered⟩, -⟩ := parts
    obtain ⟨leftTree, atLeft, readsLeft⟩ := leftHypothesis leftWellFormed leftFits
    obtain ⟨rightTree, atRight, readsRight⟩ := rightHypothesis rightWellFormed rightFits
    have part := joinPart_condition builtin isCondition conditionWellFormed
    refine ⟨.join type leftTree rightTree (generator.written condition).toText, ?_, ?_⟩
    · simp only [joinTree?, atLeft, atRight, rendered]
    · intro rest clauses tail
      have closed := JoinTail.on (tail.reads part)
      have opened := JoinTail.join type (readsRight _ _ closed)
      have whole := readsLeft _ _ opened
      simp only [written, Sql.onto_append, JoinTree.leading, JoinTree.clauses, List.append_assoc,
        List.cons_append, List.nil_append]
      exact whole

/-- The text of a tree of joins is read as the tree of the texts of its parts.  Only the clauses
tell the tree, since joins are written without parentheses. -/
theorem readJoins?_written (builtin : generator.dialect.IsBuiltin) {node : Node}
    (isJoinTree : node.IsJoinTree) (wellFormed : generator.WellFormed node)
    (fits : node.height ≤ generator.depthLimit) :
    ∃ tree, generator.joinTree? node = some tree ∧
      generator.dialect.readJoins? (generator.written node).toText = some tree := by
  obtain ⟨tree, parts, reads⟩ := reads_joins builtin isJoinTree wellFormed fits
  obtain ⟨front, read⟩ := reads [] [] joinTail_nil
  have scanned := scan_written builtin.readable node
  have assembled := tree.assemble_clauses [] []
  rw [List.append_nil] at read assembled
  refine ⟨tree, parts, ?_⟩
  unfold Sql.onto at front read
  simp only [Dialect.readJoins?, scanned, read, front, assembled]
  rfl

/-- Join trees read back as built.  The text of a tree of joins of any shape, whatever its names
and aliases are, is read as the same tree of join types over the texts of its tables and
conditions, by matching each `JOIN` with its `ON` like brackets.  So any tree of joins with the
same text has the same shape, with the same join types and texts at each place. -/
theorem join_tree_reads_back {dialect : Dialect} (builtin : dialect.IsBuiltin)
    (context : QueryContext) (limit : Nat) {node : Node} (isJoinTree : node.IsJoinTree) {sql : Sql}
    (rendered : (dialect.generator context limit).statement node = .ok sql) :
    ∃ tree, (dialect.generator context limit).joinTree? node = some tree ∧
      dialect.readJoins? sql.toText = some tree ∧
      ∀ otherContext otherLimit other otherSql, other.IsJoinTree →
        (dialect.generator otherContext otherLimit).statement other = .ok otherSql →
        otherSql.toText = sql.toText →
        (dialect.generator otherContext otherLimit).joinTree? other = some tree := by
  obtain ⟨wellFormed, fits, rfl⟩ := (statement_eq_ok_iff _ _ _).1 rendered
  obtain ⟨tree, parts, read⟩ :=
    @readJoins?_written (dialect.generator context limit) builtin node isJoinTree wellFormed fits
  refine ⟨tree, parts, read, ?_⟩
  intro otherContext otherLimit other otherSql otherIsJoinTree otherRendered same
  obtain ⟨otherWellFormed, otherFits, rfl⟩ := (statement_eq_ok_iff _ _ _).1 otherRendered
  obtain ⟨otherTree, otherParts, otherRead⟩ :=
    @readJoins?_written (dialect.generator otherContext otherLimit) builtin other otherIsJoinTree
      otherWellFormed otherFits
  change dialect.readJoins? _ = _ at read otherRead
  rw [same, read] at otherRead
  rw [otherParts, otherRead]

/-- A join of two joins, with words of joins in a name and a string. -/
def joinOfJoins : Node :=
  .join .leftOuter
    (.join .inner (.table ⟨"A ON", some "a"⟩) (.table ⟨"B", none⟩)
      (.comparison .equal (.column ⟨"X", none, some "a"⟩) (.literal (.text "JOIN"))))
    (.join .fullOuter (.table ⟨"C", none⟩) (.table ⟨"D", none⟩) (.literal (.exact ⟨-5, 1⟩)))
    (.not (.column ⟨"Y", none, none⟩))

/-- A join of two joins with an alias, a name and a string that look like words of joins. -/
theorem join_tree_reads_back_nested :
    ∃ tree,
      (Dialect.sqlserver.generator {} 4).joinTree? joinOfJoins = some tree ∧
      Dialect.sqlserver.readJoins?
        ("[A ON] [a] INNER JOIN [B] ON [a].[X] = \x27JOIN\x27 LEFT OUTER JOIN " ++
          "[C] FULL OUTER JOIN [D] ON -0.5 ON NOT ([Y])") = some tree := by
  have isJoinTree : joinOfJoins.IsJoinTree := by
    apply Node.IsJoinTree.join
    · exact .join .inner (.table _) (.table _) (.comparison .equal (.column _) (.literal _))
    · exact .join .fullOuter (.table _) (.table _) (.literal _)
    · exact .not (.column _)
  have rendered : (Dialect.sqlserver.generator {} 4).statement joinOfJoins =
      .ok ((Dialect.sqlserver.generator {} 4).written joinOfJoins) := rfl
  have text : ((Dialect.sqlserver.generator {} 4).written joinOfJoins).toText =
      "[A ON] [a] INNER JOIN [B] ON [a].[X] = \x27JOIN\x27 LEFT OUTER JOIN " ++
        "[C] FULL OUTER JOIN [D] ON -0.5 ON NOT ([Y])" := by
    decide +kernel
  obtain ⟨tree, parts, read, -⟩ :=
    join_tree_reads_back ⟨"SQLSERVER", .empty, rfl⟩ {} 4 isJoinTree rendered
  rw [text] at read
  exact ⟨tree, parts, read⟩

end Generator

end Pushdown
