/-
Module: Pushdown.Proofs.Sql.Legible
Purpose: The words of the library, and why what is written is read as it was written.
Main exports: Text.Ordinary, Double.scientific_eq, ExactNumber.plain_eq, Part.Row,
  Dialect.Vocabulary, Generator.row_parts, Generator.legible_of_row, Generator.written_legible,
  Generator.scan_written
-/
import Pushdown.Proofs.Dialect
import Pushdown.Proofs.Sql.Part
import Pushdown.Proofs.Vocabulary

namespace Pushdown

/-! ## Words

Names of functions and types, digits and clauses are made of few characters.  What a reader could
mistake, a mark or the start of a comment, is none of them.  Only signs of numbers are added to
them, before a number and before an exponent.

Words also stand between any two other parts of a node.  `Part.Row` says so of a row of parts, and
`Generator.row_parts` of every node, for any kind of words that takes in the few words of a dialect
that are not ordinary.
-/

namespace Text

/-- The characters of names, numbers and clauses. -/
def isOrdinary (c : Char) : Bool := c.isAlphanum || [' ', '_', '.', ',', '(', ')'].contains c

/-- Whether a text has only such characters. -/
def Ordinary (text : String) : Prop := ∀ c ∈ text.toList, isOrdinary c

instance (text : String) : Decidable (Ordinary text) :=
  List.decidableBAll (fun c => isOrdinary c) text.toList

/-- Whether a text is ordinary and not empty, so that it keeps apart what is on its sides. -/
def Solid (text : String) : Prop := Ordinary text ∧ text ≠ ""

instance (text : String) : Decidable (Solid text) :=
  inferInstanceAs (Decidable (Ordinary text ∧ text ≠ ""))

@[simp]
theorem ordinary_append (left right : String) :
    Ordinary (left ++ right) ↔ Ordinary left ∧ Ordinary right := by
  rw [Ordinary, String.toList_append, List.forall_mem_append]
  rfl

theorem isOrdinary_of_isDigit {c : Char} (digit : c.isDigit) : isOrdinary c := by
  simp [isOrdinary, Char.isAlphanum, digit]

/-- Whatever is written with decimal digits can stand in an ordinary text; sizes, precisions and
limits are written so. -/
theorem isOrdinary_of_mem_toDigits {n : Nat} {c : Char} (member : c ∈ Nat.toDigits 10 n) :
    isOrdinary c :=
  isOrdinary_of_isDigit (Nat.isDigit_of_mem_toDigits (by omega) (by omega) member)

@[simp]
theorem ordinary_repr (n : Nat) : Ordinary (Nat.repr n) := by
  intro c member
  exact isOrdinary_of_mem_toDigits (by simpa [Nat.repr] using member)

end Text

/-! ### Numbers -/

/-- The mantissa of a double is its digits with a point after the first, so it is ordinary if they
are. -/
theorem Double.ordinary_pointAfterFirst {digits : List Char}
    (each : ∀ c ∈ digits, Text.isOrdinary c) :
    Text.Ordinary (Double.pointAfterFirst digits) := by
  match digits with
  | [] => decide
  | [digit] => simpa [Double.pointAfterFirst, Text.Ordinary] using each
  | first :: second :: rest =>
    rw [List.forall_mem_cons] at each
    simp only [Double.pointAfterFirst, Text.Ordinary, String.toList_ofList, List.forall_mem_cons]
    exact ⟨each.1, by decide, List.forall_mem_cons.1 each.2⟩

/-- The shortest digits of a double are decimal digits, or a single zero, whichever way a tie
between two shortest ones goes. -/
theorem Double.ordinary_digits (x : Double) (tie : Tie) :
    ∀ c ∈ (x.shortestDigits tie).1, Text.isOrdinary c := by
  intro c member
  simp only [Double.shortestDigits, ShortDecimal.digits] at member
  split at member
  · obtain rfl := List.mem_singleton.1 member
    decide
  · have trimmed := (List.dropWhile_suffix _).mem (List.mem_reverse.1 member)
    exact Text.isOrdinary_of_mem_toDigits (List.mem_reverse.1 trimmed)

/-- The literal of a double is an ordinary text up to its exponent, after a sign if the number is
negative. -/
theorem Double.scientific_eq (x : Double) : ∃ mantissa, Text.Ordinary mantissa ∧ mantissa ≠ "" ∧
    x.scientific = (if x.isNegative then "-" else "") ++
      (mantissa ++ toString (x.shortestDigits .greater).2) := by
  refine ⟨pointAfterFirst (x.shortestDigits .greater).1 ++ "E", ?_, by simp, ?_⟩
  · exact (Text.ordinary_append _ _).2
      ⟨ordinary_pointAfterFirst (x.ordinary_digits .greater), by decide⟩
  · simp only [scientific, signText, String.append_assoc]

/-- The literal of an exact number is an ordinary text, after a sign if the number is
negative. -/
theorem ExactNumber.plain_eq (number : ExactNumber) : ∃ magnitude, Text.Ordinary magnitude ∧
    magnitude ≠ "" ∧ number.plain = (if number.unscaled < 0 then "-" else "") ++ magnitude := by
  have digits : ∀ c ∈ Nat.toDigits 10 number.unscaled.natAbs, Text.isOrdinary c :=
    fun _ => Text.isOrdinary_of_mem_toDigits
  have zeros : ∀ count, ∀ c ∈ List.replicate count '0', Text.isOrdinary c := by
    intro count c member
    rw [List.eq_of_mem_replicate member]
    decide
  refine ⟨String.ofList number.magnitudeText, ?_, ?_, ?_⟩
  · rw [Text.Ordinary, String.toList_ofList]
    unfold magnitudeText
    dsimp only
    split
    · exact List.forall_mem_append.2 ⟨digits, zeros _⟩
    · have padded := fun count => List.forall_mem_append.2 ⟨zeros count, digits⟩
      refine List.forall_mem_append.2 ⟨?_, List.forall_mem_cons.2 ⟨by decide, ?_⟩⟩
      · exact fun c member => padded _ c (List.mem_of_mem_take member)
      · exact fun c member => padded _ c (List.mem_of_mem_drop member)
  · unfold magnitudeText
    dsimp only
    split <;> simp
  · unfold plain
    split <;> simp

/-! ### Names and clauses -/

/-- The names of scalar functions are a table, so they are checked one by one. -/
theorem ScalarFunction.ordinary_names : ∀ function ∈ all, Text.Ordinary function.name := by
  decide +kernel

theorem AggregateFunction.ordinary_names : ∀ function ∈ all, Text.Ordinary function.name := by
  decide +kernel

theorem ScalarFunction.ordinary_name (function : ScalarFunction) : Text.Ordinary function.name :=
  ordinary_names function function.mem_all

theorem AggregateFunction.ordinary_name (function : AggregateFunction) :
    Text.Ordinary function.name :=
  ordinary_names function function.mem_all

/-- The text of a type consists of words and of sizes in decimal digits, with no sign in it. -/
theorem DataType.ordinary_toText (type : DataType) : Text.Ordinary type.toText := by
  have charsetName : ∀ charset : Charset, Text.Ordinary charset.name := by
    intro charset
    cases charset <;> decide
  unfold DataType.toText
  split <;> first | decide | (simp [charsetName]; decide)

theorem LimitForm.ordinary_clause (form : LimitForm) (limit : RowLimit) :
    Text.Ordinary (form.clause limit) := by
  cases form <;> simp only [LimitForm.clause] <;> (try split) <;> simp <;> decide

/-! ### Rows that keep their parts apart -/

namespace Part

/-- Rows of parts with a word between any two others, where a word is ordinary or of another kind
that is known.  The first flag says whether something else than a word may come right before the
row, the second one whether the row may end with something else than a word. -/
inductive Row (isWord : String → Prop) : Bool → List Part → Bool → Prop
  | nil {start stop : Bool} (kept : start → stop) : Row isWord start [] stop
  /-- A word keeps what follows it from what comes before. -/
  | fixed {start stop : Bool} {text : String} {rest : List Part} (solid : Text.Solid text)
      (row : Row isWord false rest stop) : Row isWord start (.word text :: rest) stop
  | word {start stop : Bool} {text : String} {rest : List Part} (known : isWord text)
      (filled : text ≠ "") (row : Row isWord false rest stop) :
      Row isWord start (.word text :: rest) stop
  /-- A word that may be empty keeps nothing apart. -/
  | blank {start stop : Bool} {text : String} {rest : List Part}
      (known : Text.Ordinary text ∨ isWord text) (row : Row isWord start rest stop) :
      Row isWord start (.word text :: rest) stop
  | payload {stop : Bool} {payload : Payload} {rest : List Part}
      (row : Row isWord true rest stop) : Row isWord false (.payload payload :: rest) stop
  | node {stop : Bool} {child : Node} {rest : List Part}
      (row : Row isWord true rest stop) : Row isWord false (.node child :: rest) stop

namespace Row

variable {isWord : String → Prop} {start middle stop : Bool} {left right row : List Part}

/-- Less may come before a row, and more may come after it. -/
theorem weaken {start' stop' : Bool} (known : Row isWord start row stop)
    (atStart : start' → start) (atEnd : stop → stop') : Row isWord start' row stop' := by
  induction known generalizing start' with
  | nil kept => exact .nil fun exposed => atEnd (kept (atStart exposed))
  | fixed solid _ inductionHypothesis => exact .fixed solid (inductionHypothesis id atEnd)
  | word known filled _ inductionHypothesis =>
    exact .word known filled (inductionHypothesis id atEnd)
  | blank known _ inductionHypothesis => exact .blank known (inductionHypothesis atStart atEnd)
  | payload _ inductionHypothesis =>
    obtain rfl : start' = false := by simpa using atStart
    exact .payload (inductionHypothesis id atEnd)
  | node _ inductionHypothesis =>
    obtain rfl : start' = false := by simpa using atStart
    exact .node (inductionHypothesis id atEnd)

/-- A row that may follow anything may follow a word. -/
theorem afterWord (row' : Row isWord true row stop) : Row isWord false row stop :=
  row'.weaken Bool.noConfusion id

/-- Rows are put together where the second one may follow what the first one ends with. -/
theorem append (atLeft : Row isWord start left middle) (atRight : Row isWord middle right stop) :
    Row isWord start (left ++ right) stop := by
  induction atLeft with
  | nil kept => exact atRight.weaken kept id
  | fixed solid _ inductionHypothesis => exact .fixed solid (inductionHypothesis atRight)
  | word known filled _ inductionHypothesis =>
    exact .word known filled (inductionHypothesis atRight)
  | blank known _ inductionHypothesis => exact .blank known (inductionHypothesis atRight)
  | payload _ inductionHypothesis => exact .payload (inductionHypothesis atRight)
  | node _ inductionHypothesis => exact .node (inductionHypothesis atRight)

/-- An ordinary text at the end of a row. -/
theorem last {text : String} (ordinary : Text.Ordinary text) :
    Row isWord start [.word text] true :=
  .blank (.inl ordinary) (.nil fun _ => rfl)

/-- A word of the known kind at the end of a row. -/
theorem lastWord {text : String} (known : isWord text) : Row isWord start [.word text] true :=
  .blank (.inr known) (.nil fun _ => rfl)

/-- A row for what is given, and nothing otherwise. -/
theorem elim {α : Type} {option : Option α} {build : α → List Part}
    (given : ∀ value, Row isWord start (build value) stop) (kept : start → stop) :
    Row isWord start (option.elim [] build) stop := by
  cases option with
  | none => exact .nil kept
  | some value => exact given value

/-- Rows that may follow a separator stay apart with that separator between neighbours. -/
theorem separated {separator : String} (solid : Text.Solid separator) {rows : List (List Part)}
    (each : ∀ row ∈ rows, Row isWord false row true) :
    Row isWord false (Part.separated separator rows) true := by
  induction rows with
  | nil => exact .nil fun _ => rfl
  | cons row rest inductionHypothesis =>
    rw [List.forall_mem_cons] at each
    cases rest with
    | nil => exact each.1
    | cons next rest => exact each.1.append (.fixed solid (inductionHypothesis each.2))

/-- A list of nodes keeps its parts apart: a solid separator stands between any two of them. -/
theorem each {separator : String} (solid : Text.Solid separator) (nodes : List Node) :
    Row isWord false (Part.each separator nodes) true :=
  .separated solid (List.forall_mem_map.2 fun _ _ => .node (.nil id))

theorem after {keyword : String} (solid : Text.Solid keyword) (option : Option Node) :
    Row isWord true (Part.after keyword option) true :=
  .elim (fun _ => .fixed solid (.node (.nil id))) id

theorem groupingAfter {keyword : String} (solid : Text.Solid keyword)
    (grouping : Option (List Node)) : Row isWord true (Part.groupingAfter keyword grouping) true :=
  .elim (fun _ => .fixed solid (.each (by decide) _)) id

theorem textAfter {keyword : String} (solid : Text.Solid keyword) (option : Option String) :
    Row isWord true (Part.textAfter keyword option) true :=
  .elim (fun _ => .fixed solid (.payload (.nil id))) id

/-- A full stop stands behind the name, so another name may come right after a qualifier. -/
theorem qualifier (option : Option String) : Row isWord false (Part.qualifier option) false :=
  .elim (fun _ => .payload (.fixed (by decide) (.nil id))) id

/-- The branches of a case distinction begin with keywords that have blanks on both sides. -/
theorem branches (conditions results : List Node) :
    Row isWord true (Part.branches conditions results) true := by
  induction conditions generalizing results with
  | nil =>
    match results with
    | [] => exact .nil id
    | [otherwise] => exact .fixed (by decide) (.node (.nil id))
    | _ :: _ :: _ => exact .nil id
  | cons condition conditions inductionHypothesis =>
    cases results with
    | nil => exact .nil id
    | cons result results =>
      exact .fixed (by decide) (.node (.fixed (by decide) (.node (inductionHypothesis results))))

theorem distinct (isDistinct : Bool) : Row isWord false (Part.distinct isDistinct) false := by
  cases isDistinct with
  | false => exact .nil id
  | true => exact .fixed (by decide) (.nil id)

/-- A default is the only behaviour with a node in it. -/
theorem behaviour (behaviour : JsonBehaviour) :
    Row isWord false (Part.behaviour behaviour) true := by
  cases behaviour with
  | null => exact .last (by decide)
  | error => exact .last (by decide)
  | default value => exact .fixed (by decide) (.node (.nil id))

/-- The filler of a list that is cut off is a text between two words. -/
theorem overflow (overflow : ListOverflow) :
    Row isWord false (Part.overflow overflow) true := by
  cases overflow with
  | error => exact .last (by decide)
  | truncate filler withCount =>
    have counting : Text.Ordinary (if withCount then " WITH COUNT" else " WITHOUT COUNT") := by
      cases withCount <;> decide
    exact .fixed (by decide) ((Row.textAfter (by decide) filler).append (.last counting)).afterWord

/-- The name of a function is ordinary, or it is a word that the dialect is known to use. -/
theorem call {name : String} (known : Text.Ordinary name ∨ isWord (name ++ "("))
    (arguments : List Node) : Row isWord false (Part.call name arguments) true := by
  have body : Row isWord false (Part.each ", " arguments ++ [.word ")"]) true :=
    (Row.each (by decide) arguments).append (.last (by decide))
  rcases known with ordinary | known
  · exact .fixed ⟨(Text.ordinary_append _ _).2 ⟨ordinary, by decide⟩, by simp⟩ body
  · exact .word known (by simp) body

/-- The direction and the place of nulls are words behind the expression, so a key may end with its
expression. -/
theorem key (expression : Node) (key : SortKey) :
    Row isWord false (Part.key expression key) true := by
  have direction : Row isWord true (if key.descending then [.word " DESC"] else []) true := by
    split
    · exact .last (by decide)
    · exact .nil id
  refine .append (.append ?_ direction) ?_
  · split
    · exact .node (.nil id)
    · exact .fixed (by decide) (.node (.last (by decide)))
  · split
    · exact .nil id
    · exact .last (by decide)
    · exact .last (by decide)

end Row

end Part

/-- What must hold of a kind of texts so that it takes in the words of a dialect.  Operators that
stand before an operand are left out, since they may be signs. -/
structure Dialect.Vocabulary (dialect : Dialect) (isWord : String → Prop) : Prop where
  star : isWord "*"
  symbol : ∀ operator : ComparisonOperator, isWord (" " ++ operator.symbol ++ " ")
  booleanToken : ∀ value, isWord (dialect.booleanToken value)
  anyValueToken : isWord dialect.anyValueToken
  scalar : ∀ function, ∀ name ∈ dialect.aliases.scalar function, isWord (name ++ "(")
  aggregate : ∀ function, ∀ name ∈ dialect.aliases.aggregate function, isWord (name ++ "(")
  between : ∀ function, ∀ operator ∈ dialect.aliases.between function,
    isWord (" " ++ operator ++ " ")

namespace Generator

open Part (Row)

variable {generator : Generator} {isWord : String → Prop}

/-- The words of a node that may start with a sign: numbers, and operators before an operand. -/
def signs (generator : Generator) : Node → List String
  | .literal (.double value) => [value.scientific]
  | .literal (.exact value) => [value.plain]
  | .scalar function _ => (generator.dialect.aliases.before function).toList.map ("(" ++ ·)
  | _ => []

/-- The names of a table stand apart by full stops and a blank, whatever qualifiers there are. -/
theorem row_tableParts (table : TableReference) :
    Row isWord false (generator.tableParts table) true := by
  have aliased : Row isWord true (table.effectiveAlias.elim [] fun tableAlias =>
      [.word " ", .payload (.name tableAlias)]) true :=
    .elim (fun _ => .fixed (by decide) (.payload (.nil id))) id
  exact (Row.qualifier _).append ((Row.qualifier _).append (.payload aliased))

/-- A date or a timestamp has its text between a keyword and a closing parenthesis or the end. -/
theorem row_temporalParts {keyword type : String} (value : String)
    (keywordOrdinary : Text.Ordinary keyword) (typeOrdinary : Text.Ordinary type) :
    Row isWord false (generator.temporalParts keyword type value) true := by
  unfold temporalParts
  split
  · have opening := (Text.ordinary_append keyword " ").2 ⟨keywordOrdinary, by decide⟩
    exact .fixed ⟨opening, by simp⟩ (.payload (.nil id))
  · refine .fixed (by decide) (.payload (.last ?_))
    simp only [Text.ordinary_append, typeOrdinary]
    decide

/-- The fields of an interval are keywords with their precisions in decimal digits. -/
theorem ordinary_intervalFields (kind : IntervalKind) (precision fraction : Nat) :
    Text.Ordinary (intervalFields kind precision fraction) := by
  cases kind <;> simp only [intervalFields, Text.ordinary_append, Text.ordinary_repr] <;> decide

/-- The sign of a number is the one word of a literal that is not ordinary.  Which words may stand
there is left to the reader of the row: quotes are not concerned by signs, comments are. -/
theorem row_literalParts (vocabulary : generator.dialect.Vocabulary isWord) (literal : Literal)
    (signs : ∀ word ∈ generator.signs (.literal literal), isWord word) :
    Row isWord false (generator.literalParts literal) true := by
  cases literal with
  | null => exact .last (by decide)
  | bool value => exact .lastWord (vocabulary.booleanToken value)
  | text value => exact .payload (.nil id)
  | double value =>
    simp only [literalParts]
    split
    · exact .lastWord (signs _ List.mem_cons_self)
    · exact .nil fun _ => rfl
  | exact value => exact .lastWord (signs _ List.mem_cons_self)
  | date value => exact row_temporalParts value (by decide) (by decide)
  | timestamp value => exact row_temporalParts value (by decide) (by decide)
  | timestampUtc value => exact row_temporalParts value (by decide) (by decide)
  | interval value type =>
    cases type with
    | interval kind precision fraction =>
      exact .fixed (by decide) (.payload (.last (ordinary_intervalFields _ _ _)))
    | _ => exact .nil fun _ => rfl

/-- A call of a function, in whichever of its four forms it is written.  Aliases are given by the
dialect, so here is where its words come in. -/
theorem row_scalarParts (vocabulary : generator.dialect.Vocabulary isWord)
    (function : ScalarFunction) (arguments : List Node)
    (signs : ∀ word ∈ generator.signs (.scalar function arguments), isWord word) :
    Row isWord false (generator.scalarParts function arguments) true := by
  unfold scalarParts
  dsimp only
  split
  next named => exact .call (.inr (vocabulary.scalar function _ named)) arguments
  next placed =>
    have known := vocabulary.between function _ placed
    split
    · exact .fixed (by decide) (.node (.word known (by simp) (.node (.last (by decide)))))
    · exact .nil fun _ => rfl
  next leading =>
    split
    · refine .word (signs _ ?_) (by simp) (.node (.last (by decide)))
      simp [Generator.signs, leading]
    · exact .nil fun _ => rfl
  · split
    · exact .last function.ordinary_name
    · exact .call (.inl function.ordinary_name) arguments

/-- Arguments are separated by commas, also where several of them stand in parentheses to be
counted. -/
theorem row_argumentParts (vocabulary : generator.dialect.Vocabulary isWord)
    (function : AggregateFunction) (distinct : Bool) (arguments : List Node) :
    Row isWord false (argumentParts function distinct arguments) true := by
  unfold argumentParts
  split
  · exact .lastWord vocabulary.star
  · split
    · exact .each (by decide) _
    · exact .fixed (by decide) ((Row.each (by decide) _).append (.last (by decide)))
  · exact .each (by decide) _

/-- An aggregate function is named by the vocabulary of its dialect; the rest of its words are
ordinary. -/
theorem row_aggregate (vocabulary : generator.dialect.Vocabulary isWord)
    (function : AggregateFunction) (arguments : List Node) (distinct : Bool) :
    Row isWord false (generator.parts (.aggregate function arguments distinct)) true := by
  have body : Row isWord false (Part.distinct distinct ++
      (argumentParts function distinct arguments ++ [.word ")"])) true :=
    (Row.distinct distinct).append
      ((row_argumentParts vocabulary function distinct arguments).append (.last (by decide)))
  cases named : generator.dialect.aliases.aggregate function with
  | none =>
    have ordinary := (Text.ordinary_append _ "(").2 ⟨function.ordinary_name, by decide⟩
    simpa only [parts, named, Option.getD_none] using Row.fixed ⟨ordinary, by simp⟩ body
  | some name =>
    have known := vocabulary.aggregate function name named
    simpa only [parts, named, Option.getD_some] using Row.word known (by simp) body

/-- A select list without expressions is a single word, otherwise it is a list of nodes. -/
theorem row_listParts (vocabulary : generator.dialect.Vocabulary isWord) (list : SelectList) :
    Row isWord false (generator.listParts list) true := by
  cases list with
  | anyValue => exact .lastWord vocabulary.anyValueToken
  | star => exact .lastWord vocabulary.star
  | expressions nodes =>
    simp only [listParts]
    split
    · exact .lastWord vocabulary.anyValueToken
    · exact .each (by decide) nodes

theorem row_itemsParts (items : List SortItem) :
    Row isWord false (generator.itemsParts items) true := by
  refine .separated (by decide) (List.forall_mem_map.2 fun item _ => ?_)
  obtain ⟨expression, ascending, nullsLast⟩ := item
  exact .separated (by decide) (List.forall_mem_map.2 fun key _ => .key expression key)

/-- The items to sort by stand between two words, or nothing is written at all. -/
theorem row_orderParts {opening closing : String} (solid : Text.Solid opening)
    (closed : Text.Ordinary closing) (order : Option (List SortItem)) :
    Row isWord true (generator.orderParts opening closing order) true :=
  .elim (fun items => .fixed solid ((row_itemsParts items).append (.last closed))) id

/-- A limit before the select list ends with a blank, so the list may follow it.  The other position
of a limit is the end of the statement. -/
theorem row_leadingParts (limit : Option RowLimit) :
    Row isWord false (generator.leadingParts limit) false := by
  unfold leadingParts
  split
  next limit _ =>
    have clause := (Text.ordinary_append _ " ").2
      ⟨LimitForm.ordinary_clause generator.dialect.limitForm limit, by decide⟩
    split
    · exact .fixed ⟨clause, by simp⟩ (.nil id)
    · exact .nil id
  · exact .nil id

/-- A limit at the end begins with a blank, so it may follow anything. -/
theorem row_trailingParts (limit : Option RowLimit) :
    Row isWord true (generator.trailingParts limit) true := by
  unfold trailingParts
  split
  · exact .last ((Text.ordinary_append _ _).2 ⟨by decide, LimitForm.ordinary_clause _ _⟩)
  · exact .nil id

/-- Every node keeps its parts apart, whatever its texts and the nodes below it are.  Of the words
in it, only the signs of numbers and of operators depend on values; these are left to the kind of
words that is asked for. -/
theorem row_parts (vocabulary : generator.dialect.Vocabulary isWord) (node : Node)
    (signs : ∀ word ∈ generator.signs node, isWord word) :
    Row isWord false (generator.parts node) true := by
  cases node with
  | select list source filter grouping having order limit =>
    exact .fixed (by decide) ((row_leadingParts limit).append
      ((row_listParts vocabulary list).append (.fixed (by decide) (.node
        ((Row.after (by decide) filter).append ((Row.groupingAfter (by decide) grouping).append
          ((Row.after (by decide) having).append
            ((row_orderParts (by decide) (by decide) order).append (row_trailingParts limit)))))))))
  | selectList list => exact row_listParts vocabulary list
  | column column => exact (Row.qualifier _).append (.payload (.nil id))
  | table table => exact row_tableParts table
  | join type left right condition =>
    have joining : Text.Ordinary (" " ++ type.words ++ " JOIN ") := by cases type <;> decide
    exact .node (.fixed ⟨joining, by simp⟩ (.node (.fixed (by decide) (.node (.nil id)))))
  | junction connective operands =>
    have between : Text.Ordinary (" " ++ connective.keyword ++ " ") := by
      cases connective <;> decide
    exact .fixed (by decide) ((Row.each ⟨between, by simp⟩ operands).append (.last (by decide)))
  | not operand => exact .fixed (by decide) (.node (.last (by decide)))
  | comparison operator left right =>
    exact .node (.word (vocabulary.symbol operator) (by simp) (.node (.nil id)))
  | between expression lower upper =>
    exact .node (.fixed (by decide) (.node (.fixed (by decide) (.node (.nil id)))))
  | like expression pattern escape =>
    exact .node (.fixed (by decide) (.node (.after (by decide) escape)))
  | regexpLike expression pattern => exact .node (.fixed (by decide) (.node (.nil id)))
  | inList expression candidates =>
    exact .node (.fixed (by decide) ((Row.each (by decide) candidates).append (.last (by decide))))
  | isNull negated operand =>
    refine .node (.last ?_)
    cases negated <;> decide
  | isJson negated expression shape keys =>
    refine .node (.last ?_)
    simp only [Text.ordinary_append]
    refine ⟨⟨⟨?_, ?_⟩, by decide⟩, ?_⟩
    · cases negated <;> decide
    · cases shape <;> decide
    · cases keys <;> decide
  | scalar function arguments => exact row_scalarParts vocabulary function arguments signs
  | cast expression type =>
    exact .fixed (by decide) (.node (.fixed (by decide) (.blank (.inl type.ordinary_toText)
      (.last (by decide)))))
  | extract field expression =>
    refine .fixed ⟨?_, by simp⟩ (.node (.last (by decide)))
    cases field <;> decide
  | caseWhen basis conditions results =>
    exact .fixed (by decide) ((Row.after (by decide) basis).append
      ((Row.branches conditions results).append (.last (by decide)))).afterWord
  | jsonValue arguments returning onEmpty onError =>
    have answers : Row isWord false (Part.behaviour onEmpty ++ .word " ON EMPTY " ::
        (Part.behaviour onError ++ [.word " ON ERROR)"])) true :=
      (Row.behaviour onEmpty).append (.fixed (by decide)
        ((Row.behaviour onError).append (.last (by decide))))
    exact .fixed (by decide) ((Row.each (by decide) arguments).append (.fixed (by decide)
      (.blank (.inl returning.ordinary_toText) (.fixed (by decide) answers))))
  | aggregate function arguments distinct =>
    exact row_aggregate vocabulary function arguments distinct
  | listagg argument distinct separator overflow order =>
    have ordered : Row isWord false
        (generator.orderParts " WITHIN GROUP (ORDER BY " ")" order) true :=
      (row_orderParts (by decide) (by decide) order).afterWord
    exact .fixed (by decide) ((Row.distinct distinct).append (.node
      ((Row.textAfter (by decide) separator).append (.fixed (by decide)
        ((Row.overflow overflow).append (.fixed (by decide) ordered))))))
  | groupConcat argument distinct order separator =>
    exact .fixed (by decide) ((Row.distinct distinct).append (.node
      ((row_orderParts (by decide) (by decide) order).append
        ((Row.textAfter (by decide) separator).append (.last (by decide))))))
  | literal literal => exact row_literalParts vocabulary literal signs
  | orderBy items => exact .fixed (by decide) (row_itemsParts items)
  | groupBy expressions => exact .each (by decide) expressions
  | limit limit => exact .last (LimitForm.ordinary_clause _ limit)

end Generator

/-! ## Reading

Two things could go wrong: a word, a number or a type of the library's own could contain a mark,
and two quoted texts could touch.  Neither does, because no word of the vocabulary has marks, and
every node puts words between its other parts.
-/

namespace Text

/-- No character of an ordinary text is one of the marks that quotes and escapes are made of. -/
theorem isMark_of_isOrdinary {c : Char} (ordinary : isOrdinary c) : isMark c = false := by
  rw [Bool.eq_false_iff]
  intro mark
  simp only [isMark, List.contains_eq_mem, List.mem_cons, List.not_mem_nil, or_false,
    decide_eq_true_eq] at mark
  rcases mark with rfl | rfl | rfl | rfl | rfl <;> revert ordinary <;> decide

/-- Ordinary texts cannot open or close a quoted text, in any of the styles. -/
theorem Ordinary.unmarked {text : String} (ordinary : Ordinary text) : Unmarked text :=
  fun c member => isMark_of_isOrdinary (ordinary c member)

theorem unmarked_toString_int (n : Int) : Unmarked (toString n) := by
  cases n with
  | ofNat n => exact (ordinary_repr n).unmarked
  | negSucc n => exact (unmarked_append "-" _).2 ⟨by decide, (ordinary_repr _).unmarked⟩

theorem unmarked_sign (negative : Prop) [Decidable negative] :
    Unmarked (if negative then "-" else "") := by
  split <;> decide

end Text

/-- The literal of a double has no quotes in it, not even where it has signs. -/
theorem Double.unmarked_scientific (x : Double) : Text.Unmarked x.scientific := by
  obtain ⟨mantissa, ordinary, _, same⟩ := x.scientific_eq
  simp only [same, Text.unmarked_append]
  exact ⟨Text.unmarked_sign _, ordinary.unmarked, Text.unmarked_toString_int _⟩

theorem ExactNumber.unmarked_plain (number : ExactNumber) : Text.Unmarked number.plain := by
  obtain ⟨magnitude, ordinary, _, same⟩ := number.plain_eq
  rw [same, Text.unmarked_append]
  exact ⟨Text.unmarked_sign _, ordinary.unmarked⟩

/-- The words of a readable dialect are without marks.  Rows made of them and of payloads are
legible by the one law for rows. -/
theorem Dialect.Readable.vocabulary {dialect : Dialect} (readable : dialect.Readable) :
    dialect.Vocabulary Text.Unmarked where
  star := by decide
  symbol operator := by cases operator <;> decide
  booleanToken := readable.booleanToken
  anyValueToken := readable.anyValueToken
  scalar function name member :=
    (Text.unmarked_append _ _).2 ⟨readable.scalar function name member, by decide⟩
  aggregate function name member :=
    (Text.unmarked_append _ _).2 ⟨readable.aggregate function name member, by decide⟩
  between function operator member := by
    simp only [Text.unmarked_append, readable.between function operator member]
    decide

/-- Both names and texts are quoted in a style of the dialect. -/
theorem Dialect.quote_mem_quoting (dialect : Dialect) (payload : Payload) :
    (dialect.quote payload).1 ∈ dialect.quoting := by
  cases payload <;> simp [Dialect.quote, Dialect.quoting]

namespace Generator

open Part (Row)

variable {generator : Generator}

/-- SQL that is read as it was written, under the quotes of the dialect. -/
abbrev Reads (generator : Generator) (sql : Sql) : Prop := sql.Legible generator.dialect.quoting

/-- Signs of numbers and of operators are no marks either.  So what is true of words need not be
said of signs again. -/
theorem signs_unmarked (readable : generator.dialect.Readable) (node : Node) :
    ∀ word ∈ generator.signs node, Text.Unmarked word := by
  cases node with
  | literal literal =>
    cases literal with
    | double value => simpa [signs] using value.unmarked_scientific
    | exact value => simpa [signs] using value.unmarked_plain
    | _ => simp [signs]
  | scalar function arguments =>
    simp only [signs, List.mem_map, Option.mem_toList, forall_exists_index, and_imp]
    rintro _ operator leading rfl
    exact (Text.unmarked_append _ _).2 ⟨by decide, readable.before function operator leading⟩
  | _ => simp [signs]

/-- A row without marks in its words is read as it was written if the nodes in it are.  If it may
stand behind a quoted text, it does not start with a mark. -/
theorem legible_of_row {start stop : Bool} {row : List Part}
    (apart : Row Text.Unmarked start row stop)
    (each : ∀ child, .node child ∈ row → generator.Reads (generator.written child)) :
    generator.Reads (generator.partsSql row) ∧ (start → (generator.partsSql row).Detached) := by
  induction apart with
  | nil _ => exact ⟨trivial, fun _ => (@Sql.Trailing.nil []).detached⟩
  | fixed solid _ inductionHypothesis =>
    have atRest := inductionHypothesis fun child => each child ∘ List.mem_cons_of_mem _
    have trailing := Sql.Trailing.after solid.1.unmarked solid.2 atRest.1
    exact ⟨trailing.legible, fun _ => trailing.detached⟩
  | word known filled _ inductionHypothesis =>
    have atRest := inductionHypothesis fun child => each child ∘ List.mem_cons_of_mem _
    have trailing := Sql.Trailing.after known filled atRest.1
    exact ⟨trailing.legible, fun _ => trailing.detached⟩
  | blank known _ inductionHypothesis =>
    have atRest := inductionHypothesis fun child => each child ∘ List.mem_cons_of_mem _
    have unmarked := known.elim Text.Ordinary.unmarked id
    exact ⟨.after unmarked atRest.1,
      fun exposed => (Sql.detached_code unmarked).append (atRest.2 exposed)⟩
  | @payload _ payload _ _ inductionHypothesis =>
    have atRest := inductionHypothesis fun child => each child ∘ List.mem_cons_of_mem _
    have quoted := Sql.Legible.quoted (generator.dialect.quote_mem_quoting payload)
      (generator.dialect.quote payload).2
    exact ⟨quoted.append ⟨atRest.1, atRest.2 rfl⟩, Bool.noConfusion⟩
  | @node _ child _ _ inductionHypothesis =>
    have atRest := inductionHypothesis fun child => each child ∘ List.mem_cons_of_mem _
    exact ⟨(each child List.mem_cons_self).append ⟨atRest.1, atRest.2 rfl⟩, Bool.noConfusion⟩

/-- What is written for a tree is read as it was written, also if the tree has no form.  It is
proved of rows of parts, with the nodes below as induction hypothesis. -/
theorem written_legible (readable : generator.dialect.Readable) (node : Node) :
    generator.Reads (generator.written node) := by
  induction node using Node.inductionOnChildren with
  | step node each =>
    have apart := row_parts readable.vocabulary node (signs_unmarked readable node)
    rw [written_eq_parts]
    exact (legible_of_row apart fun child member =>
      each child (mem_children_of_node_mem_parts member)).1

/-- A reader of the text of a tree finds the spans again that it was written in: no name and no text
can end its own quotes. -/
theorem scan_written (readable : generator.dialect.Readable) (node : Node) :
    scan generator.dialect.quoting (generator.written node).toText.toList =
      some (generator.written node).lexemes := by
  rw [Sql.toText, String.toList_ofList]
  exact scan_chars readable.distinct (written_legible readable node)

end Generator

end Pushdown
