/-
Module: Pushdown.Proofs.Sql.Part
Purpose: What a node writes, part by part: words, payloads and the nodes below it.
Main exports: Part, Generator.parts, Generator.written_eq_parts,
  Generator.mem_children_of_node_mem_parts, Generator.node_mem_parts
-/
import Pushdown.Proofs.Sql.Payload

namespace Pushdown

/-!
A node writes words of the library's own, payloads that came with it, and the nodes below it.
`Generator.parts` says which, in order, without going below the node.  It is the one place where
laws about generated text meet the wordings of all nodes: a law about rows of parts becomes a law
about trees by an induction over children, and no such law has to know the nodes by name.
-/

/-- What stands at one place of what a node writes. -/
inductive Part where
  /-- A text of the library's own. -/
  | word (text : String)
  /-- A text that came with the tree or its context. -/
  | payload (payload : Payload)
  /-- A node below, with all that it writes. -/
  | node (node : Node)

namespace Part

/-- Several rows of parts with a word between neighbours. -/
def separated (separator : String) : List (List Part) → List Part
  | [] => []
  | [row] => row
  | row :: rest => row ++ .word separator :: separated separator rest

/-- Nodes with a word between neighbours. -/
def each (separator : String) (nodes : List Node) : List Part :=
  separated separator (nodes.map fun child => [.node child])

/-- A keyword and a node, if there is one. -/
def after (keyword : String) (option : Option Node) : List Part :=
  option.elim [] fun child => [.word keyword, .node child]

/-- A keyword and expressions to group by, if that is asked. -/
def groupingAfter (keyword : String) (grouping : Option (List Node)) : List Part :=
  grouping.elim [] fun expressions => .word keyword :: each ", " expressions

/-- A keyword and a text, if there is one. -/
def textAfter (keyword : String) (option : Option String) : List Part :=
  option.elim [] fun text => [.word keyword, .payload (.text text)]

/-- A name with a full stop after it, if there is one. -/
def qualifier (option : Option String) : List Part :=
  option.elim [] fun name => [.payload (.name name), .word "."]

/-- Conditions and results by turns, with the keyword of each before it. -/
def branches : List Node → List Node → List Part
  | condition :: conditions, result :: results =>
    [.word " WHEN ", .node condition, .word " THEN ", .node result] ++
      branches conditions results
  | [], [otherwise] => [.word " ELSE ", .node otherwise]
  | _, _ => []

/-- The word that restricts an aggregate to distinct values. -/
def distinct (isDistinct : Bool) : List Part := if isDistinct then [.word "DISTINCT "] else []

/-- What is answered instead of a value. -/
def behaviour : JsonBehaviour → List Part
  | .null => [.word "NULL"]
  | .error => [.word "ERROR"]
  | .default value => [.word "DEFAULT ", .node value]

/-- What becomes of a list that is too long. -/
def overflow : ListOverflow → List Part
  | .error => [.word "ERROR"]
  | .truncate filler withCount =>
    .word "TRUNCATE" :: (textAfter " " filler ++
      [.word (if withCount then " WITH COUNT" else " WITHOUT COUNT")])

/-- A function name with arguments in parentheses. -/
def call (name : String) (arguments : List Node) : List Part :=
  .word (name ++ "(") :: (each ", " arguments ++ [.word ")"])

/-- A key to sort by. -/
def key (expression : Node) (key : SortKey) : List Part :=
  (match key.subject with
    | .value => [.node expression]
    | .nullIndicator =>
      [.word "CASE WHEN ", .node expression, .word " IS NULL THEN 1 ELSE 0 END"]) ++
  (if key.descending then [.word " DESC"] else []) ++
  match key.nullsLast with
  | none => []
  | some true => [.word " NULLS LAST"]
  | some false => [.word " NULLS FIRST"]

end Part

namespace Generator

variable (generator : Generator)

/-- The parts of a table. -/
def tableParts (table : TableReference) : List Part :=
  Part.qualifier (generator.dialect.catalogQualifier generator.context) ++
    (Part.qualifier (generator.dialect.schemaQualifier generator.context) ++
      .payload (.name table.name) :: table.effectiveAlias.elim [] fun tableAlias =>
        [.word " ", .payload (.name tableAlias)])

/-- The parts of a date or a timestamp: a keyword before a text, or a conversion to a type. -/
def temporalParts (keyword type value : String) : List Part :=
  match generator.dialect.temporalForm with
  | .keyword => [.word (keyword ++ " "), .payload (.text value)]
  | .cast => [.word "CAST(", .payload (.text value), .word (" AS " ++ type ++ ")")]

/-- The words after the text of an interval. -/
def intervalFields (kind : IntervalKind) (precision fraction : Nat) : String :=
  match kind with
  | .yearToMonth => " YEAR (" ++ Nat.repr precision ++ ") TO MONTH"
  | .dayToSecond =>
    " DAY (" ++ Nat.repr precision ++ ") TO SECOND (" ++ Nat.repr fraction ++ ")"

/-- The parts of a constant, and none where it has no form. -/
def literalParts : Literal → List Part
  | .null => [.word "NULL"]
  | .bool value => [.word (generator.dialect.booleanToken value)]
  | .text value => [.payload (.text value)]
  | .double value => if value.isFinite then [.word value.scientific] else []
  | .exact value => [.word value.plain]
  | .date value => generator.temporalParts "DATE" "DATE" value
  | .timestamp value | .timestampUtc value =>
    generator.temporalParts "TIMESTAMP" "DATETIME2" value
  | .interval value (.interval kind precision fraction) =>
    [.word "INTERVAL ", .payload (.text value), .word (intervalFields kind precision fraction)]
  | .interval _ _ => []

/-- The parts of a scalar function with its arguments, and none where it does not take them. -/
def scalarParts (function : ScalarFunction) (arguments : List Node) : List Part :=
  let aliases := generator.dialect.aliases
  match aliases.scalar function, aliases.between function, aliases.before function with
  | some name, _, _ => Part.call name arguments
  | none, some operator, _ =>
    match arguments with
    | [left, right] =>
      [.word "(", .node left, .word (" " ++ operator ++ " "), .node right, .word ")"]
    | _ => []
  | none, none, some operator =>
    match arguments with
    | [operand] => [.word ("(" ++ operator), .node operand, .word ")"]
    | _ => []
  | none, none, none =>
    if arguments.isEmpty && Dialect.omitsParentheses function then [.word function.name]
    else Part.call function.name arguments

/-- The parts of the arguments of an aggregate function. -/
def argumentParts (function : AggregateFunction) (distinct : Bool) (arguments : List Node) :
    List Part :=
  match function, arguments with
  | .count, [] => [.word "*"]
  | .count, first :: second :: rest =>
    if distinct then Part.each ", " (first :: second :: rest)
    else .word "(" :: (Part.each ", " (first :: second :: rest) ++ [.word ")"])
  | _, arguments => Part.each ", " arguments

/-- The parts of a select list. -/
def listParts : SelectList → List Part
  | .anyValue => [.word generator.dialect.anyValueToken]
  | .star => [.word "*"]
  | .expressions nodes =>
    if nodes.isEmpty then [.word generator.dialect.anyValueToken] else Part.each ", " nodes

/-- The parts of a sort item: its keys. -/
def itemParts : SortItem → List Part
  | .item expression ascending nullsLast =>
    Part.separated ", " ((generator.dialect.sortForm.keys ascending
      (if nullsLast = generator.nullOrder.lastByDefault ascending then none
        else some nullsLast)).map (Part.key expression))

/-- The parts of several sort items. -/
def itemsParts (items : List SortItem) : List Part :=
  Part.separated ", " (items.map generator.itemParts)

/-- The parts of sort items between two texts, if there are any. -/
def orderParts (opening closing : String) (order : Option (List SortItem)) : List Part :=
  order.elim [] fun items => .word opening :: (generator.itemsParts items ++ [.word closing])

/-- The parts of the limit before a select list. -/
def leadingParts (limit : Option RowLimit) : List Part :=
  match generator.dialect.limitForm.position, limit with
  | .afterSelect, some limit =>
    if limit.offset = 0 then [.word (generator.dialect.limitForm.clause limit ++ " ")] else []
  | _, _ => []

/-- The parts of the limit at the end of a select. -/
def trailingParts (limit : Option RowLimit) : List Part :=
  match generator.dialect.limitForm.position, limit with
  | .trailing, some limit => [.word (" " ++ generator.dialect.limitForm.clause limit)]
  | _, _ => []

/-- The parts of a node in order of writing. -/
def parts : Node → List Part
  | .select list source filter grouping having order limit =>
    .word "SELECT " :: (generator.leadingParts limit ++ (generator.listParts list ++
      .word " FROM " :: .node source :: (Part.after " WHERE " filter ++
        (Part.groupingAfter " GROUP BY " grouping ++ (Part.after " HAVING " having ++
          (generator.orderParts " ORDER BY " "" order ++ generator.trailingParts limit))))))
  | .selectList list => generator.listParts list
  | .column column => Part.qualifier column.qualifier ++ [.payload (.name column.name)]
  | .table table => generator.tableParts table
  | .join type left right condition =>
    [.node left, .word (" " ++ type.words ++ " JOIN "), .node right, .word " ON ",
     .node condition]
  | .junction connective operands =>
    .word "(" :: (Part.each (" " ++ connective.keyword ++ " ") operands ++ [.word ")"])
  | .not operand => [.word "NOT (", .node operand, .word ")"]
  | .comparison operator left right =>
    [.node left, .word (" " ++ operator.symbol ++ " "), .node right]
  | .between expression lower upper =>
    [.node expression, .word " BETWEEN ", .node lower, .word " AND ", .node upper]
  | .like expression pattern escape =>
    .node expression :: .word " LIKE " :: .node pattern :: Part.after " ESCAPE " escape
  | .regexpLike expression pattern =>
    [.node expression, .word " REGEXP_LIKE ", .node pattern]
  | .inList expression candidates =>
    .node expression :: .word " IN (" :: (Part.each ", " candidates ++ [.word ")"])
  | .isNull negated operand =>
    [.node operand, .word (if negated then " IS NOT NULL" else " IS NULL")]
  | .isJson negated expression shape keys =>
    [.node expression, .word ((if negated then " IS NOT JSON " else " IS JSON ") ++ shape.name ++
      " " ++ keys.words)]
  | .scalar function arguments => generator.scalarParts function arguments
  | .cast expression type =>
    [.word "CAST(", .node expression, .word " AS ", .word type.toText, .word ")"]
  | .extract field expression =>
    [.word ("EXTRACT(" ++ field.name ++ " FROM "), .node expression, .word ")"]
  | .caseWhen basis conditions results =>
    .word "CASE" :: (Part.after " " basis ++ (Part.branches conditions results ++
      [.word " END"]))
  | .jsonValue arguments returning onEmpty onError =>
    .word "JSON_VALUE(" :: (Part.each ", " arguments ++ .word " RETURNING " ::
      .word returning.toText :: .word " " :: (Part.behaviour onEmpty ++ .word " ON EMPTY " ::
        (Part.behaviour onError ++ [.word " ON ERROR)"])))
  | .aggregate function arguments distinct =>
    .word ((generator.dialect.aliases.aggregate function).getD function.name ++ "(") ::
      (Part.distinct distinct ++ (argumentParts function distinct arguments ++ [.word ")"]))
  | .listagg argument distinct separator overflow order =>
    .word "LISTAGG(" :: (Part.distinct distinct ++ .node argument ::
      (Part.textAfter ", " separator ++ .word " ON OVERFLOW " :: (Part.overflow overflow ++
        .word ")" :: generator.orderParts " WITHIN GROUP (ORDER BY " ")" order)))
  | .groupConcat argument distinct order separator =>
    .word "GROUP_CONCAT(" :: (Part.distinct distinct ++ .node argument ::
      (generator.orderParts " ORDER BY " "" order ++ (Part.textAfter " SEPARATOR " separator ++
        [.word ")"])))
  | .literal literal => generator.literalParts literal
  | .orderBy items => .word "ORDER BY " :: generator.itemsParts items
  | .groupBy expressions => Part.each ", " expressions
  | .limit limit => [.word (generator.dialect.limitForm.clause limit)]

/-! ### The SQL of parts -/

/-- The SQL of a part. -/
def partSql : Part → Sql
  | .word text => Sql.code text
  | .payload payload =>
    [.quoted (generator.dialect.quote payload).1 (generator.dialect.quote payload).2]
  | .node child => generator.written child

/-- The SQL of parts in a row. -/
def partsSql (parts : List Part) : Sql := parts.flatMap generator.partSql

@[simp]
theorem partsSql_nil : generator.partsSql [] = [] := rfl

@[simp]
theorem partsSql_cons (part : Part) (rest : List Part) :
    generator.partsSql (part :: rest) = generator.partSql part ++ generator.partsSql rest := rfl

@[simp]
theorem partsSql_append (left right : List Part) :
    generator.partsSql (left ++ right) = generator.partsSql left ++ generator.partsSql right :=
  List.flatMap_append

@[simp]
theorem partSql_word (text : String) : generator.partSql (.word text) = Sql.code text := rfl

@[simp]
theorem partSql_node (child : Node) : generator.partSql (.node child) = generator.written child :=
  rfl

@[simp]
theorem partSql_name (name : String) :
    generator.partSql (.payload (.name name)) = [generator.dialect.identifier name] := by
  rw [Dialect.identifier_eq_quote]
  rfl

@[simp]
theorem partSql_text (value : String) :
    generator.partSql (.payload (.text value)) = [generator.dialect.stringLiteral value] := rfl

@[simp]
theorem partsSql_separated (separator : String) (rows : List (List Part)) :
    generator.partsSql (Part.separated separator rows) =
      Sql.separated separator (rows.map generator.partsSql) := by
  induction rows with
  | nil => rfl
  | cons row rest inductionHypothesis =>
    cases rest with
    | nil => rfl
    | cons next rest =>
      rw [Part.separated, partsSql_append, partsSql_cons, inductionHypothesis]
      · exact (List.append_assoc _ _ _).symm
      · exact List.cons_ne_nil _ _

/-- Nodes with a separator are written one by one; this connects rows of parts with the generator's
own lists. -/
@[simp]
theorem partsSql_each (separator : String) (nodes : List Node) :
    generator.partsSql (Part.each separator nodes) =
      Sql.separated separator (generator.writtenEach nodes) := by
  rw [Part.each, partsSql_separated, writtenEach_eq_map, List.map_map]
  congr 2
  funext child
  exact List.append_nil _

@[simp]
theorem partsSql_after (keyword : String) (option : Option Node) :
    generator.partsSql (Part.after keyword option) = generator.writtenAfter keyword option := by
  cases option <;> simp [Part.after, writtenAfter]

@[simp]
theorem partsSql_groupingAfter (keyword : String) (grouping : Option (List Node)) :
    generator.partsSql (Part.groupingAfter keyword grouping) =
      generator.writtenGroupingAfter keyword grouping := by
  cases grouping <;> simp [Part.groupingAfter, writtenGroupingAfter, Sql.commaSeparated]

@[simp]
theorem partsSql_textAfter (keyword : String) (option : Option String) :
    generator.partsSql (Part.textAfter keyword option) = generator.separator keyword option := by
  cases option <;> rfl

@[simp]
theorem partsSql_qualifier (option : Option String) :
    generator.partsSql (Part.qualifier option) = generator.qualifier option := by
  cases option <;> simp [Part.qualifier, qualifier, Sql.code]

@[simp]
theorem partsSql_branches (conditions results : List Node) :
    generator.partsSql (Part.branches conditions results) =
      Sql.branches (generator.writtenEach conditions) (generator.writtenEach results) := by
  induction conditions generalizing results with
  | nil =>
    match results with
    | [] => rfl
    | [otherwise] => simp [Part.branches, writtenEach, Sql.branches]
    | _ :: _ :: _ => rfl
  | cons condition conditions inductionHypothesis =>
    cases results with
    | nil => rfl
    | cons result results =>
      simp [Part.branches, writtenEach, Sql.branches, inductionHypothesis]

@[simp]
theorem partsSql_distinct (distinct : Bool) :
    generator.partsSql (Part.distinct distinct) = distinctWord distinct := by
  cases distinct <;> rfl

@[simp]
theorem partsSql_behaviour (behaviour : JsonBehaviour) :
    generator.partsSql (Part.behaviour behaviour) = generator.writtenBehaviour behaviour := by
  cases behaviour <;> simp [Part.behaviour, writtenBehaviour]

@[simp]
theorem partsSql_overflow (overflow : ListOverflow) :
    generator.partsSql (Part.overflow overflow) = generator.overflow overflow := by
  rcases overflow with _ | ⟨_ | filler, withCount⟩ <;> rfl

@[simp]
theorem partsSql_call (name : String) (arguments : List Node) :
    generator.partsSql (Part.call name arguments) =
      call name (generator.writtenEach arguments) := by
  simp [Part.call, call, Sql.commaSeparated]

@[simp]
theorem partsSql_key (expression : Node) (key : SortKey) :
    generator.partsSql (Part.key expression key) = key.render (generator.written expression) := by
  obtain ⟨subject, descending, nullsLast⟩ := key
  rcases nullsLast with _ | _ | _ <;> cases subject <;> cases descending <;>
    simp [Part.key, SortKey.render]

@[simp]
theorem partsSql_tableParts (table : TableReference) :
    generator.partsSql (generator.tableParts table) = generator.table table := by
  cases given : table.effectiveAlias <;> simp [tableParts, Generator.table, given, Sql.code]

@[simp]
theorem partsSql_column (column : ColumnReference) :
    generator.partsSql (Part.qualifier column.qualifier ++ [.payload (.name column.name)]) =
      generator.column column := by
  cases given : column.qualifier <;> simp [Generator.column, given, qualifier]

/-- Both forms of a date have the parts of a temporal literal, for the type that a cast names. -/
theorem partsSql_date (value : String) :
    generator.partsSql (generator.temporalParts "DATE" "DATE" value) =
      generator.dialect.dateLiteral value := by
  cases form : generator.dialect.temporalForm <;>
    simp only [temporalParts, Dialect.dateLiteral, TemporalForm.date, form] <;> rfl

theorem partsSql_timestamp (value : String) :
    generator.partsSql (generator.temporalParts "TIMESTAMP" "DATETIME2" value) =
      generator.dialect.timestampLiteral value := by
  cases form : generator.dialect.temporalForm <;>
    simp only [temporalParts, Dialect.timestampLiteral, TemporalForm.timestamp, form] <;> rfl

/-- A literal that has no form is written as nothing, and it has no parts either. -/
@[simp]
theorem partsSql_literalParts (literal : Literal) :
    generator.partsSql (generator.literalParts literal) =
      settledSql (generator.literal literal) := by
  cases literal with
  | double value =>
    simp only [literalParts, Generator.literal]
    split <;> rfl
  | date value => exact generator.partsSql_date value
  | timestamp value => exact generator.partsSql_timestamp value
  | timestampUtc value => exact generator.partsSql_timestamp value
  | interval value type =>
    cases type with
    | interval kind precision fraction => cases kind <;> rfl
    | _ => rfl
  | _ => rfl

/-- A function has the parts of its call in each of the four forms, and none where its operator does
not take as many arguments. -/
@[simp]
theorem partsSql_scalarParts (function : ScalarFunction) (arguments : List Node) :
    generator.partsSql (generator.scalarParts function arguments) =
      settledSql (generator.scalarCall function (generator.writtenEach arguments)) := by
  cases named : generator.dialect.aliases.scalar function with
  | some name => simp [scalarParts, scalarCall, named, settledSql]
  | none =>
    cases placed : generator.dialect.aliases.between function with
    | some operator =>
      rcases arguments with _ | ⟨left, _ | ⟨right, _ | ⟨third, rest⟩⟩⟩ <;>
        simp [scalarParts, scalarCall, named, placed, writtenEach, settledSql]
    | none =>
      cases leading : generator.dialect.aliases.before function with
      | some operator =>
        rcases arguments with _ | ⟨operand, _ | ⟨second, rest⟩⟩ <;>
          simp [scalarParts, scalarCall, named, placed, leading, writtenEach, settledSql]
      | none =>
        simp only [scalarParts, scalarCall_of_none named placed leading, named, placed, leading,
          writtenEach_eq_map, List.isEmpty_map, settledSql]
        split <;> simp [writtenEach_eq_map]

/-- Several arguments to be counted are put in parentheses unless they are distinct. -/
@[simp]
theorem partsSql_argumentParts (function : AggregateFunction) (distinct : Bool)
    (arguments : List Node) :
    generator.partsSql (argumentParts function distinct arguments) =
      aggregateArguments function distinct (generator.writtenEach arguments) := by
  rcases arguments with _ | ⟨first, _ | ⟨second, rest⟩⟩ <;> cases function <;> cases distinct <;>
    simp [argumentParts, aggregateArguments, writtenEach, Sql.commaSeparated]

@[simp]
theorem partsSql_listParts (list : SelectList) :
    generator.partsSql (generator.listParts list) = generator.writtenSelectList list := by
  cases list with
  | anyValue => rfl
  | star => rfl
  | expressions nodes =>
    simp only [listParts, writtenSelectList]
    split <;> simp [Sql.commaSeparated]

@[simp]
theorem partsSql_itemParts (item : SortItem) :
    generator.partsSql (generator.itemParts item) = generator.writtenSortItem item := by
  obtain ⟨expression, ascending, nullsLast⟩ := item
  simp [itemParts, writtenSortItem, sortKeys, Dialect.sortKeys, Sql.commaSeparated,
    Function.comp_def]

@[simp]
theorem partsSql_itemsParts (items : List SortItem) :
    generator.partsSql (generator.itemsParts items) =
      Sql.commaSeparated (generator.writtenSortItems items) := by
  simp [itemsParts, writtenSortItems_eq_map, Sql.commaSeparated, Function.comp_def]

@[simp]
theorem partsSql_orderParts (opening closing : String) (order : Option (List SortItem)) :
    generator.partsSql (generator.orderParts opening closing order) =
      generator.writtenOrderBetween opening closing order := by
  cases order <;> simp [orderParts, writtenOrderBetween]

@[simp]
theorem partsSql_leadingParts (limit : Option RowLimit) :
    generator.partsSql (generator.leadingParts limit) =
      settledSql (generator.leadingLimit limit) := by
  cases position : generator.dialect.limitForm.position <;> cases limit <;>
    simp [leadingParts, leadingLimit, position, settledSql]
  split <;> simp

@[simp]
theorem partsSql_trailingParts (limit : Option RowLimit) :
    generator.partsSql (generator.trailingParts limit) = generator.trailingLimit limit := by
  cases position : generator.dialect.limitForm.position <;> cases limit <;>
    simp [trailingParts, trailingLimit, position]

/-- What is written for a node is the SQL of its parts.  All laws about generated text start from
this equation. -/
theorem written_eq_parts (node : Node) :
    generator.written node = generator.partsSql (generator.parts node) := by
  cases node with
  | column column => exact (generator.partsSql_column column).symm
  | aggregate function arguments distinct => simp [written, parts, aggregateCall]
  | _ => simp [written, parts, Sql.commaSeparated]

/-! ### The nodes among parts -/

section Nodes

variable {generator} {child : Node}

/-- A node is among separated parts exactly if it is in one of the rows. -/
@[simp]
theorem node_mem_separated {separator : String} {rows : List (List Part)} :
    Part.node child ∈ Part.separated separator rows ↔ ∃ row ∈ rows, Part.node child ∈ row := by
  induction rows with
  | nil => simp [Part.separated]
  | cons row rest inductionHypothesis =>
    cases rest with
    | nil => simp [Part.separated]
    | cons next rest =>
      rw [Part.separated, List.mem_append, List.mem_cons, inductionHypothesis]
      · simp
      · exact List.cons_ne_nil _ _

@[simp]
theorem node_mem_each {separator : String} {nodes : List Node} :
    Part.node child ∈ Part.each separator nodes ↔ child ∈ nodes := by
  simp [Part.each]

@[simp]
theorem node_mem_after {keyword : String} {option : Option Node} :
    Part.node child ∈ Part.after keyword option ↔ child ∈ option := by
  cases option <;> simp [Part.after, eq_comm]

@[simp]
theorem node_mem_groupingAfter {keyword : String} {grouping : Option (List Node)} :
    Part.node child ∈ Part.groupingAfter keyword grouping ↔ child ∈ grouping.getD [] := by
  cases grouping <;> simp [Part.groupingAfter]

@[simp]
theorem node_mem_textAfter {keyword : String} {option : Option String} :
    Part.node child ∉ Part.textAfter keyword option := by
  cases option <;> simp [Part.textAfter]

@[simp]
theorem node_mem_qualifier {option : Option String} : Part.node child ∉ Part.qualifier option := by
  cases option <;> simp [Part.qualifier]

/-- Branches mention conditions and results only, also where their numbers do not match. -/
theorem mem_of_node_mem_branches {conditions results : List Node}
    (member : Part.node child ∈ Part.branches conditions results) :
    child ∈ conditions ∨ child ∈ results := by
  induction conditions generalizing results with
  | nil =>
    match results with
    | [] => simp [Part.branches] at member
    | [otherwise] => simpa [Part.branches] using member
    | _ :: _ :: _ => simp [Part.branches] at member
  | cons condition conditions inductionHypothesis =>
    cases results with
    | nil => simp [Part.branches] at member
    | cons result results =>
      simp only [Part.branches, List.mem_append, List.mem_cons, Part.node.injEq, reduceCtorEq,
        false_or, List.not_mem_nil, or_false] at member ⊢
      grind

/-- Every condition and result is mentioned if there is a result for each condition, with or without
one more for all other cases. -/
theorem node_mem_branches {conditions results : List Node}
    (balanced : results.length = conditions.length ∨ results.length = conditions.length + 1) :
    Part.node child ∈ Part.branches conditions results ↔
      child ∈ conditions ∨ child ∈ results := by
  induction conditions generalizing results with
  | nil =>
    match results with
    | [] => simp [Part.branches]
    | [otherwise] => simp [Part.branches]
    | _ :: _ :: _ => simp at balanced
  | cons condition conditions inductionHypothesis =>
    cases results with
    | nil => simp at balanced
    | cons result results =>
      have rest := @inductionHypothesis results (by simpa using balanced)
      simp [Part.branches, rest]
      grind

@[simp]
theorem node_mem_distinct {distinct : Bool} : Part.node child ∉ Part.distinct distinct := by
  cases distinct <;> simp [Part.distinct]

@[simp]
theorem node_mem_behaviour {behaviour : JsonBehaviour} :
    Part.node child ∈ Part.behaviour behaviour ↔ child ∈ behaviour.nodes := by
  cases behaviour <;> simp [Part.behaviour, JsonBehaviour.nodes]

@[simp]
theorem node_mem_overflow {overflow : ListOverflow} :
    Part.node child ∉ Part.overflow overflow := by
  cases overflow <;> simp [Part.overflow]

@[simp]
theorem node_mem_call {name : String} {arguments : List Node} :
    Part.node child ∈ Part.call name arguments ↔ child ∈ arguments := by
  simp [Part.call]

@[simp]
theorem node_mem_key {expression : Node} {key : SortKey} :
    Part.node child ∈ Part.key expression key ↔ child = expression := by
  obtain ⟨subject, descending, nullsLast⟩ := key
  rcases nullsLast with _ | _ | _ <;> cases subject <;> cases descending <;> simp [Part.key]

@[simp]
theorem node_mem_tableParts {table : TableReference} :
    Part.node child ∉ generator.tableParts table := by
  cases given : table.effectiveAlias <;> simp [tableParts, given]

@[simp]
theorem node_mem_temporalParts {keyword type value : String} :
    Part.node child ∉ generator.temporalParts keyword type value := by
  cases form : generator.dialect.temporalForm <;> simp [temporalParts, form]

@[simp]
theorem node_mem_literalParts {literal : Literal} :
    Part.node child ∉ generator.literalParts literal := by
  cases literal with
  | double value =>
    simp only [literalParts]
    split <;> simp
  | interval value type => cases type <;> simp [literalParts]
  | _ => simp [literalParts]

/-- A call mentions arguments only, even one that its operator does not accept. -/
theorem mem_of_node_mem_scalarParts {function : ScalarFunction} {arguments : List Node}
    (member : Part.node child ∈ generator.scalarParts function arguments) : child ∈ arguments := by
  unfold scalarParts at member
  dsimp only at member
  split at member
  · exact node_mem_call.1 member
  · split at member <;> simp_all
  · split at member <;> simp_all
  · split at member
    · simp at member
    · exact node_mem_call.1 member

/-- A function that takes as many arguments as it is given is written in one of four forms. -/
theorem scalarParts_cases {function : ScalarFunction} {arguments : List Node}
    (arity : SoundArity generator.dialect.aliases function arguments.length) :
    (∃ name, generator.scalarParts function arguments = Part.call name arguments) ∨
      (∃ operator left right, arguments = [left, right] ∧
        generator.scalarParts function arguments =
          [.word "(", .node left, .word operator, .node right, .word ")"]) ∨
      (∃ operator operand, arguments = [operand] ∧
        generator.scalarParts function arguments = [.word operator, .node operand, .word ")"]) ∨
      (arguments = [] ∧ generator.scalarParts function arguments = [.word function.name]) := by
  cases named : generator.dialect.aliases.scalar function with
  | some name => exact .inl ⟨name, by simp [scalarParts, named]⟩
  | none =>
    have takes := arity named
    cases placed : generator.dialect.aliases.between function with
    | some operator =>
      simp only [placed] at takes
      obtain ⟨left, right, rfl⟩ := List.length_eq_two.1 takes
      exact .inr (.inl ⟨" " ++ operator ++ " ", left, right, rfl,
        by simp [scalarParts, named, placed]⟩)
    | none =>
      cases leading : generator.dialect.aliases.before function with
      | some operator =>
        simp only [placed, leading] at takes
        obtain ⟨operand, rfl⟩ := List.length_eq_one_iff.1 takes
        exact .inr (.inr (.inl ⟨"(" ++ operator, operand, rfl,
          by simp [scalarParts, named, placed, leading]⟩))
      | none =>
        by_cases bare : arguments.isEmpty && Dialect.omitsParentheses function
        · rw [Bool.and_eq_true, List.isEmpty_iff] at bare
          exact .inr (.inr (.inr ⟨bare.1, by simp [scalarParts, named, placed, leading, bare]⟩))
        · exact .inl ⟨function.name, by simp [scalarParts, named, placed, leading, bare]⟩

/-- A function takes its arguments into its call where it takes as many as it is given. -/
theorem node_mem_scalarParts {function : ScalarFunction} {arguments : List Node}
    (arity : SoundArity generator.dialect.aliases function arguments.length) :
    Part.node child ∈ generator.scalarParts function arguments ↔ child ∈ arguments := by
  rcases scalarParts_cases arity with ⟨name, same⟩ | ⟨operator, left, right, rfl, same⟩ |
    ⟨operator, operand, rfl, same⟩ | ⟨rfl, same⟩ <;> simp [same]

@[simp]
theorem node_mem_argumentParts {function : AggregateFunction} {distinct : Bool}
    {arguments : List Node} :
    Part.node child ∈ argumentParts function distinct arguments ↔ child ∈ arguments := by
  rcases arguments with _ | ⟨first, _ | ⟨second, rest⟩⟩ <;> cases function <;> cases distinct <;>
    simp [argumentParts]

@[simp]
theorem node_mem_listParts {list : SelectList} :
    Part.node child ∈ generator.listParts list ↔ child ∈ list.nodes := by
  rcases list with _ | _ | ⟨_ | ⟨first, rest⟩⟩ <;> simp [listParts, SelectList.nodes]

/-- Every item is sorted by at least one key, and each key is a key of its expression. -/
@[simp]
theorem node_mem_itemParts {item : SortItem} :
    Part.node child ∈ generator.itemParts item ↔ child = item.node := by
  obtain ⟨expression, ascending, nullsLast⟩ := item
  have keyed (placed : Option Bool) :
      ∃ key, key ∈ generator.dialect.sortForm.keys ascending placed := by
    unfold SortForm.keys
    split <;> simp
  simp [itemParts, SortItem.node, keyed]

@[simp]
theorem node_mem_itemsParts {items : List SortItem} :
    Part.node child ∈ generator.itemsParts items ↔ child ∈ items.map SortItem.node := by
  simp [itemsParts, eq_comm]

@[simp]
theorem node_mem_orderParts {opening closing : String} {order : Option (List SortItem)} :
    Part.node child ∈ generator.orderParts opening closing order ↔
      child ∈ (order.getD []).map SortItem.node := by
  cases order <;> simp [orderParts]

@[simp]
theorem node_mem_leadingParts {limit : Option RowLimit} :
    Part.node child ∉ generator.leadingParts limit := by
  unfold leadingParts
  split
  · split <;> simp
  · simp

@[simp]
theorem node_mem_trailingParts {limit : Option RowLimit} :
    Part.node child ∉ generator.trailingParts limit := by
  unfold trailingParts
  split <;> simp

/-- A node writes no other nodes than those below it, so laws about rows can use an induction
hypothesis for each node in the row. -/
theorem mem_children_of_node_mem_parts {node : Node} (member : .node child ∈ generator.parts node) :
    child ∈ node.children := by
  cases node with
  | scalar function arguments => exact mem_of_node_mem_scalarParts member
  | caseWhen basis conditions results =>
    have branched := @mem_of_node_mem_branches child conditions results
    simp only [parts, List.mem_cons, List.mem_append, node_mem_after, reduceCtorEq, false_or,
      List.not_mem_nil, or_false] at member
    simpa [Node.children] using member.imp_right branched
  | _ => simp_all [parts, Node.children]

/-- A sound node writes every node below it.  An unsound one may leave some of them out: an operator
with too many operands writes none. -/
theorem node_mem_parts {node : Node} (sound : generator.Sound node) :
    Part.node child ∈ generator.parts node ↔ child ∈ node.children := by
  cases node with
  | scalar function arguments => exact node_mem_scalarParts sound.2
  | caseWhen basis conditions results => simp [parts, Node.children, node_mem_branches sound.2]
  | _ => simp [parts, Node.children]

end Nodes

end Generator
end Pushdown
