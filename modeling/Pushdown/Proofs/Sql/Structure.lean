/-
Module: Pushdown.Proofs.Sql.Structure
Purpose: No text that comes with a tree can change the structure of its statement.
Main exports: Lexeme.outline, Generator.written_form, Generator.written_payloads, Dialect.Shows,
  Generator.statement_structure
-/
import Pushdown.Proofs.Sql.Legible

namespace Pushdown

/-!
The outline of SQL is what its spans have besides their payloads.  It is a function of the form of
a tree, so two trees that differ in their texts alone are written with one outline, and the
payloads in it are those of each tree, in order.
-/

/-- A span without its payload. -/
def Span.outline : Span → Span
  | .code text => .code text
  | .quoted style _ => .quoted style ""

/-- The style and the payload of a quoted span. -/
def Span.payload? : Span → Option (Text.QuoteStyle × String)
  | .code _ => none
  | .quoted style payload => some (style, payload)

/-- A lexeme without its payload. -/
def Lexeme.outline : Lexeme → Lexeme
  | .plain c => .plain c
  | .quoted style _ => .quoted style ""

/-- The style and the payload of a quoted lexeme. -/
def Lexeme.payload? : Lexeme → Option (Text.QuoteStyle × String)
  | .plain _ => none
  | .quoted style payload => some (style, payload)

namespace Sql

/-- SQL without its payloads. -/
def outline (sql : Sql) : Sql := sql.map Span.outline

/-- The payloads of SQL in order, each with its style. -/
def payloads (sql : Sql) : List (Text.QuoteStyle × String) := sql.filterMap Span.payload?

/-- Taking the payloads out commutes with reading: it can be done on spans or on lexemes. -/
theorem lexemes_outline (sql : Sql) : sql.lexemes.map Lexeme.outline = sql.outline.lexemes := by
  simp only [lexemes, outline, List.map_flatMap, List.flatMap_map]
  congr 1
  funext span
  cases span <;> simp [Span.lexemes, Span.outline, Lexeme.outline]

/-- A reader of the lexemes finds the payloads of the spans.  Spans are how text is written, lexemes
how it is read. -/
theorem lexemes_payloads (sql : Sql) : sql.lexemes.filterMap Lexeme.payload? = sql.payloads := by
  induction sql with
  | nil => rfl
  | cons span rest inductionHypothesis =>
    change (span.lexemes ++ lexemes rest).filterMap _ = _
    rw [List.filterMap_append, inductionHypothesis]
    cases span with
    | code text =>
      have none : (text.toList.map Lexeme.plain).filterMap Lexeme.payload? = [] := by
        simp [Lexeme.payload?]
      rw [Span.lexemes, none]
      rfl
    | quoted style payload => rfl

@[simp]
theorem outline_nil : outline [] = [] := rfl

@[simp]
theorem outline_code (text : String) : (code text).outline = code text := rfl

@[simp]
theorem outline_append (left right : Sql) :
    (left ++ right).outline = left.outline ++ right.outline := List.map_append

@[simp]
theorem payloads_nil : payloads [] = [] := rfl

@[simp]
theorem payloads_code (text : String) : (code text).payloads = [] := rfl

@[simp]
theorem payloads_append (left right : Sql) :
    (left ++ right).payloads = left.payloads ++ right.payloads := List.filterMap_append

end Sql

/-! ### Parts without their texts -/

namespace Part

/-- A part without its own text, if it is a payload. -/
def blank : Part → Part
  | .word text => .word text
  | .payload (.name _) => .payload (.name "")
  | .payload (.text _) => .payload (.text "")
  | .node child => .node child

/-- A part without any texts: a payload is blank, and a node is its form. -/
def form : Part → Part
  | .node child => .node child.form
  | other => other.blank

@[simp]
theorem blank_word (text : String) : (word text).blank = .word text := rfl

@[simp]
theorem blank_node (child : Node) : (node child).blank = .node child := rfl

@[simp]
theorem form_word (text : String) : (word text).form = .word text := rfl

@[simp]
theorem form_node (child : Node) : (node child).form = .node child.form := rfl

@[simp]
theorem form_payload (payload : Payload) :
    (Part.payload payload).form = (Part.payload payload).blank := rfl

/-- A map that keeps words can be made before rows are put together. -/
theorem map_separated {change : Part → Part} (keeps : ∀ text, change (.word text) = .word text)
    (separator : String) (rows : List (List Part)) :
    (separated separator rows).map change = separated separator (rows.map (·.map change)) := by
  induction rows with
  | nil => rfl
  | cons row rest inductionHypothesis =>
    cases rest with
    | nil => rfl
    | cons next rest =>
      simp only [List.map_cons] at inductionHypothesis ⊢
      simp [separated, keeps, inductionHypothesis]

/-- With their payloads blank, the parts of a list of forms are the forms of the parts of the
list. -/
@[simp]
theorem blank_each (separator : String) (nodes : List Node) :
    (each separator (nodes.map Node.form)).map blank = (each separator nodes).map form := by
  simp [each, map_separated blank_word, map_separated form_word, Function.comp_def]

@[simp]
theorem blank_after (keyword : String) (option : Option Node) :
    (after keyword (option.map Node.form)).map blank = (after keyword option).map form := by
  cases option <;> rfl

@[simp]
theorem blank_groupingAfter (keyword : String) (grouping : Option (List Node)) :
    (groupingAfter keyword (grouping.map (·.map Node.form))).map blank =
      (groupingAfter keyword grouping).map form := by
  cases grouping <;> simp [groupingAfter]

@[simp]
theorem blank_textAfter (keyword : String) (option : Option String) :
    (textAfter keyword (erased option)).map blank = (textAfter keyword option).map form := by
  cases option <;> rfl

@[simp]
theorem blank_qualifier (option : Option String) :
    (qualifier (erased option)).map blank = (qualifier option).map form := by
  cases option <;> rfl

@[simp]
theorem blank_branches (conditions results : List Node) :
    (branches (conditions.map Node.form) (results.map Node.form)).map blank =
      (branches conditions results).map form := by
  induction conditions generalizing results with
  | nil =>
    match results with
    | [] => rfl
    | [otherwise] => rfl
    | _ :: _ :: _ => rfl
  | cons condition conditions inductionHypothesis =>
    cases results with
    | nil => rfl
    | cons result results => simp [branches, inductionHypothesis]

@[simp]
theorem blank_distinct (isDistinct : Bool) :
    (distinct isDistinct).map blank = (distinct isDistinct).map form := by
  cases isDistinct <;> rfl

@[simp]
theorem blank_behaviour (behaviour : JsonBehaviour) :
    (Part.behaviour behaviour.form).map blank = (Part.behaviour behaviour).map form := by
  cases behaviour <;> rfl

@[simp]
theorem blank_overflow (overflow : ListOverflow) :
    (Part.overflow overflow.form).map blank = (Part.overflow overflow).map form := by
  rcases overflow with _ | ⟨_ | filler, withCount⟩ <;> rfl

@[simp]
theorem blank_call (name : String) (arguments : List Node) :
    (call name (arguments.map Node.form)).map blank = (call name arguments).map form := by
  simp [call]

@[simp]
theorem blank_key (expression : Node) (key : SortKey) :
    (Part.key expression.form key).map blank = (Part.key expression key).map form := by
  obtain ⟨subject, descending, nullsLast⟩ := key
  rcases nullsLast with _ | _ | _ <;> cases subject <;> cases descending <;> rfl

end Part

namespace Generator

variable (generator : Generator)

@[simp]
theorem form_dialect : generator.form.dialect = generator.dialect := rfl

@[simp]
theorem form_context : generator.form.context = generator.context.form := rfl

/-- Whether a table is qualified with a catalog depends on the form of the context alone. -/
theorem catalogQualifier_form (dialect : Dialect) (context : QueryContext) :
    dialect.catalogQualifier context.form = erased (dialect.catalogQualifier context) := by
  unfold Dialect.catalogQualifier
  split <;> rfl

theorem schemaQualifier_form (dialect : Dialect) (context : QueryContext) :
    dialect.schemaQualifier context.form = erased (dialect.schemaQualifier context) := by
  unfold Dialect.schemaQualifier
  split <;> rfl

/-- A table is written with an alias if its form is.  This is why a form has to keep whether an
alias is the name of its table. -/
theorem effectiveAlias_form (table : TableReference) :
    erased table.form.effectiveAlias = erased table.effectiveAlias := by
  obtain ⟨name, tableAlias⟩ := table
  cases tableAlias with
  | none => rfl
  | some tableAlias =>
    by_cases same : tableAlias = name <;>
      simp [TableReference.form, TableReference.effectiveAlias, Option.filter, erased, same]

@[simp]
theorem blank_tableParts (table : TableReference) :
    (generator.form.tableParts table.form).map Part.blank =
      (generator.tableParts table).map Part.form := by
  have sameAlias := effectiveAlias_form table
  have aliased : ((table.form.effectiveAlias.elim [] fun tableAlias =>
        [Part.word " ", .payload (.name tableAlias)]).map Part.blank) =
      (table.effectiveAlias.elim [] fun tableAlias =>
        [Part.word " ", .payload (.name tableAlias)]).map Part.form := by
    cases given : table.effectiveAlias <;> cases kept : table.form.effectiveAlias <;>
      simp_all [erased, Part.blank]
  simp only [tableParts, List.map_append, List.map_cons, aliased, form_dialect, form_context,
    catalogQualifier_form, schemaQualifier_form, Part.blank_qualifier]
  rfl

theorem blank_temporalParts (keyword type value : String) :
    (generator.form.temporalParts keyword type "").map Part.blank =
      (generator.temporalParts keyword type value).map Part.form := by
  cases form : generator.dialect.temporalForm <;> simp [temporalParts, form, Part.blank]

/-- A literal is written in the same words whatever its text is. -/
@[simp]
theorem blank_literalParts (literal : Literal) :
    (generator.form.literalParts literal.form).map Part.blank =
      (generator.literalParts literal).map Part.form := by
  cases literal with
  | double value =>
    simp only [literalParts, Literal.form]
    split <;> rfl
  | date value => exact generator.blank_temporalParts _ _ value
  | timestamp value => exact generator.blank_temporalParts _ _ value
  | timestampUtc value => exact generator.blank_temporalParts _ _ value
  | interval value type => cases type <;> rfl
  | _ => rfl

/-- Which form a call has depends on the function and on the number of arguments. -/
@[simp]
theorem blank_scalarParts (function : ScalarFunction) (arguments : List Node) :
    (generator.form.scalarParts function (arguments.map Node.form)).map Part.blank =
      (generator.scalarParts function arguments).map Part.form := by
  unfold scalarParts
  rw [form_dialect, List.isEmpty_map]
  dsimp only
  split
  · exact Part.blank_call _ arguments
  · rcases arguments with _ | ⟨left, _ | ⟨right, _ | ⟨third, rest⟩⟩⟩ <;> rfl
  · rcases arguments with _ | ⟨operand, _ | ⟨second, rest⟩⟩ <;> rfl
  · split
    · rfl
    · exact Part.blank_call _ arguments

@[simp]
theorem blank_argumentParts (function : AggregateFunction) (distinct : Bool)
    (arguments : List Node) :
    (argumentParts function distinct (arguments.map Node.form)).map Part.blank =
      (argumentParts function distinct arguments).map Part.form := by
  have each := Part.blank_each ", " arguments
  rcases arguments with _ | ⟨first, _ | ⟨second, rest⟩⟩ <;> cases function <;> cases distinct <;>
    simp_all [argumentParts]

@[simp]
theorem blank_listParts (list : SelectList) :
    (generator.form.listParts list.form).map Part.blank =
      (generator.listParts list).map Part.form := by
  cases list with
  | anyValue => rfl
  | star => rfl
  | expressions nodes =>
    simp only [listParts, SelectList.form, formOfEach_eq_map, List.isEmpty_map]
    split
    · rfl
    · exact Part.blank_each ", " nodes

/-- The keys of a sort item depend on its order and on the conventions, not on its expression. -/
theorem blank_itemParts (item : SortItem) :
    (generator.form.itemParts item.form).map Part.blank =
      (generator.itemParts item).map Part.form := by
  obtain ⟨expression, ascending, nullsLast⟩ := item
  simp only [itemParts, SortItem.form, Part.map_separated Part.blank_word,
    Part.map_separated Part.form_word, List.map_map]
  congr 1
  exact List.map_congr_left fun key _ => Part.blank_key expression key

@[simp]
theorem blank_itemsParts (items : List SortItem) :
    (generator.form.itemsParts (items.map SortItem.form)).map Part.blank =
      (generator.itemsParts items).map Part.form := by
  simp only [itemsParts, Part.map_separated Part.blank_word, Part.map_separated Part.form_word,
    List.map_map]
  congr 1
  exact List.map_congr_left fun item _ => generator.blank_itemParts item

@[simp]
theorem blank_orderParts (opening closing : String) (order : Option (List SortItem)) :
    (generator.form.orderParts opening closing (order.map (·.map SortItem.form))).map Part.blank =
      (generator.orderParts opening closing order).map Part.form := by
  cases order <;> simp [orderParts]

@[simp]
theorem blank_leadingParts (limit : Option RowLimit) :
    (generator.form.leadingParts limit).map Part.blank =
      (generator.leadingParts limit).map Part.form := by
  unfold leadingParts
  rw [form_dialect]
  split
  · split <;> rfl
  · rfl

@[simp]
theorem blank_trailingParts (limit : Option RowLimit) :
    (generator.form.trailingParts limit).map Part.blank =
      (generator.trailingParts limit).map Part.form := by
  unfold trailingParts
  rw [form_dialect]
  split <;> rfl

/-- Without texts, a node has the parts of its form.  This is the one case analysis behind the
outline of statements. -/
theorem parts_form (node : Node) :
    (generator.form.parts node.form).map Part.blank = (generator.parts node).map Part.form := by
  cases node with
  | column column =>
    obtain ⟨name, table, tableAlias⟩ := column
    cases table <;> cases tableAlias <;> rfl
  | limit limit => rfl
  | _ => simp [parts, Node.form]

/-- The outline of a row does not depend on the texts of its payloads. -/
theorem outline_blank (row : List Part) :
    (generator.partsSql (row.map Part.blank)).outline = (generator.partsSql row).outline := by
  induction row with
  | nil => rfl
  | cons part rest inductionHypothesis =>
    rw [List.map_cons, partsSql_cons, partsSql_cons, Sql.outline_append, Sql.outline_append,
      inductionHypothesis]
    congr 1
    rcases part with text | ⟨name | value⟩ | child <;> rfl

/-- What is written for a tree has the outline of what is written for its form.  Since that form has
no texts, the outline is a function of the tree's structure alone. -/
theorem written_form (node : Node) :
    (generator.written node).outline = (generator.form.written node.form).outline := by
  induction node using Node.inductionOnChildren with
  | step node each =>
    have alike (row : List Part) (inRow : ∀ part ∈ row, part ∈ generator.parts node) :
        (generator.partsSql row).outline =
          (generator.form.partsSql (row.map Part.form)).outline := by
      induction row with
      | nil => rfl
      | cons part rest inductionHypothesis =>
        rw [List.forall_mem_cons] at inRow
        rw [List.map_cons, partsSql_cons, partsSql_cons, Sql.outline_append, Sql.outline_append,
          inductionHypothesis inRow.2]
        congr 1
        rcases part with text | ⟨name | value⟩ | child
        · rfl
        · rfl
        · rfl
        · exact each child (mem_children_of_node_mem_parts inRow.1)
    rw [written_eq_parts, alike _ fun _ => id, ← parts_form, outline_blank, ← written_eq_parts]

/-! ### Payloads -/

/-- The payloads of a part. -/
def partPayloads : Part → List Payload
  | .word _ => []
  | .payload payload => [payload]
  | .node child => generator.payloads child

/-- The payloads of parts in a row. -/
def rowPayloads (row : List Part) : List Payload := row.flatMap generator.partPayloads

@[simp]
theorem rowPayloads_nil : generator.rowPayloads [] = [] := rfl

@[simp]
theorem rowPayloads_word (text : String) (rest : List Part) :
    generator.rowPayloads (.word text :: rest) = generator.rowPayloads rest := rfl

@[simp]
theorem rowPayloads_payload (payload : Payload) (rest : List Part) :
    generator.rowPayloads (.payload payload :: rest) = payload :: generator.rowPayloads rest := rfl

@[simp]
theorem rowPayloads_node (child : Node) (rest : List Part) :
    generator.rowPayloads (.node child :: rest) =
      generator.payloads child ++ generator.rowPayloads rest := rfl

@[simp]
theorem rowPayloads_append (left right : List Part) :
    generator.rowPayloads (left ++ right) =
      generator.rowPayloads left ++ generator.rowPayloads right :=
  List.flatMap_append

@[simp]
theorem rowPayloads_separated (separator : String) (rows : List (List Part)) :
    generator.rowPayloads (Part.separated separator rows) =
      (rows.map generator.rowPayloads).flatten := by
  induction rows with
  | nil => rfl
  | cons row rest inductionHypothesis =>
    cases rest with
    | nil => simp [Part.separated]
    | cons next rest =>
      rw [Part.separated, rowPayloads_append, rowPayloads_word, inductionHypothesis]
      · simp
      · exact List.cons_ne_nil _ _

@[simp]
theorem rowPayloads_each (separator : String) (nodes : List Node) :
    generator.rowPayloads (Part.each separator nodes) =
      (generator.payloadsEach nodes).flatten := by
  simp [Part.each, payloadsEach_eq_map, Function.comp_def]

@[simp]
theorem rowPayloads_after (keyword : String) (option : Option Node) :
    generator.rowPayloads (Part.after keyword option) = generator.payloadsOfOption option := by
  cases option <;> simp [Part.after, payloadsOfOption]

@[simp]
theorem rowPayloads_groupingAfter (keyword : String) (grouping : Option (List Node)) :
    generator.rowPayloads (Part.groupingAfter keyword grouping) =
      generator.payloadsOfGrouping grouping := by
  cases grouping <;> simp [Part.groupingAfter, payloadsOfGrouping]

@[simp]
theorem rowPayloads_textAfter (keyword : String) (option : Option String) :
    generator.rowPayloads (Part.textAfter keyword option) = option.toList.map .text := by
  cases option <;> rfl

@[simp]
theorem rowPayloads_qualifier (option : Option String) :
    generator.rowPayloads (Part.qualifier option) = option.toList.map .name := by
  cases option <;> rfl

/-- Conditions and results are written by turns, and so are their payloads. -/
@[simp]
theorem rowPayloads_branches (conditions results : List Node) :
    generator.rowPayloads (Part.branches conditions results) =
      alternately (generator.payloadsEach conditions) (generator.payloadsEach results) := by
  induction conditions generalizing results with
  | nil =>
    match results with
    | [] => rfl
    | [otherwise] => simp [Part.branches, payloadsEach, alternately]
    | _ :: _ :: _ => rfl
  | cons condition conditions inductionHypothesis =>
    cases results with
    | nil => rfl
    | cons result results => simp [Part.branches, payloadsEach, alternately, inductionHypothesis]

@[simp]
theorem rowPayloads_distinct (distinct : Bool) :
    generator.rowPayloads (Part.distinct distinct) = [] := by
  cases distinct <;> rfl

@[simp]
theorem rowPayloads_behaviour (behaviour : JsonBehaviour) :
    generator.rowPayloads (Part.behaviour behaviour) = generator.payloadsOfBehaviour behaviour := by
  cases behaviour <;> simp [Part.behaviour, payloadsOfBehaviour]

@[simp]
theorem rowPayloads_overflow (overflow : ListOverflow) :
    generator.rowPayloads (Part.overflow overflow) = overflow.payloads := by
  cases overflow <;> simp [Part.overflow, ListOverflow.payloads]

@[simp]
theorem rowPayloads_call (name : String) (arguments : List Node) :
    generator.rowPayloads (Part.call name arguments) =
      (generator.payloadsEach arguments).flatten := by
  simp [Part.call]

@[simp]
theorem rowPayloads_key (expression : Node) (key : SortKey) :
    generator.rowPayloads (Part.key expression key) = generator.payloads expression := by
  obtain ⟨subject, descending, nullsLast⟩ := key
  rcases nullsLast with _ | _ | _ <;> cases subject <;> cases descending <;> simp [Part.key]

@[simp]
theorem rowPayloads_argumentParts (function : AggregateFunction) (distinct : Bool)
    (arguments : List Node) :
    generator.rowPayloads (argumentParts function distinct arguments) =
      (generator.payloadsEach arguments).flatten := by
  rcases arguments with _ | ⟨first, _ | ⟨second, rest⟩⟩ <;> cases function <;> cases distinct <;>
    simp [argumentParts, payloadsEach]

@[simp]
theorem rowPayloads_listParts (list : SelectList) :
    generator.rowPayloads (generator.listParts list) = generator.payloadsOfList list := by
  rcases list with _ | _ | ⟨_ | ⟨first, rest⟩⟩ <;> simp [listParts, payloadsOfList, payloadsEach]

/-- Where nulls are placed by a key of their own, the expression is in two keys. -/
@[simp]
theorem rowPayloads_itemParts (item : SortItem) :
    generator.rowPayloads (generator.itemParts item) = generator.payloadsOfItem item := by
  obtain ⟨expression, ascending, nullsLast⟩ := item
  by_cases placed : nullsLast = generator.nullOrder.lastByDefault ascending <;>
    cases form : generator.dialect.sortForm <;>
      simp [itemParts, payloadsOfItem, sortsTwice, SortForm.keys, placed, form]

@[simp]
theorem rowPayloads_itemsParts (items : List SortItem) :
    generator.rowPayloads (generator.itemsParts items) =
      (generator.payloadsOfItems items).flatten := by
  simp [itemsParts, payloadsOfItems_eq_map, Function.comp_def]

@[simp]
theorem rowPayloads_orderParts (opening closing : String) (order : Option (List SortItem)) :
    generator.rowPayloads (generator.orderParts opening closing order) =
      generator.payloadsOfOrder order := by
  cases order <;> simp [orderParts, payloadsOfOrder]

@[simp]
theorem rowPayloads_leadingParts (limit : Option RowLimit) :
    generator.rowPayloads (generator.leadingParts limit) = [] := by
  unfold leadingParts
  split
  · split <;> rfl
  · rfl

@[simp]
theorem rowPayloads_trailingParts (limit : Option RowLimit) :
    generator.rowPayloads (generator.trailingParts limit) = [] := by
  unfold trailingParts
  split <;> rfl

@[simp]
theorem rowPayloads_temporalParts (keyword type value : String) :
    generator.rowPayloads (generator.temporalParts keyword type value) = [.text value] := by
  cases form : generator.dialect.temporalForm <;> simp [temporalParts, form]

/-- A sound literal shows its text and nothing else; of an unsound interval nothing would be
written. -/
theorem rowPayloads_literalParts {literal : Literal} (sound : SoundLiteral literal) :
    generator.rowPayloads (generator.literalParts literal) = literal.payloads := by
  cases literal with
  | double value =>
    simp only [literalParts]
    split <;> rfl
  | interval value type =>
    obtain ⟨kind, precision, fraction, rfl⟩ := sound
    rfl
  | _ => simp [literalParts, Literal.payloads]

variable {generator} in
/-- A call shows the payloads of its arguments if it takes as many as it is given. -/
theorem rowPayloads_scalarParts {function : ScalarFunction} {arguments : List Node}
    (arity : SoundArity generator.dialect.aliases function arguments.length) :
    generator.rowPayloads (generator.scalarParts function arguments) =
      (generator.payloadsEach arguments).flatten := by
  rcases scalarParts_cases arity with ⟨name, same⟩ | ⟨operator, left, right, rfl, same⟩ |
    ⟨operator, operand, rfl, same⟩ | ⟨rfl, same⟩ <;> simp [same, payloadsEach]

variable {generator} in
/-- The payloads of a sound node are those of its parts, so that they can be compared with the spans
of its SQL row by row. -/
theorem payloads_eq_parts {node : Node} (sound : generator.Sound node) :
    generator.payloads node = generator.rowPayloads (generator.parts node) := by
  cases node with
  | literal literal => exact (generator.rowPayloads_literalParts sound).symm
  | scalar function arguments => exact (rowPayloads_scalarParts sound.2).symm
  | table table =>
    cases given : table.effectiveAlias <;> simp [payloads, parts, tableParts, given]
  | _ => simp [payloads, parts]

/-- What is written for a well-formed tree shows its payloads, each of them quoted, in order and as
often as it occurs. -/
theorem written_payloads (node : Node) (wellFormed : generator.WellFormed node) :
    (generator.written node).payloads =
      (generator.payloads node).map generator.dialect.quote := by
  induction node using Node.inductionOnChildren with
  | step node each =>
    obtain ⟨sound, childrenFormed⟩ := (generator.wellFormed_iff node).1 wellFormed
    have shown (row : List Part) (inRow : ∀ part ∈ row, part ∈ generator.parts node) :
        (generator.partsSql row).payloads =
          (generator.rowPayloads row).map generator.dialect.quote := by
      induction row with
      | nil => rfl
      | cons part rest inductionHypothesis =>
        rw [List.forall_mem_cons] at inRow
        rw [partsSql_cons, Sql.payloads_append, inductionHypothesis inRow.2]
        cases part with
        | word text => rfl
        | payload payload => rfl
        | node child =>
          have below := mem_children_of_node_mem_parts inRow.1
          simp [each child below (childrenFormed child below)]
    rw [written_eq_parts, payloads_eq_parts sound, shown _ fun _ => id]

end Generator

/-! ### Statements -/

/-- Two contexts of one form give generators of one form: they have the same conventions. -/
theorem Dialect.generator_form (dialect : Dialect) {context other : QueryContext}
    (sameForm : other.form = context.form) (limit : Nat) :
    (dialect.generator other limit).form = (dialect.generator context limit).form := by
  have conventions : other.form.conventions = context.form.conventions := by rw [sameForm]
  change other.conventions = context.conventions at conventions
  simp only [Dialect.generator, Generator.form, Dialect.nullOrder, sameForm, conventions]

/-- Whether a reader who knows the quotes of a dialect gets to the end of a text outside of any
quoted text, finds given payloads in the quoted texts and is left with a given outline. -/
def Dialect.Shows (dialect : Dialect) (text : String) (payloads : List Payload)
    (outline : List Lexeme) : Prop :=
  ∃ lexemes, scan dialect.quoting text.toList = some lexemes ∧
    lexemes.filterMap Lexeme.payload? = payloads.map dialect.quote ∧
    lexemes.map Lexeme.outline = outline

/-- A reader gets through the text of a well-formed tree and finds its payloads and the outline of
its form. -/
theorem Generator.shows_written {generator : Generator} (readable : generator.dialect.Readable)
    {node : Node} (wellFormed : generator.WellFormed node) :
    generator.dialect.Shows (generator.written node).toText (generator.payloads node)
      (generator.form.written node.form).outline.lexemes := by
  refine ⟨(generator.written node).lexemes, generator.scan_written readable node, ?_, ?_⟩
  · rw [Sql.lexemes_payloads, generator.written_payloads node wellFormed]
  · rw [Sql.lexemes_outline, generator.written_form node]

/-- Trees and contexts that differ in texts alone are rendered alike: where one has a statement,
the other has one of the same outline, each with its own payloads. -/
theorem Generator.shows_alike {dialect : Dialect} (readable : dialect.Readable)
    {context otherContext : QueryContext} {limit : Nat} {node other : Node} {sql : Sql}
    (sameContext : otherContext.form = context.form) (sameForm : other.form = node.form)
    (rendered : (dialect.generator context limit).statement node = .ok sql) :
    ∃ otherSql, (dialect.generator otherContext limit).statement other = .ok otherSql ∧
      dialect.Shows otherSql.toText ((dialect.generator otherContext limit).payloads other)
        ((dialect.generator context limit).form.written node.form).outline.lexemes := by
  obtain ⟨wellFormed, fits, rfl⟩ := (statement_eq_ok_iff _ _ _).1 rendered
  -- Being well formed and high enough for no guard are questions to the form alone.
  have otherFormed : (dialect.generator otherContext limit).WellFormed other := by
    have formFormed := (wellFormed_form _ node).2 wellFormed
    rw [← sameForm] at formFormed
    exact (wellFormed_form _ other).1 formFormed
  have otherFits : other.height ≤ limit := by
    rw [← Node.height_form, sameForm, Node.height_form]
    exact fits
  refine ⟨_, (statement_eq_ok_iff _ _ _).2 ⟨otherFormed, otherFits, rfl⟩, ?_⟩
  have shown := @shows_written (dialect.generator otherContext limit) readable other otherFormed
  rw [dialect.generator_form sameContext, sameForm] at shown
  exact shown

/-- No text that comes with a tree or a context can change the structure of a statement.  The
statement is read to its end, its quoted texts are the payloads of the tree, and a tree and a
context that differ in texts alone have a statement as well, with the same outline and with
their own payloads. -/
theorem Generator.statement_structure {dialect : Dialect} (builtin : dialect.IsBuiltin)
    (context : QueryContext) :
    ∃ generator, ofDialect dialect context = .ok generator ∧
      ∀ (limit : Nat) (node : Node) (sql : Sql),
        (generator.within limit).statement node = .ok sql →
        ∃ outline,
          dialect.Shows sql.toText ((generator.within limit).payloads node) outline ∧
          ∀ (otherContext : QueryContext) (other : Node), otherContext.form = context.form →
            other.form = node.form →
            ∃ otherGenerator otherSql, ofDialect dialect otherContext = .ok otherGenerator ∧
              (otherGenerator.within limit).statement other = .ok otherSql ∧
              dialect.Shows otherSql.toText ((otherGenerator.within limit).payloads other)
                outline := by
  refine ⟨_, ofDialect_builtin builtin context, fun limit node sql rendered => ?_⟩
  change (dialect.generator context limit).statement node = .ok sql at rendered
  obtain ⟨ownSql, ownRendered, ownShown⟩ := shows_alike builtin.readable rfl rfl rendered
  obtain rfl : ownSql = sql := by
    rw [rendered] at ownRendered
    exact (Except.ok.inj ownRendered).symm
  refine ⟨_, ownShown, fun otherContext other sameContext sameForm => ?_⟩
  obtain ⟨otherSql, otherRendered, otherShown⟩ :=
    shows_alike builtin.readable sameContext sameForm rendered
  exact ⟨_, otherSql, ofDialect_builtin builtin otherContext, otherRendered, otherShown⟩

/-- A comparison of a column with a text. -/
def comparisonOf (name text : String) : Node :=
  .comparison .equal (.column ⟨name, none, none⟩) (.literal (.text text))

/-- A name and a text made to break out of their quotes, and others that look like comments.  In
backticks the backslash of a text is an escape; in PostgreSQL the names are those in lower case. -/
theorem Generator.statement_structure_hostile :
    (∃ generator outline, ofDialect .mysql {} = .ok generator ∧
      Dialect.mysql.Shows "\x60A\x60\x60\"b\x60 = \x27\\\\\x27\x27 OR 1=1\x27"
        [.name "A\x60\"b", .text "\\\x27 OR 1=1"] outline ∧
      ∃ otherSql, (generator.within 2).statement (comparisonOf "--" "/*") = .ok otherSql ∧
        Dialect.mysql.Shows otherSql.toText [.name "--", .text "/*"] outline) ∧
    ∃ generator outline, ofDialect (.postgresql .upper) {} = .ok generator ∧
      (Dialect.postgresql .upper).Shows "\"a\x60\"\"b\" = \x27\\\x27\x27 OR 1=1\x27"
        [.name "A\x60\"b", .text "\\\x27 OR 1=1"] outline ∧
      ∃ otherSql, (generator.within 2).statement (comparisonOf "--" "/*") = .ok otherSql ∧
        (Dialect.postgresql .upper).Shows otherSql.toText [.name "--", .text "/*"] outline := by
  constructor
  · have builtin : Dialect.mysql.IsBuiltin := ⟨"MySQL", .empty, rfl⟩
    obtain ⟨generator, created, structured⟩ := statement_structure builtin {}
    obtain rfl := Except.ok.inj created
    obtain ⟨outline, shown, alike⟩ :=
      structured 2 (comparisonOf "A\x60\"b" "\\\x27 OR 1=1") _ rfl
    obtain ⟨other, otherSql, otherCreated, rendered, otherShown⟩ :=
      alike {} (comparisonOf "--" "/*") rfl rfl
    obtain rfl := Except.ok.inj otherCreated
    have text : ((Dialect.mysql.generator {} 2).written
        (comparisonOf "A\x60\"b" "\\\x27 OR 1=1")).toText =
          "\x60A\x60\x60\"b\x60 = \x27\\\\\x27\x27 OR 1=1\x27" := by decide +kernel
    exact ⟨_, outline, created, text ▸ shown, otherSql, rendered, otherShown⟩
  · have builtin : (Dialect.postgresql .upper).IsBuiltin := ⟨"POSTGRESQL", .empty, rfl⟩
    obtain ⟨generator, created, structured⟩ := statement_structure builtin {}
    obtain rfl := Except.ok.inj created
    obtain ⟨outline, shown, alike⟩ :=
      structured 2 (comparisonOf "A\x60\"b" "\\\x27 OR 1=1") _ rfl
    obtain ⟨other, otherSql, otherCreated, rendered, otherShown⟩ :=
      alike {} (comparisonOf "--" "/*") rfl rfl
    obtain rfl := Except.ok.inj otherCreated
    have text : (((Dialect.postgresql .upper).generator {} 2).written
        (comparisonOf "A\x60\"b" "\\\x27 OR 1=1")).toText =
          "\"a\x60\"\"b\" = \x27\\\x27\x27 OR 1=1\x27" := by decide +kernel
    exact ⟨_, outline, created, text ▸ shown, otherSql, rendered, otherShown⟩

end Pushdown
