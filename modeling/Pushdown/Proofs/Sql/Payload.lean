/-
Module: Pushdown.Proofs.Sql.Payload
Purpose: The texts that come with a tree, in order of writing, and a tree without its texts.
Main exports: Payload, Generator.payloads, Node.form, Node.wellFormed_form, Node.height_form
-/
import Pushdown.Proofs.Sql.WellFormed

namespace Pushdown

/-!
A tree carries names and texts that nobody checks.  `Generator.payloads` lists those that its
statement shows, from left to right, and `Node.form` is what remains of a tree without them: two
trees differ in their texts only if their forms are equal.  Whether the alias of a table is its
name belongs to the form, since such an alias is not written.
-/

/-- A text that came with a tree or a context. -/
inductive Payload where
  /-- The name of a column, a table, a catalog or a schema, or an alias. -/
  | name (text : String)
  /-- A constant, or a text of a list aggregate. -/
  | text (value : String)
deriving Repr, DecidableEq

/-- The marks that a reader finds around a payload in a statement for a dialect, and what the
text between them stands for.  A dialect that shows names in upper case asks for them in lower
case; any other name, and any text, stands for itself. -/
def Dialect.quote (dialect : Dialect) : Payload → Text.QuoteStyle × String
  | .name text =>
    (dialect.identifierQuotes,
      match dialect.identifierCase with
      | .preserve => text
      | .upper => Text.toLower text)
  | .text value => (dialect.stringQuotes, value)

/-- A name is written as the span of what it stands for. -/
theorem Dialect.identifier_eq_quote (dialect : Dialect) (name : String) :
    dialect.identifier name =
      .quoted (dialect.quote (.name name)).1 (dialect.quote (.name name)).2 := by
  cases presented : dialect.identifierCase <;>
    simp [Dialect.identifier, Dialect.quote, IdentifierCase.remoteForm, presented]

/-! ### The texts of a tree -/

/-- The text of a constant. -/
def Literal.payloads : Literal → List Payload
  | .text value | .date value | .timestamp value | .timestampUtc value => [.text value]
  | .interval value _ => [.text value]
  | _ => []

/-- The text that fills up a list that is too long. -/
def ListOverflow.payloads : ListOverflow → List Payload
  | .error => []
  | .truncate filler _ => filler.toList.map .text

/-- What belongs to conditions and results, by turns. -/
def alternately {α : Type} : List (List α) → List (List α) → List α
  | condition :: conditions, result :: results =>
    condition ++ result ++ alternately conditions results
  | [], [otherwise] => otherwise
  | _, _ => []

namespace Generator

/-- Whether an expression is written once more to place its nulls. -/
def sortsTwice (generator : Generator) (ascending nullsLast : Bool) : Bool :=
  generator.dialect.sortForm == .nullIndicator &&
    nullsLast != generator.nullOrder.lastByDefault ascending

mutual

/-- The payloads of a tree in order of writing. -/
def payloads (generator : Generator) : Node → List Payload
  | .select list source filter grouping having order _ =>
    generator.payloadsOfList list ++ generator.payloads source ++
      generator.payloadsOfOption filter ++ generator.payloadsOfGrouping grouping ++
      generator.payloadsOfOption having ++ generator.payloadsOfOrder order
  | .selectList list => generator.payloadsOfList list
  | .column column => column.qualifier.toList.map .name ++ [.name column.name]
  | .table table =>
    (generator.dialect.catalogQualifier generator.context).toList.map .name ++
      (generator.dialect.schemaQualifier generator.context).toList.map .name ++
      .name table.name :: table.effectiveAlias.toList.map .name
  | .join _ left right condition =>
    generator.payloads left ++ generator.payloads right ++ generator.payloads condition
  | .junction _ operands => (generator.payloadsEach operands).flatten
  | .not operand => generator.payloads operand
  | .comparison _ left right => generator.payloads left ++ generator.payloads right
  | .between expression lower upper =>
    generator.payloads expression ++ generator.payloads lower ++ generator.payloads upper
  | .like expression pattern escape =>
    generator.payloads expression ++ generator.payloads pattern ++
      generator.payloadsOfOption escape
  | .regexpLike expression pattern =>
    generator.payloads expression ++ generator.payloads pattern
  | .inList expression candidates =>
    generator.payloads expression ++ (generator.payloadsEach candidates).flatten
  | .isNull _ operand => generator.payloads operand
  | .isJson _ expression _ _ => generator.payloads expression
  | .scalar _ arguments => (generator.payloadsEach arguments).flatten
  | .cast expression _ => generator.payloads expression
  | .extract _ expression => generator.payloads expression
  | .caseWhen basis conditions results =>
    generator.payloadsOfOption basis ++
      alternately (generator.payloadsEach conditions) (generator.payloadsEach results)
  | .jsonValue arguments _ onEmpty onError =>
    (generator.payloadsEach arguments).flatten ++ generator.payloadsOfBehaviour onEmpty ++
      generator.payloadsOfBehaviour onError
  | .aggregate _ arguments _ => (generator.payloadsEach arguments).flatten
  | .listagg argument _ separator overflow order =>
    generator.payloads argument ++ separator.toList.map .text ++ overflow.payloads ++
      generator.payloadsOfOrder order
  | .groupConcat argument _ order separator =>
    generator.payloads argument ++ generator.payloadsOfOrder order ++
      separator.toList.map .text
  | .literal literal => literal.payloads
  | .orderBy items => (generator.payloadsOfItems items).flatten
  | .groupBy expressions => (generator.payloadsEach expressions).flatten
  | .limit _ => []

/-- The payloads of each of several trees. -/
def payloadsEach (generator : Generator) : List Node → List (List Payload)
  | [] => []
  | node :: rest => generator.payloads node :: generator.payloadsEach rest

/-- The payloads of a tree, if there is one. -/
def payloadsOfOption (generator : Generator) : Option Node → List Payload
  | none => []
  | some node => generator.payloads node

/-- The payloads of a select list. -/
def payloadsOfList (generator : Generator) : SelectList → List Payload
  | .anyValue => []
  | .star => []
  | .expressions parts => (generator.payloadsEach parts).flatten

/-- The payloads of expressions to group by. -/
def payloadsOfGrouping (generator : Generator) : Option (List Node) → List Payload
  | none => []
  | some expressions => (generator.payloadsEach expressions).flatten

/-- The payloads of sort items, if there are any. -/
def payloadsOfOrder (generator : Generator) : Option (List SortItem) → List Payload
  | none => []
  | some items => (generator.payloadsOfItems items).flatten

/-- The payloads of each sort item. -/
def payloadsOfItems (generator : Generator) : List SortItem → List (List Payload)
  | [] => []
  | item :: rest => generator.payloadsOfItem item :: generator.payloadsOfItems rest

/-- The payloads of a sort item, twice if the expression is written twice. -/
def payloadsOfItem (generator : Generator) : SortItem → List Payload
  | .item expression ascending nullsLast =>
    if generator.sortsTwice ascending nullsLast then
      generator.payloads expression ++ generator.payloads expression
    else generator.payloads expression

/-- The payloads of what is answered instead of a value. -/
def payloadsOfBehaviour (generator : Generator) : JsonBehaviour → List Payload
  | .null => []
  | .error => []
  | .default value => generator.payloads value

end

/-- The payloads of several nodes, node by node; the recursion spells this out to be structural. -/
theorem payloadsEach_eq_map (generator : Generator) (nodes : List Node) :
    generator.payloadsEach nodes = nodes.map generator.payloads := by
  induction nodes with
  | nil => rfl
  | cons node rest inductionHypothesis => simp [payloadsEach, inductionHypothesis]

theorem payloadsOfItems_eq_map (generator : Generator) (items : List SortItem) :
    generator.payloadsOfItems items = items.map generator.payloadsOfItem := by
  induction items with
  | nil => rfl
  | cons item rest inductionHypothesis => simp [payloadsOfItems, inductionHypothesis]

end Generator

/-! ### Trees without their texts -/

/-- No text, if there was one. -/
def erased (text : Option String) : Option String := text.map fun _ => ""

/-- A column without names. -/
def ColumnReference.form (column : ColumnReference) : ColumnReference :=
  ⟨"", erased column.table, erased column.tableAlias⟩

/-- A table without names.  An alias that is the name still is, and any other still is not. -/
def TableReference.form (table : TableReference) : TableReference :=
  ⟨"", table.tableAlias.map fun tableAlias => if tableAlias = table.name then "" else "alias"⟩

/-- A constant without its text. -/
def Literal.form : Literal → Literal
  | .text _ => .text ""
  | .date _ => .date ""
  | .timestamp _ => .timestamp ""
  | .timestampUtc _ => .timestampUtc ""
  | .interval _ type => .interval "" type
  | other => other

/-- What becomes of a list that is too long, without the text that fills it up. -/
def ListOverflow.form : ListOverflow → ListOverflow
  | .error => .error
  | .truncate filler withCount => .truncate (erased filler) withCount

mutual

/-- A tree without its texts. -/
def Node.form : Node → Node
  | .select list source filter grouping having order limit =>
    .select list.form source.form (formOfOption filter) (formOfGrouping grouping)
      (formOfOption having) (formOfOrder order) limit
  | .selectList list => .selectList list.form
  | .column column => .column column.form
  | .table table => .table table.form
  | .join type left right condition => .join type left.form right.form condition.form
  | .junction connective operands => .junction connective (formOfEach operands)
  | .not operand => .not operand.form
  | .comparison operator left right => .comparison operator left.form right.form
  | .between expression lower upper => .between expression.form lower.form upper.form
  | .like expression pattern escape =>
    .like expression.form pattern.form (formOfOption escape)
  | .regexpLike expression pattern => .regexpLike expression.form pattern.form
  | .inList expression candidates => .inList expression.form (formOfEach candidates)
  | .isNull negated operand => .isNull negated operand.form
  | .isJson negated expression shape keys => .isJson negated expression.form shape keys
  | .scalar function arguments => .scalar function (formOfEach arguments)
  | .cast expression type => .cast expression.form type
  | .extract field expression => .extract field expression.form
  | .caseWhen basis conditions results =>
    .caseWhen (formOfOption basis) (formOfEach conditions) (formOfEach results)
  | .jsonValue arguments returning onEmpty onError =>
    .jsonValue (formOfEach arguments) returning onEmpty.form onError.form
  | .aggregate function arguments distinct => .aggregate function (formOfEach arguments) distinct
  | .listagg argument distinct separator overflow order =>
    .listagg argument.form distinct (erased separator) overflow.form (formOfOrder order)
  | .groupConcat argument distinct order separator =>
    .groupConcat argument.form distinct (formOfOrder order) (erased separator)
  | .literal literal => .literal literal.form
  | .orderBy items => .orderBy (formOfItems items)
  | .groupBy expressions => .groupBy (formOfEach expressions)
  | .limit limit => .limit limit

/-- Several trees without their texts. -/
def formOfEach : List Node → List Node
  | [] => []
  | node :: rest => node.form :: formOfEach rest

/-- A tree without its texts, if there is one. -/
def formOfOption : Option Node → Option Node
  | none => none
  | some node => some node.form

/-- Expressions to group by, without their texts. -/
def formOfGrouping : Option (List Node) → Option (List Node)
  | none => none
  | some expressions => some (formOfEach expressions)

/-- Sort items without their texts, if there are any. -/
def formOfOrder : Option (List SortItem) → Option (List SortItem)
  | none => none
  | some items => some (formOfItems items)

/-- Several sort items without their texts. -/
def formOfItems : List SortItem → List SortItem
  | [] => []
  | item :: rest => item.form :: formOfItems rest

/-- A sort item without its texts. -/
def SortItem.form : SortItem → SortItem
  | .item expression ascending nullsLast => .item expression.form ascending nullsLast

/-- A select list without its texts. -/
def SelectList.form : SelectList → SelectList
  | .anyValue => .anyValue
  | .star => .star
  | .expressions parts => .expressions (formOfEach parts)

/-- What is answered instead of a value, without its texts. -/
def JsonBehaviour.form : JsonBehaviour → JsonBehaviour
  | .null => .null
  | .error => .error
  | .default value => .default value.form

end

/-- A context without names.  What the source reported about itself is kept. -/
def QueryContext.form (context : QueryContext) : QueryContext :=
  { context with catalog := erased context.catalog, schema := erased context.schema }

/-- The generator in the context without names. -/
def Generator.form (generator : Generator) : Generator :=
  { generator with context := generator.context.form }

@[simp]
theorem formOfEach_eq_map (nodes : List Node) : formOfEach nodes = nodes.map Node.form := by
  induction nodes with
  | nil => rfl
  | cons node rest inductionHypothesis => simp [formOfEach, inductionHypothesis]

@[simp]
theorem formOfItems_eq_map (items : List SortItem) :
    formOfItems items = items.map SortItem.form := by
  induction items with
  | nil => rfl
  | cons item rest inductionHypothesis => simp [formOfItems, inductionHypothesis]

@[simp]
theorem formOfOption_eq_map (option : Option Node) :
    formOfOption option = option.map Node.form := by
  cases option <;> rfl

@[simp]
theorem formOfGrouping_eq_map (grouping : Option (List Node)) :
    formOfGrouping grouping = grouping.map (·.map Node.form) := by
  cases grouping <;> simp [formOfGrouping]

@[simp]
theorem formOfOrder_eq_map (order : Option (List SortItem)) :
    formOfOrder order = order.map (·.map SortItem.form) := by
  cases order <;> simp [formOfOrder]

theorem SelectList.nodes_form (list : SelectList) : list.form.nodes = list.nodes.map Node.form := by
  cases list <;> simp [SelectList.form, SelectList.nodes]

theorem SortItem.node_form (item : SortItem) : item.form.node = item.node.form := by
  obtain ⟨expression, ascending, nullsLast⟩ := item
  simp [SortItem.form, SortItem.node]

theorem JsonBehaviour.nodes_form (behaviour : JsonBehaviour) :
    behaviour.form.nodes = behaviour.nodes.map Node.form := by
  cases behaviour <;> simp [JsonBehaviour.form, JsonBehaviour.nodes]

/-! ### A form has a form in SQL if its tree has -/

theorem nodes_of_formOfOption (option : Option Node) :
    (option.map Node.form).toList = option.toList.map Node.form := by
  cases option <;> rfl

theorem nodes_of_formOfGrouping (grouping : Option (List Node)) :
    (grouping.map (·.map Node.form)).getD [] = (grouping.getD []).map Node.form := by
  cases grouping <;> simp

theorem nodes_of_formOfOrder (order : Option (List SortItem)) :
    ((order.map (·.map SortItem.form)).getD []).map SortItem.node =
      ((order.getD []).map SortItem.node).map Node.form := by
  cases order <;> simp [SortItem.node_form]

/-- Taking texts away keeps the tree's shape: the nodes below a form are the forms of the nodes
below. -/
theorem Node.children_form (node : Node) : node.form.children = node.children.map Node.form := by
  cases node <;>
    simp [Node.form, Node.children, SelectList.nodes_form, JsonBehaviour.nodes_form,
      nodes_of_formOfOption, nodes_of_formOfGrouping, nodes_of_formOfOrder, SortItem.node_form]

/-- A form is as high as its tree, so a limit on nesting treats both alike.  Texts make up no
nodes. -/
theorem Node.height_form (node : Node) : node.form.height = node.height := by
  induction node using Node.inductionOnChildren with
  | step node each =>
    rw [Node.height_eq, Node.height_eq, Node.children_form, List.map_map]
    congr 2
    exact List.map_congr_left each

/-- Whether a literal can be written is a question to its kind, not to its text. -/
theorem Generator.soundLiteral_form (literal : Literal) :
    SoundLiteral literal.form ↔ SoundLiteral literal := by
  cases literal <;> exact Iff.rfl

/-- Whether a node can be written does not depend on the texts in it.  Soundness is about kinds and
numbers of operands. -/
theorem Generator.sound_form (generator : Generator) (node : Node) :
    generator.Sound node.form ↔ generator.Sound node := by
  cases node <;>
    simp [Node.form, Generator.Sound, Generator.soundLiteral_form]

/-- Whether a tree can be written is a question to its form: no text makes a tree acceptable or
spoils it. -/
theorem Generator.wellFormed_form (generator : Generator) (node : Node) :
    generator.WellFormed node.form ↔ generator.WellFormed node := by
  induction node using Node.inductionOnChildren with
  | step node each =>
    rw [Generator.wellFormed_iff, Generator.wellFormed_iff, Generator.sound_form,
      Node.children_form, List.forall_mem_map]
    exact and_congr_right' ⟨fun all child here => (each child here).1 (all child here),
      fun all child here => (each child here).2 (all child here)⟩

end Pushdown
