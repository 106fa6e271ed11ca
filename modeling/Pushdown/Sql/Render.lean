/-
Module: Pushdown.Sql.Render
Purpose: Rendering of trees as SQL under a guard against deep nesting.
Main exports: Rendering, Rendering.nested, Rendering.inOrder, Rendering.oneOrMore,
  Rendering.alternating, Generator.render, Generator.statement, Generator.statements
-/
import Pushdown.Sql.Generator
import Pushdown.Sql.Span

namespace Pushdown

/-! ## Renderings

The level of nesting belongs to the generator and outlives a rendering, also one that fails.  So
a rendering is a function of the level that answers with the level it leaves behind.
-/

/-- A computation that fails or answers, and leaves a level of nesting behind either way. -/
abbrev Rendering := EStateM GenerationError Nat

namespace Rendering

/-- A rendering one level deeper, as far as the limit allows.  The level is taken back at the
end, whatever the end is. -/
def nested (limit : Nat) (body : Rendering Sql) : Rendering Sql := fun level =>
  if limit ≤ level then .error (.maxRecursion limit) level
  else
    match body (level + 1) with
    | .ok sql after => .ok sql (after - 1)
    | .error error after => .error error (after - 1)

/-- A rendering without parts, whose end is settled already. -/
def settled : Except GenerationError Sql → Rendering Sql
  | .ok sql => pure sql
  | .error error => throw error

/-- The answers of several renderings, made in order. -/
def inOrder : List (Rendering Sql) → Rendering (List Sql)
  | [] => pure []
  | first :: rest => do
    let part ← first
    let parts ← inOrder rest
    pure (part :: parts)

/-- The answers of one or more renderings with a separator between them; without any there is a
problem. -/
def oneOrMore (problem : NodeProblem) (separator : String) (parts : List (Rendering Sql)) :
    Rendering Sql :=
  if parts.isEmpty then throw (.invalidNode problem)
  else do
    let parts ← inOrder parts
    pure (Sql.separated separator parts)

/-- Conditions and results by turns, with the keyword of each before it.  A result without a
condition is the last one and stands for all other cases. -/
def alternating : List (Rendering Sql) → List (Rendering Sql) → Rendering Sql
  | condition :: conditions, result :: results => do
    let condition ← condition
    let result ← result
    let rest ← alternating conditions results
    pure (Sql.code " WHEN " ++ condition ++ Sql.code " THEN " ++ result ++ rest)
  | [], [otherwise] => do
    let otherwise ← otherwise
    pure (Sql.code " ELSE " ++ otherwise)
  | _, _ => pure []

end Rendering

/-! ## Rendering of trees -/

namespace Generator

open Rendering

/-!
Each node is rendered from its parts, one level below it.  Parentheses are put generously and
never taken away again.  The parts are rendered in the order in which they are written, so that
of several problems the leftmost is the answer; only the shape of a node itself is looked at
first.
-/

mutual

/-- A node. -/
def render (generator : Generator) : Node → Rendering Sql
  | .select list source filter grouping having order limit =>
    nested generator.depthLimit do
      let leading ← settled (generator.leadingLimit limit)
      let columns ← generator.renderSelectList list
      let source ← generator.render source
      let filter ← generator.renderAfter " WHERE " filter
      let grouping ← generator.renderGroupingAfter " GROUP BY " grouping
      let having ← generator.renderAfter " HAVING " having
      let order ← generator.renderOrderBetween " ORDER BY " "" order
      pure (Sql.code "SELECT " ++ leading ++ columns ++ Sql.code " FROM " ++ source ++ filter ++
        grouping ++ having ++ order ++ generator.trailingLimit limit)
  | .selectList list => nested generator.depthLimit (generator.renderSelectList list)
  | .column column => nested generator.depthLimit (pure (generator.column column))
  | .table table => nested generator.depthLimit (pure (generator.table table))
  | .join type left right condition =>
    nested generator.depthLimit do
      let left ← generator.render left
      let right ← generator.render right
      let condition ← generator.render condition
      pure (left ++ Sql.code (" " ++ type.words ++ " JOIN ") ++ right ++ Sql.code " ON " ++
        condition)
  | .junction connective operands =>
    nested generator.depthLimit do
      let operands ← oneOrMore (.emptyJunction connective) (" " ++ connective.keyword ++ " ")
        (generator.renderEach operands)
      pure (Sql.code "(" ++ operands ++ Sql.code ")")
  | .not operand =>
    nested generator.depthLimit do
      let operand ← generator.render operand
      pure (Sql.code "NOT (" ++ operand ++ Sql.code ")")
  | .comparison operator left right =>
    nested generator.depthLimit do
      let left ← generator.render left
      let right ← generator.render right
      pure (left ++ Sql.code (" " ++ operator.symbol ++ " ") ++ right)
  | .between expression lower upper =>
    nested generator.depthLimit do
      let expression ← generator.render expression
      let lower ← generator.render lower
      let upper ← generator.render upper
      pure (expression ++ Sql.code " BETWEEN " ++ lower ++ Sql.code " AND " ++ upper)
  | .like expression pattern escape =>
    nested generator.depthLimit do
      let expression ← generator.render expression
      let pattern ← generator.render pattern
      let escape ← generator.renderAfter " ESCAPE " escape
      pure (expression ++ Sql.code " LIKE " ++ pattern ++ escape)
  | .regexpLike expression pattern =>
    nested generator.depthLimit do
      let expression ← generator.render expression
      let pattern ← generator.render pattern
      pure (expression ++ Sql.code " REGEXP_LIKE " ++ pattern)
  | .inList expression candidates =>
    nested generator.depthLimit
      (if candidates.isEmpty then throw (.invalidNode .emptyInList)
      else do
        let expression ← generator.render expression
        let candidates ← inOrder (generator.renderEach candidates)
        pure (expression ++ Sql.code " IN (" ++ Sql.commaSeparated candidates ++ Sql.code ")"))
  | .isNull negated operand =>
    nested generator.depthLimit do
      let operand ← generator.render operand
      pure (operand ++ Sql.code (if negated then " IS NOT NULL" else " IS NULL"))
  | .isJson negated expression shape keys =>
    nested generator.depthLimit do
      let expression ← generator.render expression
      pure (expression ++ Sql.code ((if negated then " IS NOT JSON " else " IS JSON ") ++
        shape.name ++ " " ++ keys.words))
  | .scalar function arguments =>
    nested generator.depthLimit
      (if function.isSimple then do
        let arguments ← inOrder (generator.renderEach arguments)
        settled (generator.scalarCall function arguments)
      else throw (.invalidNode (.hasOwnNode function.name)))
  | .cast expression type =>
    nested generator.depthLimit do
      let expression ← generator.render expression
      let type ← settled (conversionType type)
      pure (Sql.code "CAST(" ++ expression ++ Sql.code " AS " ++ type ++ Sql.code ")")
  | .extract field expression =>
    nested generator.depthLimit do
      let expression ← generator.render expression
      pure (Sql.code ("EXTRACT(" ++ field.name ++ " FROM ") ++ expression ++ Sql.code ")")
  | .caseWhen basis conditions results =>
    nested generator.depthLimit
      (if results.length < conditions.length || conditions.length + 1 < results.length then
        throw (.invalidNode (.caseResults conditions.length results.length))
      else if conditions.isEmpty then throw (.invalidNode .caseWithoutBranches)
      else do
        let basis ← generator.renderAfter " " basis
        let branches ←
          alternating (generator.renderEach conditions) (generator.renderEach results)
        pure (Sql.code "CASE" ++ basis ++ branches ++ Sql.code " END"))
  | .jsonValue arguments returning onEmpty onError =>
    nested generator.depthLimit
      (match generator.renderEach arguments with
      | [document, path] => do
        let document ← document
        let path ← path
        let returning ← settled (conversionType returning)
        let onEmpty ← generator.renderBehaviour onEmpty
        let onError ← generator.renderBehaviour onError
        pure (Sql.code "JSON_VALUE(" ++ document ++ Sql.code ", " ++ path ++
          Sql.code " RETURNING " ++ returning ++ Sql.code " " ++ onEmpty ++
          Sql.code " ON EMPTY " ++ onError ++ Sql.code " ON ERROR)")
      | parts => throw (.functionArity ScalarFunction.jsonValue.name 2 parts.length))
  | .aggregate function arguments distinct =>
    nested generator.depthLimit
      (if function.isSimple then do
        let arguments ← inOrder (generator.renderEach arguments)
        pure (generator.aggregateCall function distinct arguments)
      else throw (.invalidNode (.hasOwnNode function.name)))
  | .listagg argument distinct separator overflow order =>
    nested generator.depthLimit do
      let argument ← generator.render argument
      let order ← generator.renderOrderBetween " WITHIN GROUP (ORDER BY " ")" order
      pure (Sql.code "LISTAGG(" ++ distinctWord distinct ++ argument ++
        generator.separator ", " separator ++ Sql.code " ON OVERFLOW " ++
        generator.overflow overflow ++ Sql.code ")" ++ order)
  | .groupConcat argument distinct order separator =>
    nested generator.depthLimit do
      let argument ← generator.render argument
      let order ← generator.renderOrderBetween " ORDER BY " "" order
      pure (Sql.code "GROUP_CONCAT(" ++ distinctWord distinct ++ argument ++ order ++
        generator.separator " SEPARATOR " separator ++ Sql.code ")")
  | .literal literal => nested generator.depthLimit (settled (generator.literal literal))
  | .orderBy items =>
    nested generator.depthLimit do
      let keys ← oneOrMore .emptyOrderBy ", " (generator.renderSortItems items)
      pure (Sql.code "ORDER BY " ++ keys)
  | .groupBy expressions =>
    nested generator.depthLimit
      (oneOrMore .emptyGroupBy ", " (generator.renderEach expressions))
  | .limit limit =>
    nested generator.depthLimit (pure (Sql.code (generator.dialect.limitForm.clause limit)))

/-- The renderings of several nodes, not yet made. -/
def renderEach (generator : Generator) : List Node → List (Rendering Sql)
  | [] => []
  | node :: rest => generator.render node :: generator.renderEach rest

/-- A keyword and a node, if there is one. -/
def renderAfter (generator : Generator) (keyword : String) : Option Node → Rendering Sql
  | none => pure []
  | some node => do
    let sql ← generator.render node
    pure (Sql.code keyword ++ sql)

/-- A select list.  An empty list of expressions selects whatever tells that rows exist. -/
def renderSelectList (generator : Generator) : SelectList → Rendering Sql
  | .anyValue => pure (Sql.code generator.dialect.anyValueToken)
  | .star => pure (Sql.code "*")
  | .expressions expressions =>
    if expressions.isEmpty then pure (Sql.code generator.dialect.anyValueToken)
    else do
      let expressions ← inOrder (generator.renderEach expressions)
      pure (Sql.commaSeparated expressions)

/-- A keyword and expressions to group by, if that is asked. -/
def renderGroupingAfter (generator : Generator) (keyword : String) :
    Option (List Node) → Rendering Sql
  | none => pure []
  | some expressions => do
    let expressions ← oneOrMore .emptyGroupBy ", " (generator.renderEach expressions)
    pure (Sql.code keyword ++ expressions)

/-- Sort items between two texts, if there are any. -/
def renderOrderBetween (generator : Generator) (opening closing : String) :
    Option (List SortItem) → Rendering Sql
  | none => pure []
  | some items => do
    let keys ← oneOrMore .emptyOrderBy ", " (generator.renderSortItems items)
    pure (Sql.code opening ++ keys ++ Sql.code closing)

/-- The keys of each sort item, not yet rendered. -/
def renderSortItems (generator : Generator) : List SortItem → List (Rendering Sql)
  | [] => []
  | item :: rest => generator.renderSortItem item :: generator.renderSortItems rest

/-- The keys of a sort item. -/
def renderSortItem (generator : Generator) : SortItem → Rendering Sql
  | .item expression ascending nullsLast => do
    let expression ← generator.render expression
    pure (generator.sortKeys expression ascending nullsLast)

/-- What is answered instead of a value. -/
def renderBehaviour (generator : Generator) : JsonBehaviour → Rendering Sql
  | .null => pure (Sql.code "NULL")
  | .error => pure (Sql.code "ERROR")
  | .default value => do
    let value ← generator.render value
    pure (Sql.code "DEFAULT " ++ value)

end

/-- What a rendering answers, and the level it leaves behind. -/
def renderFrom (generator : Generator) (level : Nat) (node : Node) :
    Except GenerationError Sql × Nat :=
  match generator.render node level with
  | .ok sql after => (.ok sql, after)
  | .error error after => (.error error, after)

/-- The SQL of a tree. -/
def statement (generator : Generator) (node : Node) : Except GenerationError Sql :=
  (generator.renderFrom 0 node).1

/-- The SQL of several trees, one after the other, each from the level that the last one left. -/
def statementsFrom (generator : Generator) (level : Nat) :
    List Node → List (Except GenerationError Sql)
  | [] => []
  | node :: rest =>
    (generator.renderFrom level node).1 ::
      generator.statementsFrom (generator.renderFrom level node).2 rest

/-- The SQL of several trees, rendered by one generator. -/
def statements (generator : Generator) (nodes : List Node) :
    List (Except GenerationError Sql) :=
  generator.statementsFrom 0 nodes

end Generator

end Pushdown
