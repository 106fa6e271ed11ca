/-
Module: Pushdown.Proofs.Sql.WellFormed
Purpose: Which trees have a form in a dialect, and what is written for them.
Main exports: Generator.Sound, Generator.WellFormed, Generator.written,
  Generator.render_settles, Generator.render_eq_ok_iff
-/
import Mathlib.Data.List.Basic
import Pushdown.Proofs.Sql.Settling
import Pushdown.Sql.Render

namespace Pushdown

/-!
Whether a tree has a form is a question to each of its nodes alone: `Generator.Sound` is the test
of one node, and a tree is well formed if every node in it passes.  `Generator.written` gives the
SQL of a well-formed tree as a plain function of the tree, without errors, levels or order.
`Generator.render_settles` ties the three to rendering, for every limit at once; laws about
generated text are then laws about `written`.
-/

/-- The SQL of an end that is settled already, and nothing for an error. -/
def settledSql : Except GenerationError Sql → Sql
  | .ok sql => sql
  | .error _ => []

namespace Generator

/-- Whether a constant has a literal. -/
def SoundLiteral : Literal → Prop
  | .double value => value.isFinite
  | .interval _ type => ∃ kind precision fraction, type = .interval kind precision fraction
  | _ => True

/-- Whether a scalar function takes a number of arguments: a plain name takes any, an operator
between arguments two, and an operator before its argument one. -/
def SoundArity (aliases : Aliases) (function : ScalarFunction) (count : Nat) : Prop :=
  aliases.scalar function = none →
    match aliases.between function, aliases.before function with
    | some _, _ => count = 2
    | none, some _ => count = 1
    | none, none => True

/-- Whether a limit has a form: where it precedes the select list, there is no offset. -/
def SoundLimit (dialect : Dialect) (limit : Option RowLimit) : Prop :=
  dialect.limitForm.position = .afterSelect → ∀ given ∈ limit, given.offset = 0

/-- Whether a node has a form, apart from the nodes below it. -/
def Sound (generator : Generator) : Node → Prop
  | .select _ _ _ grouping _ order limit =>
    SoundLimit generator.dialect limit ∧ grouping ≠ some [] ∧ order ≠ some []
  | .junction _ operands => operands ≠ []
  | .inList _ candidates => candidates ≠ []
  | .scalar function arguments =>
    function.isSimple ∧ SoundArity generator.dialect.aliases function arguments.length
  | .cast _ type => type.isSupported
  | .caseWhen _ conditions results =>
    conditions ≠ [] ∧
      (results.length = conditions.length ∨ results.length = conditions.length + 1)
  | .jsonValue arguments returning _ _ => arguments.length = 2 ∧ returning.isSupported
  | .aggregate function _ _ => function.isSimple
  | .listagg _ _ _ _ order => order ≠ some []
  | .groupConcat _ _ order _ => order ≠ some []
  | .literal literal => SoundLiteral literal
  | .orderBy items => items ≠ []
  | .groupBy expressions => expressions ≠ []
  | _ => True

/-- Whether every node of a tree has a form. -/
def WellFormed (generator : Generator) (node : Node) : Prop :=
  ∀ subnode ∈ node.subnodes, generator.Sound subnode

/-- A tree is well formed if its root is sound and the trees below it are well formed. -/
theorem wellFormed_iff (generator : Generator) (node : Node) :
    generator.WellFormed node ↔
      generator.Sound node ∧ ∀ child ∈ node.children, generator.WellFormed child :=
  node.forall_subnodes_iff generator.Sound

mutual

/-- The SQL of a well-formed tree. -/
def written (generator : Generator) : Node → Sql
  | .select list source filter grouping having order limit =>
    Sql.code "SELECT " ++ settledSql (generator.leadingLimit limit) ++
      generator.writtenSelectList list ++ Sql.code " FROM " ++ generator.written source ++
      generator.writtenAfter " WHERE " filter ++
      generator.writtenGroupingAfter " GROUP BY " grouping ++
      generator.writtenAfter " HAVING " having ++
      generator.writtenOrderBetween " ORDER BY " "" order ++ generator.trailingLimit limit
  | .selectList list => generator.writtenSelectList list
  | .column column => generator.column column
  | .table table => generator.table table
  | .join type left right condition =>
    generator.written left ++ Sql.code (" " ++ type.words ++ " JOIN ") ++
      generator.written right ++ Sql.code " ON " ++ generator.written condition
  | .junction connective operands =>
    Sql.code "(" ++
      Sql.separated (" " ++ connective.keyword ++ " ") (generator.writtenEach operands) ++
      Sql.code ")"
  | .not operand => Sql.code "NOT (" ++ generator.written operand ++ Sql.code ")"
  | .comparison operator left right =>
    generator.written left ++ Sql.code (" " ++ operator.symbol ++ " ") ++
      generator.written right
  | .between expression lower upper =>
    generator.written expression ++ Sql.code " BETWEEN " ++ generator.written lower ++
      Sql.code " AND " ++ generator.written upper
  | .like expression pattern escape =>
    generator.written expression ++ Sql.code " LIKE " ++ generator.written pattern ++
      generator.writtenAfter " ESCAPE " escape
  | .regexpLike expression pattern =>
    generator.written expression ++ Sql.code " REGEXP_LIKE " ++ generator.written pattern
  | .inList expression candidates =>
    generator.written expression ++ Sql.code " IN (" ++
      Sql.commaSeparated (generator.writtenEach candidates) ++ Sql.code ")"
  | .isNull negated operand =>
    generator.written operand ++ Sql.code (if negated then " IS NOT NULL" else " IS NULL")
  | .isJson negated expression shape keys =>
    generator.written expression ++
      Sql.code ((if negated then " IS NOT JSON " else " IS JSON ") ++ shape.name ++ " " ++
        keys.words)
  | .scalar function arguments =>
    settledSql (generator.scalarCall function (generator.writtenEach arguments))
  | .cast expression type =>
    Sql.code "CAST(" ++ generator.written expression ++ Sql.code " AS " ++
      Sql.code type.toText ++ Sql.code ")"
  | .extract field expression =>
    Sql.code ("EXTRACT(" ++ field.name ++ " FROM ") ++ generator.written expression ++
      Sql.code ")"
  | .caseWhen basis conditions results =>
    Sql.code "CASE" ++ generator.writtenAfter " " basis ++
      Sql.branches (generator.writtenEach conditions) (generator.writtenEach results) ++
      Sql.code " END"
  | .jsonValue arguments returning onEmpty onError =>
    Sql.code "JSON_VALUE(" ++ Sql.commaSeparated (generator.writtenEach arguments) ++
      Sql.code " RETURNING " ++ Sql.code returning.toText ++ Sql.code " " ++
      generator.writtenBehaviour onEmpty ++ Sql.code " ON EMPTY " ++
      generator.writtenBehaviour onError ++ Sql.code " ON ERROR)"
  | .aggregate function arguments distinct =>
    generator.aggregateCall function distinct (generator.writtenEach arguments)
  | .listagg argument distinct separator overflow order =>
    Sql.code "LISTAGG(" ++ distinctWord distinct ++ generator.written argument ++
      generator.separator ", " separator ++ Sql.code " ON OVERFLOW " ++
      generator.overflow overflow ++ Sql.code ")" ++
      generator.writtenOrderBetween " WITHIN GROUP (ORDER BY " ")" order
  | .groupConcat argument distinct order separator =>
    Sql.code "GROUP_CONCAT(" ++ distinctWord distinct ++ generator.written argument ++
      generator.writtenOrderBetween " ORDER BY " "" order ++
      generator.separator " SEPARATOR " separator ++ Sql.code ")"
  | .literal literal => settledSql (generator.literal literal)
  | .orderBy items =>
    Sql.code "ORDER BY " ++ Sql.commaSeparated (generator.writtenSortItems items)
  | .groupBy expressions => Sql.commaSeparated (generator.writtenEach expressions)
  | .limit limit => Sql.code (generator.dialect.limitForm.clause limit)

/-- The SQL of several trees. -/
def writtenEach (generator : Generator) : List Node → List Sql
  | [] => []
  | node :: rest => generator.written node :: generator.writtenEach rest

/-- A keyword and a tree, if there is one. -/
def writtenAfter (generator : Generator) (keyword : String) : Option Node → Sql
  | none => []
  | some node => Sql.code keyword ++ generator.written node

/-- A select list. -/
def writtenSelectList (generator : Generator) : SelectList → Sql
  | .anyValue => Sql.code generator.dialect.anyValueToken
  | .star => Sql.code "*"
  | .expressions parts =>
    if parts.isEmpty then Sql.code generator.dialect.anyValueToken
    else Sql.commaSeparated (generator.writtenEach parts)

/-- A keyword and expressions to group by, if that is asked. -/
def writtenGroupingAfter (generator : Generator) (keyword : String) : Option (List Node) → Sql
  | none => []
  | some expressions =>
    Sql.code keyword ++ Sql.commaSeparated (generator.writtenEach expressions)

/-- Sort items between two texts, if there are any. -/
def writtenOrderBetween (generator : Generator) (opening closing : String) :
    Option (List SortItem) → Sql
  | none => []
  | some items =>
    Sql.code opening ++ Sql.commaSeparated (generator.writtenSortItems items) ++
      Sql.code closing

/-- The keys of each sort item. -/
def writtenSortItems (generator : Generator) : List SortItem → List Sql
  | [] => []
  | item :: rest => generator.writtenSortItem item :: generator.writtenSortItems rest

/-- The keys of a sort item. -/
def writtenSortItem (generator : Generator) : SortItem → Sql
  | .item expression ascending nullsLast =>
    generator.sortKeys (generator.written expression) ascending nullsLast

/-- What is answered instead of a value. -/
def writtenBehaviour (generator : Generator) : JsonBehaviour → Sql
  | .null => Sql.code "NULL"
  | .error => Sql.code "ERROR"
  | .default value => Sql.code "DEFAULT " ++ generator.written value

end

/-- Several nodes are written one by one; the recursion spells this out to be structural. -/
theorem writtenEach_eq_map (generator : Generator) (nodes : List Node) :
    generator.writtenEach nodes = nodes.map generator.written := by
  induction nodes with
  | nil => rfl
  | cons node rest inductionHypothesis => simp [writtenEach, inductionHypothesis]

theorem writtenSortItems_eq_map (generator : Generator) (items : List SortItem) :
    generator.writtenSortItems items = items.map generator.writtenSortItem := by
  induction items with
  | nil => rfl
  | cons item rest inductionHypothesis => simp [writtenSortItems, inductionHypothesis]

theorem renderEach_eq_map (generator : Generator) (nodes : List Node) :
    generator.renderEach nodes = nodes.map generator.render := by
  induction nodes with
  | nil => rfl
  | cons node rest inductionHypothesis => simp [renderEach, inductionHypothesis]

theorem renderSortItems_eq_map (generator : Generator) (items : List SortItem) :
    generator.renderSortItems items = items.map generator.renderSortItem := by
  induction items with
  | nil => rfl
  | cons item rest inductionHypothesis => simp [renderSortItems, inductionHypothesis]

/-! ### Parts that are settled at once -/

/-- The generator under another limit on nesting. -/
def within (generator : Generator) (limit : Nat) : Generator :=
  { generator with depthLimit := limit }

/-- An outcome is an answer or an error that is not the guard's. -/
def OwnOutcome (outcome : Except GenerationError Sql) (sound : Prop) : Prop :=
  (sound → outcome = .ok (settledSql outcome)) ∧
    (¬ sound → ∃ error, (∀ limit, error ≠ .maxRecursion limit) ∧ outcome = .error error)

/-- A literal is written exactly if it is sound. -/
theorem literal_outcome (generator : Generator) (literal : Literal) :
    OwnOutcome (generator.literal literal) (SoundLiteral literal) := by
  cases literal with
  | double value =>
    by_cases finite : value.isFinite <;>
      simp [OwnOutcome, SoundLiteral, Generator.literal, settledSql, finite]
  | interval value type =>
    cases type <;> simp [OwnOutcome, SoundLiteral, Generator.literal, settledSql]
  | _ => simp [OwnOutcome, SoundLiteral, Generator.literal, settledSql]

/-- A limit before the select list is written exactly if it leaves nothing to skip where the dialect
cannot say so. -/
theorem leadingLimit_outcome (generator : Generator) (limit : Option RowLimit) :
    OwnOutcome (generator.leadingLimit limit) (SoundLimit generator.dialect limit) := by
  cases position : generator.dialect.limitForm.position with
  | trailing => simp [OwnOutcome, SoundLimit, leadingLimit, settledSql, position]
  | afterSelect =>
    cases limit with
    | none => simp [OwnOutcome, SoundLimit, leadingLimit, settledSql, position]
    | some limit =>
      by_cases noOffset : limit.offset = 0 <;>
        simp [OwnOutcome, SoundLimit, leadingLimit, settledSql, position, noOffset]

section ScalarCall

variable {generator : Generator} {function : ScalarFunction} {name operator : String}

theorem scalarCall_of_name (named : generator.dialect.aliases.scalar function = some name)
    (arguments : List Sql) :
    generator.scalarCall function arguments = .ok (call name arguments) := by
  simp only [scalarCall, named]

/-- An operator between its operands takes two of them. -/
theorem scalarCall_of_between (unnamed : generator.dialect.aliases.scalar function = none)
    (between : generator.dialect.aliases.between function = some operator)
    (arguments : List Sql) :
    generator.scalarCall function arguments =
      match arguments with
      | [left, right] =>
        .ok (Sql.code "(" ++ left ++ Sql.code (" " ++ operator ++ " ") ++ right ++ Sql.code ")")
      | _ => .error (.functionArity function.name 2 arguments.length) := by
  rcases arguments with _ | ⟨left, _ | ⟨right, _ | ⟨third, rest⟩⟩⟩ <;>
    simp only [scalarCall, unnamed, between]

theorem scalarCall_of_before (unnamed : generator.dialect.aliases.scalar function = none)
    (notBetween : generator.dialect.aliases.between function = none)
    (before : generator.dialect.aliases.before function = some operator)
    (arguments : List Sql) :
    generator.scalarCall function arguments =
      match arguments with
      | [operand] => .ok (Sql.code ("(" ++ operator) ++ operand ++ Sql.code ")")
      | _ => .error (.functionArity function.name 1 arguments.length) := by
  rcases arguments with _ | ⟨operand, _ | ⟨second, rest⟩⟩ <;>
    simp only [scalarCall, unnamed, notBetween, before]

/-- A function without aliases is called by its own name, some of them without parentheses. -/
theorem scalarCall_of_none (unnamed : generator.dialect.aliases.scalar function = none)
    (notBetween : generator.dialect.aliases.between function = none)
    (notBefore : generator.dialect.aliases.before function = none)
    (arguments : List Sql) :
    generator.scalarCall function arguments =
      .ok (if arguments.isEmpty && Dialect.omitsParentheses function then Sql.code function.name
        else call function.name arguments) := by
  simp only [scalarCall, unnamed, notBetween, notBefore]
  split <;> rfl

end ScalarCall

/-- A call is written exactly if the function takes as many arguments as it is given. -/
theorem scalarCall_outcome (generator : Generator) (function : ScalarFunction)
    (arguments : List Sql) :
    OwnOutcome (generator.scalarCall function arguments)
      (SoundArity generator.dialect.aliases function arguments.length) := by
  unfold OwnOutcome SoundArity
  cases named : generator.dialect.aliases.scalar function with
  | some name => simp [scalarCall_of_name named, settledSql]
  | none =>
    cases between : generator.dialect.aliases.between function with
    | some operator =>
      rw [scalarCall_of_between named between]
      match arguments with
      | [] => simp
      | [_] => simp
      | [left, right] => simp [settledSql]
      | _ :: _ :: _ :: _ => simp
    | none =>
      cases before : generator.dialect.aliases.before function with
      | some operator =>
        rw [scalarCall_of_before named between before]
        match arguments with
        | [] => simp
        | [operand] => simp [settledSql]
        | _ :: _ :: _ => simp
      | none => simp [scalarCall_of_none named between before, settledSql]

/-! ### Every rendering settles -/

/-- A tree is rendered as it is written, if it is well formed and the limit leaves room for it. -/
abbrev Settled (generator : Generator) (node : Node) : Prop :=
  Rendering.Settles (fun limit => (generator.within limit).render node)
    (generator.WellFormed node) node.height (generator.written node)

section Parts

open Rendering

variable {generator : Generator}

/-- What is settled at once takes no levels. -/
theorem settles_outcome {outcome : Except GenerationError Sql} {sound : Prop}
    (own : OwnOutcome outcome sound) :
    Settles (fun _ => settled outcome) sound 0 (settledSql outcome) :=
  .settled own.1 own.2

theorem settles_conversionType (type : DataType) :
    Settles (fun _ => settled (conversionType type)) (type.isSupported = true) 0
      (Sql.code type.toText) := by
  refine .settled (fun supported => ?_) (fun unsupported => ?_)
  · simp [conversionType, supported]
  · simp [conversionType, unsupported]

/-- Several trees in order. -/
theorem settles_each {nodes : List Node} (each : ∀ node ∈ nodes, generator.Settled node) :
    Settles (fun limit => inOrder ((generator.within limit).renderEach nodes))
      (∀ node ∈ nodes, generator.WellFormed node) (greatest (nodes.map Node.height))
      (generator.writtenEach nodes) := by
  simp only [renderEach_eq_map, writtenEach_eq_map]
  exact .inOrder each

/-- One or more trees. -/
theorem settles_oneOrMore {nodes : List Node} (problem : NodeProblem) (separator : String)
    (each : ∀ node ∈ nodes, generator.Settled node) :
    Settles (fun limit => oneOrMore problem separator ((generator.within limit).renderEach nodes))
      (nodes ≠ [] ∧ ∀ node ∈ nodes, generator.WellFormed node)
      (greatest (nodes.map Node.height))
      (Sql.separated separator (generator.writtenEach nodes)) := by
  simp only [renderEach_eq_map, writtenEach_eq_map]
  exact .oneOrMore problem separator each

/-- Conditions and results by turns. -/
theorem settles_branches {conditions results : List Node}
    (balanced : results.length = conditions.length ∨ results.length = conditions.length + 1)
    (inConditions : ∀ node ∈ conditions, generator.Settled node)
    (inResults : ∀ node ∈ results, generator.Settled node) :
    Settles
      (fun limit => alternating ((generator.within limit).renderEach conditions)
        ((generator.within limit).renderEach results))
      ((∀ node ∈ conditions, generator.WellFormed node) ∧
        ∀ node ∈ results, generator.WellFormed node)
      (max (greatest (conditions.map Node.height)) (greatest (results.map Node.height)))
      (Sql.branches (generator.writtenEach conditions) (generator.writtenEach results)) := by
  simp only [renderEach_eq_map, writtenEach_eq_map]
  exact .alternating balanced (List.forall_mem_append.2 ⟨inConditions, inResults⟩)

/-- An optional clause settles like the node in it. -/
theorem settles_after {option : Option Node} (keyword : String)
    (each : ∀ node ∈ option.toList, generator.Settled node) :
    Settles (fun limit => (generator.within limit).renderAfter keyword option)
      (∀ node ∈ option.toList, generator.WellFormed node)
      (greatest (option.toList.map Node.height)) (generator.writtenAfter keyword option) := by
  cases option with
  | none => exact (Settles.pure []).congr (by simp) rfl fun _ => rfl
  | some node =>
    refine Settles.congr ((each node (by simp)).bind (.pure _)) ?_ ?_ ?_
    · simp
    · simp
    · exact fun _ => rfl

/-- A select list settles like its expressions.  Without any it is a star or a constant, and needs
no room. -/
theorem settles_selectList {list : SelectList}
    (each : ∀ node ∈ list.nodes, generator.Settled node) :
    Settles (fun limit => (generator.within limit).renderSelectList list)
      (∀ node ∈ list.nodes, generator.WellFormed node)
      (greatest (list.nodes.map Node.height)) (generator.writtenSelectList list) := by
  cases list with
  | anyValue =>
    exact (Settles.pure (Sql.code generator.dialect.anyValueToken)).congr
      (by simp [SelectList.nodes]) rfl fun _ => rfl
  | star => exact (Settles.pure _).congr (by simp [SelectList.nodes]) rfl fun _ => rfl
  | expressions parts =>
    cases parts with
    | nil =>
      exact (Settles.pure (Sql.code generator.dialect.anyValueToken)).congr
        (by simp [SelectList.nodes]) rfl fun _ => rfl
    | cons first rest =>
      refine Settles.congr ((settles_each each).bind (.pure _)) ?_ ?_ ?_
      · simp [SelectList.nodes]
      · simp [SelectList.nodes]
      · exact fun _ => rfl

/-- A grouping settles like its expressions, of which there has to be one at least. -/
theorem settles_grouping {grouping : Option (List Node)} (keyword : String)
    (each : ∀ node ∈ grouping.getD [], generator.Settled node) :
    Settles (fun limit => (generator.within limit).renderGroupingAfter keyword grouping)
      (grouping ≠ some [] ∧ ∀ node ∈ grouping.getD [], generator.WellFormed node)
      (greatest ((grouping.getD []).map Node.height))
      (generator.writtenGroupingAfter keyword grouping) := by
  cases grouping with
  | none => exact (Settles.pure []).congr (by simp) rfl fun _ => rfl
  | some expressions =>
    refine Settles.congr ((settles_oneOrMore .emptyGroupBy ", " each).bind (.pure _)) ?_ ?_ ?_
    · simp
    · simp
    · exact fun _ => rfl

/-- A sort item settles like its expression. -/
theorem settles_item {item : SortItem} (inner : generator.Settled item.node) :
    Settles (fun limit => (generator.within limit).renderSortItem item)
      (generator.WellFormed item.node) item.node.height (generator.writtenSortItem item) := by
  obtain ⟨expression, ascending, nullsLast⟩ := item
  refine Settles.congr (Settles.bind inner
    (.pure (generator.sortKeys (generator.written expression) ascending nullsLast))) ?_ ?_ ?_
  · simp [SortItem.node]
  · simp [SortItem.node]
  · exact fun _ => rfl

/-- Sort items settle like their expressions, of which there has to be one at least.  Each
expression is rendered once, even where it is written twice. -/
theorem settles_items {items : List SortItem}
    (each : ∀ node ∈ items.map SortItem.node, generator.Settled node) :
    Settles
      (fun limit =>
        oneOrMore .emptyOrderBy ", " ((generator.within limit).renderSortItems items))
      (items ≠ [] ∧ ∀ node ∈ items.map SortItem.node, generator.WellFormed node)
      (greatest ((items.map SortItem.node).map Node.height))
      (Sql.commaSeparated (generator.writtenSortItems items)) := by
  simp only [renderSortItems_eq_map, writtenSortItems_eq_map]
  have eachItem := fun item (member : item ∈ items) =>
    settles_item (each item.node (List.mem_map_of_mem member))
  refine Settles.congr (Settles.oneOrMore .emptyOrderBy ", " eachItem) ?_ ?_ fun _ => rfl
  · simp
  · simp [Function.comp_def]

/-- An optional order settles like its items. -/
theorem settles_order {order : Option (List SortItem)} (opening closing : String)
    (each : ∀ node ∈ (order.getD []).map SortItem.node, generator.Settled node) :
    Settles (fun limit => (generator.within limit).renderOrderBetween opening closing order)
      (order ≠ some [] ∧ ∀ node ∈ (order.getD []).map SortItem.node, generator.WellFormed node)
      (greatest (((order.getD []).map SortItem.node).map Node.height))
      (generator.writtenOrderBetween opening closing order) := by
  cases order with
  | none => exact (Settles.pure []).congr (by simp) rfl fun _ => rfl
  | some items =>
    refine Settles.congr ((settles_items each).bind (.pure _)) ?_ ?_ ?_
    · simp
    · simp
    · exact fun _ => rfl

/-- What is answered instead of a value settles like its default. -/
theorem settles_behaviour {behaviour : JsonBehaviour}
    (each : ∀ node ∈ behaviour.nodes, generator.Settled node) :
    Settles (fun limit => (generator.within limit).renderBehaviour behaviour)
      (∀ node ∈ behaviour.nodes, generator.WellFormed node)
      (greatest (behaviour.nodes.map Node.height)) (generator.writtenBehaviour behaviour) := by
  cases behaviour with
  | null => exact (Settles.pure _).congr (by simp [JsonBehaviour.nodes]) rfl fun _ => rfl
  | error => exact (Settles.pure _).congr (by simp [JsonBehaviour.nodes]) rfl fun _ => rfl
  | default value =>
    refine Settles.congr ((each value (by simp [JsonBehaviour.nodes])).bind (.pure _)) ?_ ?_ ?_
    · simp [JsonBehaviour.nodes]
    · simp [JsonBehaviour.nodes]
    · exact fun _ => rfl

end Parts

/-- A node is settled by its own test, its children's forms and the highest of them.  For most
nodes the three are read off their definitions. -/
theorem Settled.ofChildren {generator : Generator} {node : Node} {sound : Prop} {height : Nat}
    {sql : Sql}
    (settles : Rendering.Settles (fun limit => (generator.within limit).render node) sound
      (height + 1) sql)
    (sameSound :
      sound ↔ generator.Sound node ∧ ∀ child ∈ node.children, generator.WellFormed child
        := by simp [Sound, Node.children])
    (sameHeight : height = greatest (node.children.map Node.height) := by simp [Node.children])
    (sameSql : generator.Sound node → sql = generator.written node := by exact fun _ => rfl) :
    generator.Settled node := by
  refine settles.congr ?_ ?_ ?_
  · rw [sameSound, wellFormed_iff]
  · rw [sameHeight, Node.height_eq]
  · exact fun wellFormed => sameSql ((wellFormed_iff generator node).1 wellFormed).1

/-- The number of arguments is looked at before any of them is rendered.  So this error comes before
all others below the node. -/
theorem render_jsonValue_of_arity {generator : Generator} {arguments : List Node}
    (returning : DataType) (onEmpty onError : JsonBehaviour) (notTwo : arguments.length ≠ 2)
    (limit : Nat) :
    (generator.within limit).render (.jsonValue arguments returning onEmpty onError) =
      Rendering.nested limit
        (throw (.functionArity ScalarFunction.jsonValue.name 2 arguments.length)) := by
  match arguments, notTwo with
  | [], _ => simp [render, renderEach, within]
  | [_], _ => simp [render, renderEach, within]
  | [_, _], notTwo => exact absurd rfl notTwo
  | _ :: _ :: _ :: _, _ => simp [render, renderEach_eq_map, within]

/-- A JSON_VALUE with another number of arguments than two is refused.  Nothing below it is
rendered, so its height is not asked for. -/
theorem settled_of_arity {generator : Generator} {arguments : List Node} {returning : DataType}
    {onEmpty onError : JsonBehaviour} (notTwo : arguments.length ≠ 2) :
    generator.Settled (.jsonValue arguments returning onEmpty onError) := by
  unfold Settled
  simp only [render_jsonValue_of_arity returning onEmpty onError notTwo]
  refine ((Rendering.Settles.throw [] ?_).nested.raise ?_).congr ?_ rfl fun _ => rfl
  · exact fun _ same => by cases same
  · rw [Node.height_eq]
    omega
  · rw [wellFormed_iff]
    simp [Sound, notTwo]

open Rendering in
/-- Every tree is settled: rendering writes it if it is well formed and not too high, and fails
otherwise.  The induction is on the nodes below, so that each case puts the laws of its parts
together. -/
theorem render_settles (generator : Generator) (node : Node) : generator.Settled node := by
  induction node using Node.inductionOnChildren with
  | step node each =>
    cases node with
    | select list source filter grouping having order limit =>
      simp only [Node.children, List.forall_mem_append, List.forall_mem_cons] at each
      obtain ⟨inList, atSource, inFilter, inGrouping, inHaving, inOrder⟩ := each
      refine .ofChildren (.nested
        (.bind (settles_outcome (generator.leadingLimit_outcome limit))
        (.bind (settles_selectList inList) (.bind atSource (.bind (settles_after _ inFilter)
        (.bind (settles_grouping _ inGrouping) (.bind (settles_after _ inHaving)
        (.bind (settles_order _ _ inOrder) (.pure (generator.written
          (.select list source filter grouping having order limit))))))))))) ?_
      simp only [Sound, Node.children, List.forall_mem_append, List.forall_mem_cons]
      grind
    | selectList list => exact .ofChildren (.nested (settles_selectList each))
    | column column => exact .ofChildren (.nested (.pure (generator.column column)))
    | table table => exact .ofChildren (.nested (.pure (generator.table table)))
    | join type left right condition =>
      simp only [Node.children, List.forall_mem_cons] at each
      obtain ⟨atLeft, atRight, atCondition, _⟩ := each
      exact .ofChildren (.nested (.bind atLeft (.bind atRight (.bind atCondition (.pure _)))))
    | junction connective operands =>
      exact .ofChildren (.nested (.bind (settles_oneOrMore _ _ each) (.pure _)))
    | not operand =>
      simp only [Node.children, List.forall_mem_cons] at each
      exact .ofChildren (.nested (.bind each.1 (.pure _)))
    | comparison operator left right =>
      simp only [Node.children, List.forall_mem_cons] at each
      exact .ofChildren (.nested (.bind each.1 (.bind each.2.1 (.pure _))))
    | between expression lower upper =>
      simp only [Node.children, List.forall_mem_cons] at each
      obtain ⟨atExpression, atLower, atUpper, _⟩ := each
      exact .ofChildren (.nested (.bind atExpression (.bind atLower (.bind atUpper (.pure _)))))
    | like expression pattern escape =>
      simp only [Node.children, List.forall_mem_cons] at each
      obtain ⟨atExpression, atPattern, inEscape⟩ := each
      exact .ofChildren (.nested (.bind atExpression (.bind atPattern
        (.bind (settles_after _ inEscape) (.pure _)))))
    | regexpLike expression pattern =>
      simp only [Node.children, List.forall_mem_cons] at each
      exact .ofChildren (.nested (.bind each.1 (.bind each.2.1 (.pure _))))
    | inList expression candidates =>
      simp only [Node.children, List.forall_mem_cons] at each
      obtain ⟨atExpression, inCandidates⟩ := each
      exact .ofChildren (.nested (.guarded (fun _ same => by cases same) fun _ =>
        .bind atExpression (.bind (settles_each inCandidates) (.pure _))))
    | isNull negated operand =>
      simp only [Node.children, List.forall_mem_cons] at each
      exact .ofChildren (.nested (.bind each.1 (.pure _)))
    | isJson negated expression shape keys =>
      simp only [Node.children, List.forall_mem_cons] at each
      exact .ofChildren (.nested (.bind each.1 (.pure _)))
    | scalar function arguments =>
      refine .ofChildren (.nested (.provided (fun _ same => by cases same) fun _ =>
        .bind (settles_each each) (settles_outcome (generator.scalarCall_outcome function _)))) ?_
      simp only [Sound, Node.children, writtenEach_eq_map, List.length_map]
      grind
    | cast expression type =>
      simp only [Node.children, List.forall_mem_cons] at each
      refine .ofChildren (.nested (.bind each.1 (.bind (settles_conversionType type)
        (.pure _)))) ?_
      simp [Sound, Node.children, and_comm]
    | extract field expression =>
      simp only [Node.children, List.forall_mem_cons] at each
      exact .ofChildren (.nested (.bind each.1 (.pure _)))
    | caseWhen basis conditions results =>
      simp only [Node.children, List.forall_mem_append] at each
      obtain ⟨inBasis, inConditions, inResults⟩ := each
      refine .ofChildren (.nested (.guarded (fun _ same => by cases same) fun fewOrMany =>
        .guarded (fun _ same => by cases same) fun _ => .bind (settles_after _ inBasis)
          (.bind (settles_branches (by grind) inConditions inResults) (.pure _)))) ?_
      simp only [Sound, Node.children, List.forall_mem_append]
      grind
    | jsonValue arguments returning onEmpty onError =>
      simp only [Node.children, List.forall_mem_append] at each
      obtain ⟨inArguments, inEmpty, inError⟩ := each
      by_cases two : arguments.length = 2
      · obtain ⟨document, path, rfl⟩ := List.length_eq_two.1 two
        simp only [List.forall_mem_cons] at inArguments
        obtain ⟨atDocument, atPath, _⟩ := inArguments
        refine .ofChildren (.nested (.bind atDocument (.bind atPath
          (.bind (settles_conversionType returning) (.bind (settles_behaviour inEmpty)
          (.bind (settles_behaviour inError) (.pure _))))))) ?_ ?_ ?_
        · simp only [Sound, Node.children, List.forall_mem_append, List.forall_mem_cons]
          grind
        · simp [Node.children]
        · simp [written, writtenEach, Sql.commaSeparated, Sql.separated]
      · exact settled_of_arity two
    | aggregate function arguments distinct =>
      exact .ofChildren (.nested (.provided (fun _ same => by cases same) fun _ =>
        .bind (settles_each each) (.pure (generator.aggregateCall function distinct _))))
    | listagg argument distinct separator overflow order =>
      simp only [Node.children, List.forall_mem_cons] at each
      refine .ofChildren (.nested (.bind each.1 (.bind (settles_order _ _ each.2)
        (.pure (generator.written (.listagg argument distinct separator overflow order)))))) ?_
      simp only [Sound, Node.children, List.forall_mem_cons]
      grind
    | groupConcat argument distinct order separator =>
      simp only [Node.children, List.forall_mem_cons] at each
      refine .ofChildren (.nested (.bind each.1 (.bind (settles_order _ _ each.2)
        (.pure (generator.written (.groupConcat argument distinct order separator)))))) ?_
      simp only [Sound, Node.children, List.forall_mem_cons]
      grind
    | literal literal =>
      exact .ofChildren (.nested (settles_outcome (generator.literal_outcome literal)))
    | orderBy items => exact .ofChildren (.nested (.bind (settles_items each) (.pure _)))
    | groupBy expressions => exact .ofChildren (.nested (settles_oneOrMore _ _ each))
    | limit limit =>
      exact .ofChildren (.nested
        (.pure (Sql.code (generator.dialect.limitForm.clause limit))))

/-- Rendering a tree from a level within the limit answers exactly with what is written for it,
and leaves the level as it was, if the tree is well formed and high enough for no guard. -/
theorem render_eq_ok_iff (generator : Generator) (node : Node) {level : Nat} {sql : Sql}
    {after : Nat} (started : level ≤ generator.depthLimit) :
    generator.render node level = .ok sql after ↔
      generator.WellFormed node ∧ level + node.height ≤ generator.depthLimit ∧
        sql = generator.written node ∧ after = level :=
  (generator.render_settles node).eq_ok_iff started

/-- A statement is what is written for a well-formed tree that is not too high.  Every claim about
generated SQL starts here: what remains is about well-formed trees and their text. -/
theorem statement_eq_ok_iff (generator : Generator) (node : Node) (sql : Sql) :
    generator.statement node = .ok sql ↔
      generator.WellFormed node ∧ node.height ≤ generator.depthLimit ∧
        sql = generator.written node := by
  have spec := fun after =>
    @render_eq_ok_iff generator node 0 sql after (Nat.zero_le _)
  unfold statement renderFrom
  cases outcome : generator.render node 0 with
  | ok answer after =>
    simp only [outcome, EStateM.Result.ok.injEq, Nat.zero_add] at spec
    simp only [Except.ok.injEq]
    exact ⟨fun same => by
        obtain ⟨wellFormed, fits, written, _⟩ := (spec after).1 ⟨same, rfl⟩
        exact ⟨wellFormed, fits, written⟩,
      fun ⟨wellFormed, fits, written⟩ =>
        ((spec 0).2 ⟨wellFormed, fits, written, rfl⟩).1⟩
  | error error after =>
    simp only [outcome, reduceCtorEq, false_iff, Nat.zero_add] at spec ⊢
    exact fun ⟨wellFormed, fits, written⟩ => spec 0 ⟨wellFormed, fits, written, rfl⟩

end Generator

end Pushdown
