/-
Module: Pushdown.Proofs.Frame
Purpose: The places of a tree at which another tree can stand.
Main exports: Frame, Frame.plug, Node.inside, Node.mem_subnodes_iff
-/
import Pushdown.Proofs.Tree

namespace Pushdown

/-!
A frame is a node without one of its children.  The way from the root of a tree down to one of its
nodes is a list of frames, so two trees that differ at one place are one way with two nodes at its
end.
-/

/-- A node with a gap where one of its children stands. -/
inductive Frame where
  | selectColumn (before after : List Node) (source : Node) (filter : Option Node)
      (grouping : Option (List Node)) (having : Option Node) (order : Option (List SortItem))
      (limit : Option RowLimit)
  | selectSource (list : SelectList) (filter : Option Node) (grouping : Option (List Node))
      (having : Option Node) (order : Option (List SortItem)) (limit : Option RowLimit)
  | selectFilter (list : SelectList) (source : Node) (grouping : Option (List Node))
      (having : Option Node) (order : Option (List SortItem)) (limit : Option RowLimit)
  | selectGrouping (list : SelectList) (source : Node) (filter : Option Node)
      (before after : List Node) (having : Option Node) (order : Option (List SortItem))
      (limit : Option RowLimit)
  | selectHaving (list : SelectList) (source : Node) (filter : Option Node)
      (grouping : Option (List Node)) (order : Option (List SortItem)) (limit : Option RowLimit)
  | selectOrder (list : SelectList) (source : Node) (filter : Option Node)
      (grouping : Option (List Node)) (having : Option Node) (before : List SortItem)
      (ascending nullsLast : Bool) (after : List SortItem) (limit : Option RowLimit)
  | listColumn (before after : List Node)
  | joinLeft (type : JoinType) (right condition : Node)
  | joinRight (type : JoinType) (left condition : Node)
  | joinCondition (type : JoinType) (left right : Node)
  | junction (connective : Connective) (before after : List Node)
  | not
  | comparisonLeft (operator : ComparisonOperator) (right : Node)
  | comparisonRight (operator : ComparisonOperator) (left : Node)
  | betweenExpression (lower upper : Node)
  | betweenLower (expression upper : Node)
  | betweenUpper (expression lower : Node)
  | likeExpression (pattern : Node) (escape : Option Node)
  | likePattern (expression : Node) (escape : Option Node)
  | likeEscape (expression pattern : Node)
  | regexpExpression (pattern : Node)
  | regexpPattern (expression : Node)
  | inListExpression (candidates : List Node)
  | inListCandidate (expression : Node) (before after : List Node)
  | isNull (negated : Bool)
  | isJson (negated : Bool) (shape : JsonShape) (keys : KeyUniqueness)
  | scalar (function : ScalarFunction) (before after : List Node)
  | cast (type : DataType)
  | extract (field : ExtractField)
  | caseBasis (conditions results : List Node)
  | caseCondition (basis : Option Node) (before after results : List Node)
  | caseResult (basis : Option Node) (conditions before after : List Node)
  | jsonArgument (before after : List Node) (returning : DataType)
      (onEmpty onError : JsonBehaviour)
  | jsonOnEmpty (arguments : List Node) (returning : DataType) (onError : JsonBehaviour)
  | jsonOnError (arguments : List Node) (returning : DataType) (onEmpty : JsonBehaviour)
  | aggregate (function : AggregateFunction) (before after : List Node) (distinct : Bool)
  | listaggArgument (distinct : Bool) (separator : Option String) (overflow : ListOverflow)
      (order : Option (List SortItem))
  | listaggOrder (argument : Node) (distinct : Bool) (separator : Option String)
      (overflow : ListOverflow) (before : List SortItem) (ascending nullsLast : Bool)
      (after : List SortItem)
  | concatArgument (distinct : Bool) (order : Option (List SortItem)) (separator : Option String)
  | concatOrder (argument : Node) (distinct : Bool) (before : List SortItem)
      (ascending nullsLast : Bool) (after : List SortItem) (separator : Option String)
  | orderBy (before : List SortItem) (ascending nullsLast : Bool) (after : List SortItem)
  | groupBy (before after : List Node)

/-- The node with a child in its gap. -/
def Frame.plug (child : Node) : Frame → Node
  | .selectColumn before after source filter grouping having order limit =>
    .select (.expressions (before ++ child :: after)) source filter grouping having order limit
  | .selectSource list filter grouping having order limit =>
    .select list child filter grouping having order limit
  | .selectFilter list source grouping having order limit =>
    .select list source (some child) grouping having order limit
  | .selectGrouping list source filter before after having order limit =>
    .select list source filter (some (before ++ child :: after)) having order limit
  | .selectHaving list source filter grouping order limit =>
    .select list source filter grouping (some child) order limit
  | .selectOrder list source filter grouping having before ascending nullsLast after limit =>
    .select list source filter grouping having
      (some (before ++ .item child ascending nullsLast :: after)) limit
  | .listColumn before after => .selectList (.expressions (before ++ child :: after))
  | .joinLeft type right condition => .join type child right condition
  | .joinRight type left condition => .join type left child condition
  | .joinCondition type left right => .join type left right child
  | .junction connective before after => .junction connective (before ++ child :: after)
  | .not => .not child
  | .comparisonLeft operator right => .comparison operator child right
  | .comparisonRight operator left => .comparison operator left child
  | .betweenExpression lower upper => .between child lower upper
  | .betweenLower expression upper => .between expression child upper
  | .betweenUpper expression lower => .between expression lower child
  | .likeExpression pattern escape => .like child pattern escape
  | .likePattern expression escape => .like expression child escape
  | .likeEscape expression pattern => .like expression pattern (some child)
  | .regexpExpression pattern => .regexpLike child pattern
  | .regexpPattern expression => .regexpLike expression child
  | .inListExpression candidates => .inList child candidates
  | .inListCandidate expression before after => .inList expression (before ++ child :: after)
  | .isNull negated => .isNull negated child
  | .isJson negated shape keys => .isJson negated child shape keys
  | .scalar function before after => .scalar function (before ++ child :: after)
  | .cast type => .cast child type
  | .extract field => .extract field child
  | .caseBasis conditions results => .caseWhen (some child) conditions results
  | .caseCondition basis before after results =>
    .caseWhen basis (before ++ child :: after) results
  | .caseResult basis conditions before after =>
    .caseWhen basis conditions (before ++ child :: after)
  | .jsonArgument before after returning onEmpty onError =>
    .jsonValue (before ++ child :: after) returning onEmpty onError
  | .jsonOnEmpty arguments returning onError =>
    .jsonValue arguments returning (.default child) onError
  | .jsonOnError arguments returning onEmpty =>
    .jsonValue arguments returning onEmpty (.default child)
  | .aggregate function before after distinct =>
    .aggregate function (before ++ child :: after) distinct
  | .listaggArgument distinct separator overflow order =>
    .listagg child distinct separator overflow order
  | .listaggOrder argument distinct separator overflow before ascending nullsLast after =>
    .listagg argument distinct separator overflow
      (some (before ++ .item child ascending nullsLast :: after))
  | .concatArgument distinct order separator => .groupConcat child distinct order separator
  | .concatOrder argument distinct before ascending nullsLast after separator =>
    .groupConcat argument distinct
      (some (before ++ .item child ascending nullsLast :: after)) separator
  | .orderBy before ascending nullsLast after =>
    .orderBy (before ++ .item child ascending nullsLast :: after)
  | .groupBy before after => .groupBy (before ++ child :: after)

/-- The tree with a node at the end of a way from the root; the first frame is the root. -/
def Node.inside (node : Node) : List Frame → Node
  | [] => node
  | frame :: way => frame.plug (node.inside way)

/-- What is plugged into a frame stands right below its root.  Together with the next lemma, frames
are the children of nodes, seen from outside. -/
theorem Frame.mem_children_plug (frame : Frame) (child : Node) :
    child ∈ (frame.plug child).children := by
  cases frame <;> simp [plug, Node.children, SelectList.nodes, JsonBehaviour.nodes, SortItem.node]

/-! ### No place is left out -/

/-- A node in a select list is one of its expressions. -/
theorem SelectList.eq_of_mem_nodes {list : SelectList} {node : Node} (member : node ∈ list.nodes) :
    ∃ before after, list = .expressions (before ++ node :: after) := by
  cases list with
  | anyValue => cases member
  | star => cases member
  | expressions parts =>
    obtain ⟨before, after, rfl⟩ := List.append_of_mem member
    exact ⟨before, after, rfl⟩

/-- A node to group by stands among the others. -/
theorem eq_of_mem_grouping {grouping : Option (List Node)} {node : Node}
    (member : node ∈ grouping.getD []) :
    ∃ before after, grouping = some (before ++ node :: after) := by
  cases grouping with
  | none => cases member
  | some expressions =>
    obtain ⟨before, after, rfl⟩ := List.append_of_mem member
    exact ⟨before, after, rfl⟩

/-- An expression to sort by belongs to an item among the others. -/
theorem eq_of_mem_items {items : List SortItem} {node : Node}
    (member : node ∈ items.map SortItem.node) :
    ∃ before ascending nullsLast after,
      items = before ++ .item node ascending nullsLast :: after := by
  obtain ⟨⟨expression, ascending, nullsLast⟩, here, rfl⟩ := List.mem_map.1 member
  obtain ⟨before, after, rfl⟩ := List.append_of_mem here
  exact ⟨before, ascending, nullsLast, after, rfl⟩

theorem eq_of_mem_order {order : Option (List SortItem)} {node : Node}
    (member : node ∈ (order.getD []).map SortItem.node) :
    ∃ before ascending nullsLast after,
      order = some (before ++ .item node ascending nullsLast :: after) := by
  cases order with
  | none => cases member
  | some items =>
    obtain ⟨before, ascending, nullsLast, after, rfl⟩ := eq_of_mem_items member
    exact ⟨before, ascending, nullsLast, after, rfl⟩

/-- A node in a behaviour is its default. -/
theorem JsonBehaviour.eq_of_mem_nodes {behaviour : JsonBehaviour} {node : Node}
    (member : node ∈ behaviour.nodes) : behaviour = .default node := by
  cases behaviour with
  | null => cases member
  | error => cases member
  | default value => rw [List.mem_singleton.1 member]

/-- Every child of a node stands in a frame.  Statements about what holds around a child can be made
about frames, with no case for each kind of node. -/
theorem Node.exists_frame {node child : Node} (member : child ∈ node.children) :
    ∃ frame : Frame, frame.plug child = node := by
  cases node <;>
    simp only [children, List.mem_append, List.mem_cons, List.not_mem_nil, or_false] at member
  case select list source filter grouping having order limit =>
    rcases member with inList | rfl | inFilter | inGrouping | inHaving | inOrder
    · obtain ⟨before, after, rfl⟩ := SelectList.eq_of_mem_nodes inList
      exact ⟨.selectColumn before after source filter grouping having order limit, rfl⟩
    · exact ⟨.selectSource list filter grouping having order limit, rfl⟩
    · obtain rfl : _ = some child := Option.mem_toList.1 inFilter
      exact ⟨.selectFilter list source grouping having order limit, rfl⟩
    · obtain ⟨before, after, rfl⟩ := eq_of_mem_grouping inGrouping
      exact ⟨.selectGrouping list source filter before after having order limit, rfl⟩
    · obtain rfl : _ = some child := Option.mem_toList.1 inHaving
      exact ⟨.selectHaving list source filter grouping order limit, rfl⟩
    · obtain ⟨before, ascending, nullsLast, after, rfl⟩ := eq_of_mem_order inOrder
      exact ⟨.selectOrder list source filter grouping having before ascending nullsLast after
        limit, rfl⟩
  case selectList list =>
    obtain ⟨before, after, rfl⟩ := SelectList.eq_of_mem_nodes member
    exact ⟨.listColumn before after, rfl⟩
  case join type left right condition =>
    rcases member with rfl | rfl | rfl
    · exact ⟨.joinLeft type right condition, rfl⟩
    · exact ⟨.joinRight type left condition, rfl⟩
    · exact ⟨.joinCondition type left right, rfl⟩
  case junction connective operands =>
    obtain ⟨before, after, rfl⟩ := List.append_of_mem member
    exact ⟨.junction connective before after, rfl⟩
  case not operand =>
    obtain rfl := member
    exact ⟨.not, rfl⟩
  case comparison operator left right =>
    rcases member with rfl | rfl
    · exact ⟨.comparisonLeft operator right, rfl⟩
    · exact ⟨.comparisonRight operator left, rfl⟩
  case between expression lower upper =>
    rcases member with rfl | rfl | rfl
    · exact ⟨.betweenExpression lower upper, rfl⟩
    · exact ⟨.betweenLower expression upper, rfl⟩
    · exact ⟨.betweenUpper expression lower, rfl⟩
  case like expression pattern escape =>
    rcases member with rfl | rfl | inEscape
    · exact ⟨.likeExpression pattern escape, rfl⟩
    · exact ⟨.likePattern expression escape, rfl⟩
    · obtain rfl : _ = some child := Option.mem_toList.1 inEscape
      exact ⟨.likeEscape expression pattern, rfl⟩
  case regexpLike expression pattern =>
    rcases member with rfl | rfl
    · exact ⟨.regexpExpression pattern, rfl⟩
    · exact ⟨.regexpPattern expression, rfl⟩
  case inList expression candidates =>
    rcases member with rfl | inCandidates
    · exact ⟨.inListExpression candidates, rfl⟩
    · obtain ⟨before, after, rfl⟩ := List.append_of_mem inCandidates
      exact ⟨.inListCandidate expression before after, rfl⟩
  case isNull negated operand =>
    obtain rfl := member
    exact ⟨.isNull negated, rfl⟩
  case isJson negated expression shape keys =>
    obtain rfl := member
    exact ⟨.isJson negated shape keys, rfl⟩
  case scalar function arguments =>
    obtain ⟨before, after, rfl⟩ := List.append_of_mem member
    exact ⟨.scalar function before after, rfl⟩
  case cast expression type =>
    obtain rfl := member
    exact ⟨.cast type, rfl⟩
  case extract field expression =>
    obtain rfl := member
    exact ⟨.extract field, rfl⟩
  case caseWhen basis conditions results =>
    rcases member with inBasis | inConditions | inResults
    · obtain rfl : _ = some child := Option.mem_toList.1 inBasis
      exact ⟨.caseBasis conditions results, rfl⟩
    · obtain ⟨before, after, rfl⟩ := List.append_of_mem inConditions
      exact ⟨.caseCondition basis before after results, rfl⟩
    · obtain ⟨before, after, rfl⟩ := List.append_of_mem inResults
      exact ⟨.caseResult basis conditions before after, rfl⟩
  case jsonValue arguments returning onEmpty onError =>
    rcases member with inArguments | inEmpty | inError
    · obtain ⟨before, after, rfl⟩ := List.append_of_mem inArguments
      exact ⟨.jsonArgument before after returning onEmpty onError, rfl⟩
    · obtain rfl := JsonBehaviour.eq_of_mem_nodes inEmpty
      exact ⟨.jsonOnEmpty arguments returning onError, rfl⟩
    · obtain rfl := JsonBehaviour.eq_of_mem_nodes inError
      exact ⟨.jsonOnError arguments returning onEmpty, rfl⟩
  case aggregate function arguments distinct =>
    obtain ⟨before, after, rfl⟩ := List.append_of_mem member
    exact ⟨.aggregate function before after distinct, rfl⟩
  case listagg argument distinct separator overflow order =>
    rcases member with rfl | inOrder
    · exact ⟨.listaggArgument distinct separator overflow order, rfl⟩
    · obtain ⟨before, ascending, nullsLast, after, rfl⟩ := eq_of_mem_order inOrder
      exact ⟨.listaggOrder argument distinct separator overflow before ascending nullsLast after,
        rfl⟩
  case groupConcat argument distinct order separator =>
    rcases member with rfl | inOrder
    · exact ⟨.concatArgument distinct order separator, rfl⟩
    · obtain ⟨before, ascending, nullsLast, after, rfl⟩ := eq_of_mem_order inOrder
      exact ⟨.concatOrder argument distinct before ascending nullsLast after separator, rfl⟩
  case orderBy items =>
    obtain ⟨before, ascending, nullsLast, after, rfl⟩ := eq_of_mem_items member
    exact ⟨.orderBy before ascending nullsLast after, rfl⟩
  case groupBy expressions =>
    obtain ⟨before, after, rfl⟩ := List.append_of_mem member
    exact ⟨.groupBy before after, rfl⟩

/-- The nodes of a tree are those that stand at the end of a way from its root.  A statement about a
node anywhere in a tree thus becomes an induction over frames. -/
theorem Node.mem_subnodes_iff {node subnode : Node} :
    subnode ∈ node.subnodes ↔ ∃ way, subnode.inside way = node := by
  constructor
  · induction node using Node.inductionOnChildren with
    | step node inductionHypothesis =>
      rw [Node.subnodes_eq, List.mem_cons, List.mem_flatMap]
      rintro (rfl | ⟨child, member, below⟩)
      · exact ⟨[], rfl⟩
      · obtain ⟨way, rfl⟩ := inductionHypothesis child member below
        obtain ⟨frame, rfl⟩ := Node.exists_frame member
        exact ⟨frame :: way, rfl⟩
  · rintro ⟨way, rfl⟩
    induction way with
    | nil =>
      rw [Node.subnodes_eq]
      exact List.mem_cons_self
    | cons frame way inductionHypothesis =>
      rw [Node.subnodes_eq]
      exact List.mem_cons_of_mem _ (List.mem_flatMap.2
        ⟨_, frame.mem_children_plug _, inductionHypothesis⟩)

end Pushdown
