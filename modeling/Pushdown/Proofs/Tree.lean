/-
Module: Pushdown.Proofs.Tree
Purpose: Trees as nodes with children: induction, all nodes of a tree, and its height.
Main exports: Node.children, Node.inductionOnChildren, Node.subnodes, Node.height
-/
import Pushdown.Tree

namespace Pushdown

/-!
The nodes of a tree hold others in lists, options, select lists, sort items and JSON behaviours.
For most laws it matters only which nodes stand directly below a node, so `Node.children` lists
them once, in the order in which they are written, and induction goes over children.
-/

/-- The nodes of a select list. -/
def SelectList.nodes : SelectList → List Node
  | .anyValue => []
  | .star => []
  | .expressions parts => parts

/-- The node of a sort item. -/
def SortItem.node : SortItem → Node
  | .item expression _ _ => expression

/-- The node that is answered instead of a value, if there is one. -/
def JsonBehaviour.nodes : JsonBehaviour → List Node
  | .null => []
  | .error => []
  | .default value => [value]

/-- The nodes directly below a node. -/
def Node.children : Node → List Node
  | .select list source filter grouping having order _ =>
    list.nodes ++ source :: (filter.toList ++ (grouping.getD [] ++ (having.toList ++
      (order.getD []).map SortItem.node)))
  | .selectList list => list.nodes
  | .column _ => []
  | .table _ => []
  | .join _ left right condition => [left, right, condition]
  | .junction _ operands => operands
  | .not operand => [operand]
  | .comparison _ left right => [left, right]
  | .between expression lower upper => [expression, lower, upper]
  | .like expression pattern escape => expression :: pattern :: escape.toList
  | .regexpLike expression pattern => [expression, pattern]
  | .inList expression candidates => expression :: candidates
  | .isNull _ operand => [operand]
  | .isJson _ expression _ _ => [expression]
  | .scalar _ arguments => arguments
  | .cast expression _ => [expression]
  | .extract _ expression => [expression]
  | .caseWhen basis conditions results => basis.toList ++ (conditions ++ results)
  | .jsonValue arguments _ onEmpty onError => arguments ++ (onEmpty.nodes ++ onError.nodes)
  | .aggregate _ arguments _ => arguments
  | .listagg argument _ _ _ order => argument :: (order.getD []).map SortItem.node
  | .groupConcat argument _ order _ => argument :: (order.getD []).map SortItem.node
  | .literal _ => []
  | .orderBy items => items.map SortItem.node
  | .groupBy expressions => expressions
  | .limit _ => []

/-! ### Children are smaller -/

theorem SelectList.sizeOf_mem_nodes {list : SelectList} {node : Node}
    (member : node ∈ list.nodes) : sizeOf node < sizeOf list := by
  cases list with
  | anyValue => cases member
  | star => cases member
  | expressions parts =>
    have smaller : sizeOf node < sizeOf parts := List.sizeOf_lt_of_mem member
    simp only [SelectList.expressions.sizeOf_spec]
    omega

theorem JsonBehaviour.sizeOf_mem_nodes {behaviour : JsonBehaviour} {node : Node}
    (member : node ∈ behaviour.nodes) : sizeOf node < sizeOf behaviour := by
  cases behaviour with
  | null => cases member
  | error => cases member
  | default value =>
    simp only [JsonBehaviour.nodes, List.mem_singleton] at member
    subst member
    simp

theorem sizeOf_mem_items {items : List SortItem} {node : Node}
    (member : node ∈ items.map SortItem.node) : sizeOf node < sizeOf items := by
  obtain ⟨item, here, rfl⟩ := List.mem_map.1 member
  have smaller : sizeOf item < sizeOf items := List.sizeOf_lt_of_mem here
  cases item
  simp only [SortItem.node, SortItem.item.sizeOf_spec] at smaller ⊢
  omega

theorem sizeOf_mem_order {order : Option (List SortItem)} {node : Node}
    (member : node ∈ (order.getD []).map SortItem.node) : sizeOf node < sizeOf order := by
  cases order with
  | none => cases member
  | some items =>
    have smaller := sizeOf_mem_items member
    simp only [Option.getD_some, Option.some.sizeOf_spec] at smaller ⊢
    omega

theorem sizeOf_mem_grouping {grouping : Option (List Node)} {node : Node}
    (member : node ∈ grouping.getD []) : sizeOf node < sizeOf grouping := by
  cases grouping with
  | none => cases member
  | some expressions =>
    have smaller : sizeOf node < sizeOf expressions := List.sizeOf_lt_of_mem member
    simp only [Option.some.sizeOf_spec]
    omega

theorem sizeOf_mem_option {option : Option Node} {node : Node} (member : node ∈ option.toList) :
    sizeOf node < sizeOf option := by
  cases option with
  | none => cases member
  | some other =>
    simp only [Option.toList_some, List.mem_singleton] at member
    subst member
    simp

/-- Children are smaller than their node, so that a recursion over children ends.  It is the only
place where the recursion through lists of nodes has to be looked at. -/
theorem Node.sizeOf_mem_children {node child : Node} (member : child ∈ node.children) :
    sizeOf child < sizeOf node := by
  cases node <;>
    simp only [Node.children, List.mem_append, List.mem_cons, List.not_mem_nil, or_false]
      at member <;>
    simp only [Node.select.sizeOf_spec, Node.selectList.sizeOf_spec, Node.join.sizeOf_spec,
      Node.junction.sizeOf_spec, Node.not.sizeOf_spec, Node.comparison.sizeOf_spec,
      Node.between.sizeOf_spec, Node.like.sizeOf_spec, Node.regexpLike.sizeOf_spec,
      Node.inList.sizeOf_spec, Node.isNull.sizeOf_spec, Node.isJson.sizeOf_spec,
      Node.scalar.sizeOf_spec, Node.cast.sizeOf_spec, Node.extract.sizeOf_spec,
      Node.caseWhen.sizeOf_spec, Node.jsonValue.sizeOf_spec, Node.aggregate.sizeOf_spec,
      Node.listagg.sizeOf_spec, Node.groupConcat.sizeOf_spec, Node.orderBy.sizeOf_spec,
      Node.groupBy.sizeOf_spec]
  case select =>
    rcases member with inList | rfl | inFilter | inGrouping | inHaving | inOrder
    · have := SelectList.sizeOf_mem_nodes inList
      omega
    · omega
    · have := sizeOf_mem_option inFilter
      omega
    · have := sizeOf_mem_grouping inGrouping
      omega
    · have := sizeOf_mem_option inHaving
      omega
    · have := sizeOf_mem_order inOrder
      omega
  case selectList =>
    have := SelectList.sizeOf_mem_nodes member
    omega
  case like =>
    rcases member with rfl | rfl | inEscape
    · omega
    · omega
    · have := sizeOf_mem_option inEscape
      omega
  case inList =>
    rcases member with rfl | inCandidates
    · omega
    · have := List.sizeOf_lt_of_mem inCandidates
      omega
  case junction | scalar | aggregate | groupBy =>
    have := List.sizeOf_lt_of_mem member
    omega
  case caseWhen =>
    rcases member with inBasis | inConditions | inResults
    · have := sizeOf_mem_option inBasis
      omega
    · have := List.sizeOf_lt_of_mem inConditions
      omega
    · have := List.sizeOf_lt_of_mem inResults
      omega
  case jsonValue =>
    rcases member with inArguments | inEmpty | inError
    · have := List.sizeOf_lt_of_mem inArguments
      omega
    · have := JsonBehaviour.sizeOf_mem_nodes inEmpty
      omega
    · have := JsonBehaviour.sizeOf_mem_nodes inError
      omega
  case listagg | groupConcat =>
    rcases member with rfl | inOrder
    · omega
    · have := sizeOf_mem_order inOrder
      omega
  case orderBy =>
    have := sizeOf_mem_items member
    omega
  all_goals
    first
    | obtain rfl := member
      omega
    | obtain rfl | rfl := member <;> omega
    | obtain rfl | rfl | rfl := member <;> omega

/-- Induction over trees: what holds of a node whenever it holds of its children holds of all.  The
nodes below may stand in lists, options and sort items, which this one principle takes together. -/
theorem Node.inductionOnChildren {motive : Node → Prop}
    (step : ∀ node, (∀ child ∈ node.children, motive child) → motive node) (node : Node) :
    motive node :=
  step node fun child _ => Node.inductionOnChildren step child
termination_by sizeOf node
decreasing_by exact Node.sizeOf_mem_children ‹_›

/-! ### All nodes, and the height -/

/-- The greatest of several heights, none being zero. -/
def greatest (heights : List Nat) : Nat := heights.foldr max 0

/-- All nodes of a tree, its own root first. -/
def Node.subnodes (node : Node) : List Node :=
  node :: node.children.attach.flatMap fun child => child.1.subnodes
termination_by sizeOf node
decreasing_by exact Node.sizeOf_mem_children child.2

/-- The nodes of a tree are its root and those of the trees below it. -/
theorem Node.subnodes_eq (node : Node) :
    node.subnodes = node :: node.children.flatMap Node.subnodes := by
  rw [Node.subnodes]
  simp [List.flatMap_def]

/-- What holds of all nodes of a tree holds of its root and of all nodes below each child. -/
theorem Node.forall_subnodes_iff (holds : Node → Prop) (node : Node) :
    (∀ subnode ∈ node.subnodes, holds subnode) ↔
      holds node ∧ ∀ child ∈ node.children, ∀ subnode ∈ child.subnodes, holds subnode := by
  rw [Node.subnodes_eq node, List.forall_mem_cons, List.forall_mem_flatMap]

/-- What some node of a tree has, its root has or a node below one of its children.  Conditions on
all or on some nodes are unfolded level by level with it. -/
theorem Node.exists_subnodes_iff (holds : Node → Prop) (node : Node) :
    (∃ subnode ∈ node.subnodes, holds subnode) ↔
      holds node ∨ ∃ child ∈ node.children, ∃ subnode ∈ child.subnodes, holds subnode := by
  have none := not_congr (node.forall_subnodes_iff fun subnode => ¬ holds subnode)
  simpa only [Classical.not_and_iff_not_or_not, Classical.not_forall, Classical.not_not,
    exists_prop] using none

/-- The number of nodes on the longest way down a tree. -/
def Node.height (node : Node) : Nat :=
  greatest (node.children.attach.map fun child => child.1.height) + 1
termination_by sizeOf node
decreasing_by exact Node.sizeOf_mem_children child.2

/-- A tree is one level higher than the highest tree below its root. -/
theorem Node.height_eq (node : Node) :
    node.height = greatest (node.children.map Node.height) + 1 := by
  rw [Node.height]
  simp

theorem Node.height_pos (node : Node) : 0 < node.height := by
  rw [Node.height_eq]
  exact Nat.succ_pos _

@[simp]
theorem greatest_nil : greatest [] = 0 := rfl

@[simp]
theorem greatest_cons (height : Nat) (heights : List Nat) :
    greatest (height :: heights) = max height (greatest heights) := rfl

@[simp]
theorem greatest_append (left right : List Nat) :
    greatest (left ++ right) = max (greatest left) (greatest right) := by
  induction left with
  | nil => simp
  | cons height heights inductionHypothesis =>
    simp [inductionHypothesis, Nat.max_assoc]

/-- No node is higher than the highest of several. -/
theorem Node.height_le_greatest {node : Node} {nodes : List Node} (member : node ∈ nodes) :
    node.height ≤ greatest (nodes.map Node.height) := by
  induction nodes with
  | nil => cases member
  | cons first rest inductionHypothesis =>
    rw [List.map_cons, greatest_cons]
    rcases List.mem_cons.1 member with rfl | later
    · exact Nat.le_max_left _ _
    · exact Nat.le_trans (inductionHypothesis later) (Nat.le_max_right _ _)

theorem greatest_le {heights : List Nat} {bound : Nat} (each : ∀ height ∈ heights, height ≤ bound) :
    greatest heights ≤ bound := by
  induction heights with
  | nil => exact Nat.zero_le _
  | cons height heights inductionHypothesis =>
    rw [List.forall_mem_cons] at each
    exact Nat.max_le.2 ⟨each.1, inductionHypothesis each.2⟩

end Pushdown
