/-
Module: Pushdown.Proofs.Sql.Exchange
Purpose: Statements of trees that differ at one place.
Main exports: Exchanged, Exchanged.parts_eq, Generator.exchanged_inside, Generator.render_inside
-/
import Pushdown.Proofs.Frame
import Pushdown.Proofs.Sql.Scan
import Pushdown.Proofs.Sql.WellFormed

namespace Pushdown

/-!
The text of a node stands in the text of every tree around it, once or, below the keys that sort by
it, several times.  So the statements of two trees that differ at one place have the text of one
node where the other has that of the other node, and are alike beside it.  Such statements are
equal only if these parts are: the parts are equally long then, and the first of them stand at the
same place.
-/

/-- Lists that are alike but for a part, in whose place the second has another, everywhere or at
least once. -/
inductive Exchanged {α : Type} (part other : List α) : List α → List α → Prop where
  | here : Exchanged part other part other
  | between (before after : List α) {left right : List α}
      (inside : Exchanged part other left right) :
      Exchanged part other (before ++ left ++ after) (before ++ right ++ after)
  | both {left right left' right' : List α} (inFront : Exchanged part other left right)
      (behind : Exchanged part other left' right') :
      Exchanged part other (left ++ left') (right ++ right')

namespace Exchanged

variable {α β : Type} {part other left right : List α}

theorem symm (exchanged : Exchanged part other left right) :
    Exchanged other part right left := by
  induction exchanged with
  | here => exact .here
  | between before after _ inductionHypothesis => exact .between before after inductionHypothesis
  | both _ _ inFront behind => exact .both inFront behind

/-- Parts of one length leave lists of one length. -/
theorem length_eq (exchanged : Exchanged part other left right)
    (same : part.length = other.length) : left.length = right.length := by
  induction exchanged with
  | here => exact same
  | between before after _ inductionHypothesis => simp [inductionHypothesis]
  | both _ _ inFront behind => simp [inFront, behind]

/-- A longer part makes a longer list, however often it occurs.  Two nodes with clauses of different
lengths are thereby told apart in any surroundings. -/
theorem length_lt (exchanged : Exchanged part other left right)
    (shorter : part.length < other.length) : left.length < right.length := by
  induction exchanged with
  | here => exact shorter
  | between before after _ inductionHypothesis =>
    simp only [List.length_append]
    omega
  | both _ _ inFront behind =>
    simp only [List.length_append]
    omega

/-- Lists with different parts are different.  If they were equal, the parts would be equally long,
and the first of them would stand at the same place. -/
theorem parts_eq (exchanged : Exchanged part other left right) (same : left = right) :
    part = other := by
  have sameLength : part.length = other.length := by
    rcases Nat.lt_trichotomy part.length other.length with shorter | equal | longer
    · exact absurd (congrArg List.length same) (Nat.ne_of_lt (exchanged.length_lt shorter))
    · exact equal
    · exact absurd (congrArg List.length same) (Nat.ne_of_gt (exchanged.symm.length_lt longer))
  induction exchanged with
  | here => exact same
  | between before after _ inductionHypothesis =>
    exact inductionHypothesis (List.append_cancel_left (List.append_cancel_right same))
  | both inFront _ inductionHypothesis _ =>
    exact inductionHypothesis (List.append_inj_left same (inFront.length_eq sameLength))

/-- What is written for two lists differs by what is written for the parts. -/
theorem flatMap (exchanged : Exchanged part other left right) (write : α → List β) :
    Exchanged (part.flatMap write) (other.flatMap write) (left.flatMap write)
      (right.flatMap write) := by
  induction exchanged with
  | here => exact .here
  | between before after _ inductionHypothesis =>
    rw [List.flatMap_append, List.flatMap_append, List.flatMap_append, List.flatMap_append]
    exact .between _ _ inductionHypothesis
  | both _ _ inFront behind =>
    rw [List.flatMap_append, List.flatMap_append]
    exact .both inFront behind

theorem before (exchanged : Exchanged part other left right) (after : List α) :
    Exchanged part other (left ++ after) (right ++ after) :=
  .between [] after exchanged

theorem after (exchanged : Exchanged part other left right) (before : List α) :
    Exchanged part other (before ++ left) (before ++ right) := by
  simpa using Exchanged.between before [] exchanged

end Exchanged

/-! ### Parts of statements -/

section Parts

variable {part other left right : Sql}

/-- A part in one of several rows is a part of the whole. -/
theorem Exchanged.separated (exchanged : Exchanged part other left right) (separator : String)
    (before after : List Sql) :
    Exchanged part other (Sql.separated separator (before ++ left :: after))
      (Sql.separated separator (before ++ right :: after)) := by
  induction before with
  | nil =>
    cases after with
    | nil => exact exchanged
    | cons next after =>
      simp only [List.nil_append, Sql.separated_cons_cons]
      exact (exchanged.before _).before _
  | cons first before inductionHypothesis =>
    cases before with
    | nil => exact inductionHypothesis.after _
    | cons second before => exact inductionHypothesis.after _

/-- A condition is written if there is a result for it.  Conditions and results are written by
turns, so one too many would be left out. -/
theorem Exchanged.condition (exchanged : Exchanged part other left right)
    {before after results : List Sql}
    (enough : (before ++ left :: after).length ≤ results.length) :
    Exchanged part other (Sql.branches (before ++ left :: after) results)
      (Sql.branches (before ++ right :: after) results) := by
  induction before generalizing results with
  | nil =>
    cases results with
    | nil => simp at enough
    | cons result results => exact (((exchanged.after _).before _).before _).before _
  | cons condition before inductionHypothesis =>
    cases results with
    | nil => simp at enough
    | cons result results => exact (inductionHypothesis (by simpa using enough)).after _

/-- A result is written if there is a condition before it, or if it is the one for all other
cases. -/
theorem Exchanged.result (exchanged : Exchanged part other left right)
    {conditions before after : List Sql}
    (enough : (before ++ left :: after).length ≤ conditions.length + 1) :
    Exchanged part other (Sql.branches conditions (before ++ left :: after))
      (Sql.branches conditions (before ++ right :: after)) := by
  induction conditions generalizing before with
  | nil =>
    obtain rfl : before = [] := List.eq_nil_of_length_eq_zero (by simp at enough; omega)
    obtain rfl : after = [] := List.eq_nil_of_length_eq_zero (by simpa using enough)
    exact exchanged.after _
  | cons condition conditions inductionHypothesis =>
    cases before with
    | nil => exact (exchanged.after _).before _
    | cons result before => exact (inductionHypothesis (by simpa using enough)).after _

/-- A key shows the expression that it sorts by. -/
theorem Exchanged.sortKey (exchanged : Exchanged part other left right) (key : SortKey) :
    Exchanged part other (key.render left) (key.render right) := by
  obtain ⟨subject, descending, nullsLast⟩ := key
  cases subject with
  | value => exact (exchanged.before _).before _
  | nullIndicator => exact (((exchanged.after _).before _).before _).before _

end Parts

namespace Generator

variable {generator : Generator} {part other : Sql} {left right : Node}

/-- Whether what is written for two nodes differs in one part. -/
abbrev ExchangedIn (generator : Generator) (part other : Sql) (left right : Node) : Prop :=
  Exchanged part other (generator.written left) (generator.written right)

/-- A node among others is written with them. -/
theorem exchanged_each (exchanged : generator.ExchangedIn part other left right)
    (separator : String) (before after : List Node) :
    Exchanged part other
      (Sql.separated separator (generator.writtenEach (before ++ left :: after)))
      (Sql.separated separator (generator.writtenEach (before ++ right :: after))) := by
  simp only [writtenEach_eq_map, List.map_append, List.map_cons]
  exact exchanged.separated separator _ _

/-- An expression of a select list is written with the others. -/
theorem exchanged_selectList (exchanged : generator.ExchangedIn part other left right)
    (before after : List Node) :
    Exchanged part other
      (generator.writtenSelectList (.expressions (before ++ left :: after)))
      (generator.writtenSelectList (.expressions (before ++ right :: after))) := by
  have filled (node : Node) : (before ++ node :: after).isEmpty = false := by simp
  simp only [writtenSelectList, filled]
  exact exchanged_each exchanged ", " before after

/-- An expression stands in the key that sorts by it, and in the key before it if there is one. -/
theorem exchanged_sortItem (exchanged : generator.ExchangedIn part other left right)
    (ascending nullsLast : Bool) :
    Exchanged part other (generator.writtenSortItem (.item left ascending nullsLast))
      (generator.writtenSortItem (.item right ascending nullsLast)) := by
  simp only [writtenSortItem, sortKeys, Dialect.sortKeys, SortForm.keys]
  split <;> simp only [List.map_cons, List.map_nil, Sql.commaSeparated, Sql.separated]
  · exact exchanged.sortKey _
  · exact exchanged.sortKey _
  · exact .both ((exchanged.sortKey _).before _) (exchanged.sortKey _)

/-- A sort item among others is written with them. -/
theorem exchanged_items (exchanged : generator.ExchangedIn part other left right)
    (before after : List SortItem) (ascending nullsLast : Bool) :
    Exchanged part other
      (Sql.commaSeparated
        (generator.writtenSortItems (before ++ .item left ascending nullsLast :: after)))
      (Sql.commaSeparated
        (generator.writtenSortItems (before ++ .item right ascending nullsLast :: after))) := by
  simp only [writtenSortItems_eq_map, List.map_append, List.map_cons]
  exact (exchanged_sortItem exchanged ascending nullsLast).separated ", " _ _

/-- An optional order shows all of its items. -/
theorem exchanged_order (exchanged : generator.ExchangedIn part other left right)
    (opening closing : String) (before after : List SortItem) (ascending nullsLast : Bool) :
    Exchanged part other
      (generator.writtenOrderBetween opening closing
        (some (before ++ .item left ascending nullsLast :: after)))
      (generator.writtenOrderBetween opening closing
        (some (before ++ .item right ascending nullsLast :: after))) :=
  ((exchanged_items exchanged before after ascending nullsLast).after _).before _

/-- A function that takes its arguments has all of them in its text.  An operator shows no more than
one or two, which is where the number of arguments matters. -/
theorem exchanged_scalar (exchanged : generator.ExchangedIn part other left right)
    {function : ScalarFunction} {before after : List Node}
    (arity : SoundArity generator.dialect.aliases function (before ++ left :: after).length) :
    Exchanged part other (generator.written (.scalar function (before ++ left :: after)))
      (generator.written (.scalar function (before ++ right :: after))) := by
  have calls (name : String) : Exchanged part other
      (call name (generator.writtenEach (before ++ left :: after)))
      (call name (generator.writtenEach (before ++ right :: after))) :=
    ((exchanged_each exchanged ", " before after).after _).before _
  unfold SoundArity at arity
  simp only [written]
  cases named : generator.dialect.aliases.scalar function with
  | some name =>
    rw [scalarCall_of_name named, scalarCall_of_name named]
    exact calls name
  | none =>
    specialize arity named
    cases between : generator.dialect.aliases.between function with
    | some operator =>
      -- There are two operands, and the node in question is one of them.
      simp only [between] at arity
      rw [scalarCall_of_between named between, scalarCall_of_between named between]
      rw [List.length_append, List.length_cons] at arity
      cases before with
      | nil =>
        obtain ⟨operand, rfl⟩ :=
          List.length_eq_one_iff.1 (show after.length = 1 by simpa using arity)
        exact (((exchanged.after _).before _).before _).before _
      | cons operand others =>
        rw [List.length_cons] at arity
        obtain rfl := List.eq_nil_of_length_eq_zero (show others.length = 0 by omega)
        obtain rfl := List.eq_nil_of_length_eq_zero (show after.length = 0 by omega)
        exact (exchanged.after _).before _
    | none =>
      cases prefixed : generator.dialect.aliases.before function with
      | some operator =>
        simp only [between, prefixed] at arity
        rw [scalarCall_of_before named between prefixed,
          scalarCall_of_before named between prefixed]
        rw [List.length_append, List.length_cons] at arity
        obtain rfl := List.eq_nil_of_length_eq_zero (show before.length = 0 by omega)
        obtain rfl := List.eq_nil_of_length_eq_zero (show after.length = 0 by omega)
        exact (exchanged.after _).before _
      | none =>
        rw [scalarCall_of_none named between prefixed, scalarCall_of_none named between prefixed]
        -- Without arguments the parentheses could be missing; here there is one at least.
        have filled (node : Node) :
            (generator.writtenEach (before ++ node :: after)).isEmpty = false := by
          simp [writtenEach_eq_map]
        simp only [filled, Bool.false_and, Bool.false_eq_true, if_false]
        exact calls function.name

/-- Arguments are put in parentheses exactly where several of them are counted that need not be
distinct. -/
theorem aggregateArguments_eq (function : AggregateFunction) (distinct : Bool)
    {arguments : List Sql} (filled : arguments ≠ []) :
    aggregateArguments function distinct arguments =
      if function = .count ∧ 1 < arguments.length ∧ distinct = false then
        Sql.code "(" ++ Sql.commaSeparated arguments ++ Sql.code ")"
      else Sql.commaSeparated arguments := by
  match arguments, filled with
  | [argument], _ => cases function <;> simp [aggregateArguments]
  | first :: second :: rest, _ =>
    cases function <;> cases distinct <;> simp [aggregateArguments]

/-- An aggregate function has all of its arguments in its text. -/
theorem exchanged_aggregate (exchanged : generator.ExchangedIn part other left right)
    (function : AggregateFunction) (distinct : Bool) (before after : List Node) :
    Exchanged part other
      (aggregateArguments function distinct (generator.writtenEach (before ++ left :: after)))
      (aggregateArguments function distinct
        (generator.writtenEach (before ++ right :: after))) := by
  have filled (node : Node) : generator.writtenEach (before ++ node :: after) ≠ [] := by
    simp [writtenEach_eq_map]
  have sameLength : (generator.writtenEach (before ++ left :: after)).length =
      (generator.writtenEach (before ++ right :: after)).length := by
    simp [writtenEach_eq_map]
  have each := exchanged_each exchanged ", " before after
  rw [aggregateArguments_eq function distinct (filled left),
    aggregateArguments_eq function distinct (filled right), sameLength]
  split
  · exact (each.after _).before _
  · exact each

/-- What is written for a node in a frame that has a form is in what is written for the whole. -/
theorem exchanged_plug (exchanged : generator.ExchangedIn part other left right) (frame : Frame)
    (sound : generator.Sound (frame.plug left)) :
    generator.ExchangedIn part other (frame.plug left) (frame.plug right) := by
  unfold ExchangedIn
  cases frame with
  | selectColumn before after source filter grouping having order limit =>
    have list := exchanged_selectList exchanged before after
    exact (((((((list.after _).before _).before _).before _).before _).before _).before _).before _
  | selectSource list filter grouping having order limit =>
    exact (((((exchanged.after _).before _).before _).before _).before _).before _
  | selectFilter list source grouping having order limit =>
    exact (((((exchanged.after _).after _).before _).before _).before _).before _
  | selectGrouping list source filter before after having order limit =>
    have grouping := (exchanged_each exchanged ", " before after).after (Sql.code " GROUP BY ")
    exact (((grouping.after _).before _).before _).before _
  | selectHaving list source filter grouping order limit =>
    exact (((exchanged.after _).after _).before _).before _
  | selectOrder list source filter grouping having before ascending nullsLast after limit =>
    exact ((exchanged_order exchanged " ORDER BY " "" before after ascending nullsLast).after
      _).before _
  | listColumn before after => exact exchanged_selectList exchanged before after
  | joinLeft type right condition =>
    exact (((exchanged.before _).before _).before _).before _
  | joinRight type left condition => exact ((exchanged.after _).before _).before _
  | joinCondition type left right => exact exchanged.after _
  | junction connective before after =>
    exact ((exchanged_each exchanged _ before after).after _).before _
  | not => exact (exchanged.after _).before _
  | comparisonLeft operator right => exact (exchanged.before _).before _
  | comparisonRight operator left => exact exchanged.after _
  | betweenExpression lower upper =>
    exact (((exchanged.before _).before _).before _).before _
  | betweenLower expression upper => exact ((exchanged.after _).before _).before _
  | betweenUpper expression lower => exact exchanged.after _
  | likeExpression pattern escape => exact ((exchanged.before _).before _).before _
  | likePattern expression escape => exact (exchanged.after _).before _
  | likeEscape expression pattern => exact (exchanged.after _).after _
  | regexpExpression pattern => exact (exchanged.before _).before _
  | regexpPattern expression => exact exchanged.after _
  | inListExpression candidates => exact ((exchanged.before _).before _).before _
  | inListCandidate expression before after =>
    exact ((exchanged_each exchanged ", " before after).after _).before _
  | isNull negated => exact exchanged.before _
  | isJson negated shape keys => exact exchanged.before _
  | scalar function before after => exact exchanged_scalar exchanged sound.2
  | cast type => exact (((exchanged.after _).before _).before _).before _
  | extract field => exact (exchanged.after _).before _
  | caseBasis conditions results =>
    exact (((exchanged.after _).after _).before _).before _
  | caseCondition basis before after results =>
    have enough := sound.2
    simp only [Frame.plug, written, writtenEach_eq_map, List.map_append, List.map_cons]
    refine ((exchanged.condition ?_).after _).before _
    simp only [List.length_append, List.length_cons, List.length_map] at enough ⊢
    omega
  | caseResult basis conditions before after =>
    have enough := sound.2
    simp only [Frame.plug, written, writtenEach_eq_map, List.map_append, List.map_cons]
    refine ((exchanged.result ?_).after _).before _
    simp only [List.length_append, List.length_cons, List.length_map] at enough ⊢
    omega
  | jsonArgument before after returning onEmpty onError =>
    have each := exchanged_each exchanged ", " before after
    exact (((((((each.after _).before _).before _).before _).before _).before _).before _).before _
  | jsonOnEmpty arguments returning onError =>
    exact ((((exchanged.after _).after _).before _).before _).before _
  | jsonOnError arguments returning onEmpty =>
    exact ((exchanged.after _).after _).before _
  | aggregate function before after distinct =>
    exact ((exchanged_aggregate exchanged function distinct before after).after _).before _
  | listaggArgument distinct separator overflow order =>
    exact ((((((exchanged.after _).before _).before _).before _).before _).before _)
  | listaggOrder argument distinct separator overflow before ascending nullsLast after =>
    exact (exchanged_order exchanged _ _ before after ascending nullsLast).after _
  | concatArgument distinct order separator =>
    exact (((exchanged.after _).before _).before _).before _
  | concatOrder argument distinct before ascending nullsLast after separator =>
    exact (((exchanged_order exchanged _ _ before after ascending nullsLast).after _).before
      _).before _
  | orderBy before ascending nullsLast after =>
    exact (exchanged_items exchanged before after ascending nullsLast).after _
  | groupBy before after => exact exchanged_each exchanged ", " before after

/-- What is written for a node in a well-formed tree is in what is written for the tree, at least
once and wherever the tree repeats the node. -/
theorem exchanged_inside (exchanged : generator.ExchangedIn part other left right)
    {way : List Frame} (wellFormed : generator.WellFormed (left.inside way)) :
    generator.ExchangedIn part other (left.inside way) (right.inside way) := by
  induction way with
  | nil => exact exchanged
  | cons frame way inductionHypothesis =>
    obtain ⟨sound, children⟩ := (generator.wellFormed_iff _).1 wellFormed
    have inner := inductionHypothesis (children _ (frame.mem_children_plug _))
    exact exchanged_plug inner frame sound

/-! ### Renderings -/

/-- A frame does not look into the node that is plugged into it.  Its rendering is a function of
what the node is rendered as. -/
theorem render_plug (same : generator.render left = generator.render right) (frame : Frame) :
    generator.render (frame.plug left) = generator.render (frame.plug right) := by
  cases frame <;>
    simp [Frame.plug, render, renderEach_eq_map, renderSortItems_eq_map, renderSelectList,
      renderAfter, renderGroupingAfter, renderOrderBetween, renderSortItem, renderBehaviour, same]

/-- Trees that differ at one place are rendered alike if the nodes at this place are: nothing above
a node looks at more than its rendering. -/
theorem render_inside (same : generator.render left = generator.render right)
    (way : List Frame) :
    generator.render (left.inside way) = generator.render (right.inside way) := by
  induction way with
  | nil => exact same
  | cons frame way inductionHypothesis => exact render_plug inductionHypothesis frame

end Generator

end Pushdown
