/-
Module: Pushdown.Proofs.Sql.RowLimit
Purpose: Which limits on rows a statement tells apart.
Main exports: LimitForm.clause_eq_iff, LimitPlace, Generator.row_limit_lost_iff,
  Generator.offset_lost
-/
import Pushdown.Proofs.DataType
import Pushdown.Proofs.Dialect
import Pushdown.Proofs.Sql.Exchange

namespace Pushdown

/-!
A tree holds a limit as the last part of a select or as a node of its own.  Two trees that differ
in one limit have the clauses of both limits for exchanged parts, so their statements are told
apart as far as the clauses are.  A clause tells its limit, but for `TOP`, which has no word for
an offset.  A select refuses what its clause cannot tell; a node of its own does not.
-/

/-! ### Clauses -/

theorem toDigits_injective {n m : Nat} (same : Nat.toDigits 10 n = Nat.toDigits 10 m) : n = m :=
  (digits_append_injective (by simp) (by simp) (congrArg (· ++ []) same)).1

/-- What follows the number of rows after `LIMIT`. -/
def offsetWords (offset : Nat) : List Char :=
  if offset = 0 then [] else " OFFSET ".toList ++ Nat.toDigits 10 offset

/-- The clause of most dialects is a keyword, a number and words for the offset. -/
theorem toList_clause_limit (limit : RowLimit) :
    (LimitForm.limit.clause limit).toList =
      "LIMIT ".toList ++ (Nat.toDigits 10 limit.count ++ offsetWords limit.offset) := by
  simp only [LimitForm.clause, offsetWords]
  split <;>
    simp only [String.toList_append, Nat.toList_repr, List.append_assoc, List.append_nil]

/-- The words for an offset tell it.  An offset of zero has none. -/
theorem offsetWords_injective {offset other : Nat} (same : offsetWords offset = offsetWords other) :
    offset = other := by
  unfold offsetWords at same
  split at same <;> split at same
  · omega
  · cases same
  · cases same
  · exact toDigits_injective (List.append_cancel_left same)

/-- The words for an offset do not go on with the digits of the count. -/
theorem offsetWords_stops (offset : Nat) : ∀ c ∈ (offsetWords offset).head?, c.isDigit = false := by
  unfold offsetWords
  split
  · simp
  · intro c first
    obtain rfl : ' ' = c := Option.some.inj first
    rfl

/-- The standard clause has the count behind the offset, and other words if there is no offset. -/
theorem toList_clause_fetch (limit : RowLimit) :
    (LimitForm.fetch.clause limit).toList =
      if limit.offset = 0 then
        "FETCH FIRST ".toList ++ (Nat.toDigits 10 limit.count ++ ' ' :: "ROWS ONLY".toList)
      else
        "OFFSET ".toList ++ (Nat.toDigits 10 limit.offset ++ ' ' :: ("ROWS FETCH NEXT ".toList ++
          (Nat.toDigits 10 limit.count ++ ' ' :: "ROWS ONLY".toList))) := by
  simp only [LimitForm.clause]
  split <;>
    simp only [String.toList_append, Nat.toList_repr, List.append_assoc, String.reduceToList,
      List.cons_append, List.nil_append]

/-- A clause tells the number of rows and, unless it is `TOP`, the offset.  With `TOP`, limits that
differ in their offsets alone are written alike. -/
theorem LimitForm.clause_eq_iff (form : LimitForm) (first second : RowLimit) :
    form.clause first = form.clause second ↔
      first.count = second.count ∧ (form = .top ∨ first.offset = second.offset) := by
  constructor
  · intro same
    have chars := congrArg String.toList same
    cases form with
    | limit =>
      rw [toList_clause_limit, toList_clause_limit] at chars
      obtain ⟨sameCount, words⟩ := digits_append_injective (offsetWords_stops _)
        (offsetWords_stops _) (List.append_cancel_left chars)
      exact ⟨sameCount, .inr (offsetWords_injective words)⟩
    | fetch =>
      rw [toList_clause_fetch, toList_clause_fetch] at chars
      split at chars <;> split at chars
      next noOffset noOtherOffset =>
        have counts := DataType.digits_cons_injective (List.append_cancel_left chars) (by decide)
        exact ⟨counts.1, .inr (noOffset.trans noOtherOffset.symm)⟩
      next => cases chars
      next => cases chars
      next =>
        obtain ⟨sameOffset, words⟩ :=
          DataType.digits_cons_injective (List.append_cancel_left chars) (by decide)
        have counts := DataType.digits_cons_injective (List.append_cancel_left words) (by decide)
        exact ⟨counts.1, .inr sameOffset⟩
    | top =>
      simp only [clause, String.toList_append, Nat.toList_repr] at chars
      exact ⟨toDigits_injective (List.append_cancel_left chars), .inl rfl⟩
  · rintro ⟨sameCount, isTop | sameOffset⟩
    · rw [isTop, clause, clause, sameCount]
    · obtain ⟨count, offset⟩ := first
      obtain ⟨otherCount, otherOffset⟩ := second
      obtain rfl : count = otherCount := sameCount
      obtain rfl : offset = otherOffset := sameOffset
      rfl

/-! ### Places -/

/-- The places of a tree that hold a limit: a node of its own, and the last part of a select. -/
inductive LimitPlace where
  | node
  | clause (list : SelectList) (source : Node) (filter : Option Node)
      (grouping : Option (List Node)) (having : Option Node) (order : Option (List SortItem))

/-- The node that holds a limit at a place. -/
def LimitPlace.holding (limit : RowLimit) : LimitPlace → Node
  | .node => .limit limit
  | .clause list source filter grouping having order =>
    .select list source filter grouping having order (some limit)

namespace Generator

variable {generator : Generator} {first second : RowLimit}

/-- Nodes with a limit are written with its clause, and are alike beside it.  A limit can be told
from the text if it can be told from the clause. -/
theorem exchanged_holding (place : LimitPlace)
    (firstSound : generator.Sound (place.holding first))
    (secondSound : generator.Sound (place.holding second)) :
    ∃ part other, generator.ExchangedIn part other (place.holding first) (place.holding second) ∧
      (Sql.chars part = Sql.chars other →
        generator.dialect.limitForm.clause first = generator.dialect.limitForm.clause second) := by
  have code_chars (text : String) : Sql.chars (Sql.code text) = text.toList := by
    simp [Sql.chars, Sql.code, Span.chars]
  cases place with
  | node =>
    refine ⟨_, _, .here, fun same => ?_⟩
    apply String.toList_inj.1
    simpa [LimitPlace.holding, written, code_chars] using same
  | clause list source filter grouping having order =>
    cases position : generator.dialect.limitForm.position with
    | trailing =>
      -- The clause is the last part of the select.
      have leading (limit : RowLimit) : settledSql (generator.leadingLimit (some limit)) = [] := by
        simp [leadingLimit, position, settledSql]
      have trailing (limit : RowLimit) : generator.trailingLimit (some limit) =
          Sql.code (" " ++ generator.dialect.limitForm.clause limit) := by
        simp [trailingLimit, position]
      refine ⟨Sql.code (" " ++ generator.dialect.limitForm.clause first),
        Sql.code (" " ++ generator.dialect.limitForm.clause second), ?_, fun same => ?_⟩
      · simp only [ExchangedIn, LimitPlace.holding, written, leading, trailing]
        exact Exchanged.here.after _
      · apply String.toList_inj.1
        simpa [code_chars] using same
    | afterSelect =>
      -- The clause is the first part behind the keyword, and a sound node has no offset there.
      have noOffset := firstSound.1 position first rfl
      have noOtherOffset := secondSound.1 position second rfl
      have leading {limit : RowLimit} (noOffset : limit.offset = 0) :
          settledSql (generator.leadingLimit (some limit)) =
            Sql.code (generator.dialect.limitForm.clause limit ++ " ") := by
        simp [leadingLimit, position, settledSql, noOffset]
      have trailing (limit : RowLimit) : generator.trailingLimit (some limit) = [] := by
        simp [trailingLimit, position]
      refine ⟨Sql.code (generator.dialect.limitForm.clause first ++ " "),
        Sql.code (generator.dialect.limitForm.clause second ++ " "), ?_, fun same => ?_⟩
      · simp only [ExchangedIn, LimitPlace.holding, written, leading noOffset,
          leading noOtherOffset, trailing]
        exact ((((((((Exchanged.here.after _).before _).before _).before _).before _).before
          _).before _).before _).before _
      · apply String.toList_inj.1
        simpa [code_chars] using same

/-- A node in a well-formed tree is sound wherever it is.  Soundness of a limit is thus given by the
statement around it. -/
theorem sound_of_inside {node : Node} {way : List Frame}
    (wellFormed : generator.WellFormed (node.inside way)) : generator.Sound node :=
  wellFormed node (Node.mem_subnodes_iff.2 ⟨way, rfl⟩)

/-- Trees that differ in one limit and are written alike have equal clauses for both limits. -/
theorem clause_eq_of_alike {way : List Frame} {place : LimitPlace}
    (firstFormed : generator.WellFormed ((place.holding first).inside way))
    (secondFormed : generator.WellFormed ((place.holding second).inside way))
    (same : (generator.written ((place.holding first).inside way)).toText =
      (generator.written ((place.holding second).inside way)).toText) :
    generator.dialect.limitForm.clause first = generator.dialect.limitForm.clause second := by
  obtain ⟨part, other, exchanged, told⟩ :=
    exchanged_holding place (sound_of_inside firstFormed) (sound_of_inside secondFormed)
  have inTrees := (exchanged_inside exchanged firstFormed).flatMap Span.chars
  exact told (inTrees.parts_eq (String.ofList_inj.1 same))

/-- Whether two trees have statements with the same text. -/
def WrittenAlike (generator : Generator) (left right : Node) : Prop :=
  ∃ sql other, generator.statement left = .ok sql ∧ generator.statement right = .ok other ∧
    sql.toText = other.toText

/-- The only dialect of the library that writes its limit behind SELECT without a word for offsets
is SQL Server. -/
theorem top_iff_of_builtin {dialect : Dialect} (builtin : dialect.IsBuiltin) :
    dialect.limitForm = .top ↔ dialect = .sqlserver := by
  constructor
  · intro isTop
    rcases builtin.cases with rfl | rfl | rfl | ⟨identifierCase, rfl⟩ | rfl
    · cases isTop
    · cases isTop
    · cases isTop
    · cases isTop
    · rfl
  · rintro rfl
    rfl

/-- Which limits on rows a statement does not tell: two trees that differ in one limit have
statements with the same text exactly if they have statements at all, the dialect is that of SQL
Server, the limit is a node of its own, and only the offset differs. -/
theorem row_limit_lost_iff {dialect : Dialect} (builtin : dialect.IsBuiltin)
    (context : QueryContext) (depth : Nat) (way : List Frame) (place : LimitPlace)
    {first second : RowLimit} (different : first ≠ second) :
    (dialect.generator context depth).WrittenAlike ((place.holding first).inside way)
        ((place.holding second).inside way) ↔
      (∃ sql, (dialect.generator context depth).statement ((place.holding first).inside way) =
        .ok sql) ∧
      dialect = .sqlserver ∧ place = .node ∧ first.count = second.count := by
  rw [← top_iff_of_builtin builtin]
  have notSame (sameCount : first.count = second.count) : first.offset ≠ second.offset := by
    intro sameOffset
    cases first
    cases second
    cases sameCount
    cases sameOffset
    exact different rfl
  constructor
  · rintro ⟨sql, other, rendered, otherRendered, same⟩
    obtain ⟨firstFormed, -, rfl⟩ := (statement_eq_ok_iff _ _ _).1 rendered
    obtain ⟨secondFormed, -, rfl⟩ := (statement_eq_ok_iff _ _ _).1 otherRendered
    have clauses := clause_eq_of_alike firstFormed secondFormed same
    obtain ⟨sameCount, isTop | sameOffset⟩ := (LimitForm.clause_eq_iff _ _ _).1 clauses
    · refine ⟨⟨_, rendered⟩, isTop, ?_, sameCount⟩
      cases place with
      | node => rfl
      | clause list source filter grouping having order =>
        -- A select with `TOP` has no offset, so nothing is left in which the limits differ.
        have leads : dialect.limitForm.position = .afterSelect := congrArg LimitForm.position isTop
        have noOffset := (sound_of_inside firstFormed).1 leads first rfl
        have noOtherOffset := (sound_of_inside secondFormed).1 leads second rfl
        exact absurd (noOffset.trans noOtherOffset.symm) (notSame sameCount)
    · exact absurd sameOffset (notSame sameCount)
  · rintro ⟨⟨sql, rendered⟩, isTop, rfl, sameCount⟩
    have sameClause := (LimitForm.clause_eq_iff dialect.limitForm first second).2
      ⟨sameCount, .inl isTop⟩
    have sameNode : (dialect.generator context depth).render (.limit first) =
        (dialect.generator context depth).render (.limit second) := by
      simp only [render, Dialect.generator, sameClause]
    have sameTree := render_inside sameNode way
    refine ⟨sql, sql, rendered, ?_, rfl⟩
    rw [← rendered]
    simp only [statement, renderFrom, LimitPlace.holding, sameTree]

/-- A select in a sort key, which is written twice, under one limit or ten times that. -/
def sortedByLimited (limit : RowLimit) : Node :=
  (LimitPlace.clause .star (.table ⟨"T", none⟩) none none none none).holding limit |>.inside
    [.orderBy [] true true []]

/-- A limit within a sort key, written twice there, is told apart like any other. -/
theorem row_limit_lost_iff_twice :
    Dialect.mysql.IsBuiltin ∧ (⟨1, 0⟩ : RowLimit) ≠ ⟨10, 0⟩ ∧
      (∃ sql, (Dialect.mysql.generator {} 3).statement (sortedByLimited ⟨1, 0⟩) = .ok sql) ∧
      ¬ (Dialect.mysql.generator {} 3).WrittenAlike (sortedByLimited ⟨1, 0⟩)
        (sortedByLimited ⟨10, 0⟩) := by
  have builtin : Dialect.mysql.IsBuiltin := ⟨"MySQL", .empty, rfl⟩
  have different : (⟨1, 0⟩ : RowLimit) ≠ ⟨10, 0⟩ := by decide
  refine ⟨builtin, different, ⟨_, rfl⟩, fun alike => ?_⟩
  obtain ⟨-, isSqlserver, -⟩ := (row_limit_lost_iff builtin {} 3 _ _ different).1 alike
  exact absurd (congrArg Dialect.name isSqlserver) (by decide)

/-- A limit of its own loses its offset in SQL Server, although a select with the same limit is
refused. -/
theorem offset_lost :
    ¬ ∀ (dialect : Dialect) (context : QueryContext) (depth : Nat) (way : List Frame)
      (place : LimitPlace) (first second : RowLimit), dialect.IsBuiltin → first ≠ second →
      ¬ (dialect.generator context depth).WrittenAlike ((place.holding first).inside way)
        ((place.holding second).inside way) := by
  intro told
  have builtin : Dialect.sqlserver.IsBuiltin := ⟨"SQLServer", .empty, rfl⟩
  exact told .sqlserver {} 1 [] .node ⟨5, 3⟩ ⟨5, 0⟩ builtin (by decide) ⟨_, _, rfl, rfl, rfl⟩

end Generator

end Pushdown
