/-
Module: Pushdown.Proofs.Sql.Comment
Purpose: Where SQL opens a comment, and which trees have a statement with a comment in it.
Main exports: Meet, Text.Neutral, Sql.Commenting, Node.LeadsWithMinus, Node.NegatesNegative,
  Generator.written_commenting, Generator.statement_comment_iff
-/
import Mathlib.Data.List.Chain
import Pushdown.Proofs.Sql.Legible

namespace Pushdown

/-! ## Pairs of characters

A comment starts where two hyphens meet, or a slash and an asterisk.  Such a pair can stand in one
part of a statement or at the seam of two, so it is enough to know of each part whether a pair is in
it, what it starts with and what it ends with.  `Sql.Commenting` is what has to be known, and the
ways in which SQL is put together keep it.
-/

/-- Whether a character stands right before another one, both outside of quoted texts. -/
def Meet (first second : Char) (lexemes : List Lexeme) : Prop :=
  [.plain first, .plain second] <:+: lexemes

instance (first second : Char) (lexemes : List Lexeme) : Decidable (Meet first second lexemes) :=
  inferInstanceAs (Decidable ([.plain first, .plain second] <:+: lexemes))

/-- A pair stands in a list if not all neighbours differ from it. -/
theorem pair_isInfix_iff {α : Type} {first second : α} {list : List α} :
    [first, second] <:+: list ↔
      ¬ list.IsChain fun left right => ¬ (left = first ∧ right = second) := by
  rw [List.isChain_iff_forall_rel_of_append_cons_cons]
  constructor
  · rintro ⟨before, after, rfl⟩ apart
    have here : before ++ [first, second] ++ after = before ++ first :: second :: after := by simp
    exact apart here ⟨rfl, rfl⟩
  · intro together
    simp only [not_forall, not_not] at together
    obtain ⟨left, right, before, after, rfl, rfl, rfl⟩ := together
    exact ⟨before, after, by simp⟩

/-- A pair stands in two lists in a row if it stands in one of them or at the seam.  Text is put
together from parts, so seams are where comments are opened by accident. -/
theorem meet_append {first second : Char} {left right : List Lexeme} :
    Meet first second (left ++ right) ↔
      Meet first second left ∨ Meet first second right ∨
        (left.getLast? = some (.plain first) ∧ right.head? = some (.plain second)) := by
  simp only [Meet, pair_isInfix_iff, List.isChain_append, Option.mem_def]
  grind

theorem not_meet_map_plain {first second : Char} {text : List Char}
    (apart : text.IsChain fun left right => ¬ (left = first ∧ right = second)) :
    ¬ Meet first second (text.map .plain) := by
  rw [Meet, pair_isInfix_iff, not_not, List.isChain_map]
  exact apart.imp fun _ _ differ same => differ ⟨Lexeme.plain.inj same.1, Lexeme.plain.inj same.2⟩

/-! ### Texts of the library's own -/

namespace Text

/-- Whether two neighbouring characters open no comment. -/
def Apart (left right : Char) : Prop :=
  ¬ (left = '-' ∧ right = '-') ∧ ¬ (left = '/' ∧ right = '*')

instance : DecidableRel Apart := fun left right =>
  inferInstanceAs (Decidable (¬ (left = '-' ∧ right = '-') ∧ ¬ (left = '/' ∧ right = '*')))

/-- Whether a text opens no comment, and does not end with what could become the start of one. -/
structure Inert (text : String) : Prop where
  inner : text.toList.IsChain Apart
  last : text.toList.getLast? ≠ some '-' ∧ text.toList.getLast? ≠ some '/'

/-- Whether a text is inert and starts with something else than a hyphen. -/
structure Neutral (text : String) : Prop extends Inert text where
  filled : text ≠ ""
  start : text.toList.head? ≠ some '-'

/-- Whether a text is neutral, or empty. -/
def Calm (text : String) : Prop := text ≠ "" → Neutral text

instance (text : String) : Decidable (Inert text) :=
  decidable_of_iff
    (text.toList.IsChain Apart ∧
      text.toList.getLast? ≠ some '-' ∧ text.toList.getLast? ≠ some '/')
    ⟨fun ⟨inner, last⟩ => ⟨inner, last⟩, fun ⟨inner, last⟩ => ⟨inner, last⟩⟩

instance (text : String) : Decidable (Neutral text) :=
  decidable_of_iff (Inert text ∧ text ≠ "" ∧ text.toList.head? ≠ some '-')
    ⟨fun ⟨inert, filled, start⟩ => ⟨inert, filled, start⟩,
      fun ⟨inert, filled, start⟩ => ⟨inert, filled, start⟩⟩

/-- Two inert texts have nothing at their seam, for the first one does not end with what could start
a comment. -/
theorem Inert.append {left right : String} (leftInert : Inert left) (rightInert : Inert right) :
    Inert (left ++ right) where
  inner := by
    rw [String.toList_append, List.isChain_append]
    refine ⟨leftInert.inner, rightInert.inner, fun c last d _ => ⟨?_, ?_⟩⟩
    · rintro ⟨rfl, _⟩
      exact leftInert.last.1 last
    · rintro ⟨rfl, _⟩
      exact leftInert.last.2 last
  last := by
    rw [String.toList_append, List.getLast?_append]
    cases ending : right.toList.getLast? with
    | none => simpa using leftInert.last
    | some c => simpa [ending] using rightInert.last

/-- What is put behind a neutral text does not change how it starts. -/
theorem Neutral.append {left right : String} (neutral : Neutral left) (inert : Inert right) :
    Neutral (left ++ right) where
  toInert := neutral.toInert.append inert
  filled := by simp [neutral.filled]
  start := by
    have first : left.toList ≠ [] := by simpa using neutral.filled
    rw [String.toList_append, List.head?_append_of_ne_nil _ first]
    exact neutral.start

/-- A sign before a neutral text. -/
theorem Neutral.sign {text : String} (neutral : Neutral text) : Inert ("-" ++ text) where
  inner := by
    rw [String.toList_append]
    refine List.isChain_cons.2 ⟨fun c first => ⟨?_, ?_⟩, neutral.inner⟩
    · rintro ⟨_, rfl⟩
      exact neutral.start first
    · rintro ⟨same, _⟩
      exact absurd same (by decide)
  last := by
    have first : text.toList ≠ [] := by simpa using neutral.filled
    rw [String.toList_append, List.getLast?_append_of_ne_nil _ first]
    exact neutral.last

theorem apart_of_isOrdinary {c : Char} (ordinary : isOrdinary c) : c ≠ '-' ∧ c ≠ '/' := by
  refine ⟨?_, ?_⟩ <;> rintro rfl <;> revert ordinary <;> decide

/-- An ordinary text cannot take part in opening a comment. -/
theorem Ordinary.inert {text : String} (ordinary : Ordinary text) : Inert text where
  inner := by
    rw [List.isChain_iff_forall_rel_of_append_cons_cons]
    intro left right before after same
    have absent := apart_of_isOrdinary (ordinary left (by simp [same]))
    exact ⟨fun same => absent.1 same.1, fun same => absent.2 same.1⟩
  last := ⟨fun last => (apart_of_isOrdinary (ordinary _ (List.mem_of_getLast? last))).1 rfl,
    fun last => (apart_of_isOrdinary (ordinary _ (List.mem_of_getLast? last))).2 rfl⟩

theorem Ordinary.neutral {text : String} (ordinary : Ordinary text) (filled : text ≠ "") :
    Neutral text where
  toInert := ordinary.inert
  filled := filled
  start first := (apart_of_isOrdinary (ordinary _ (List.mem_of_head? first))).1 rfl

/-- An exponent may start with a sign, but has only digits behind it. -/
theorem inert_toString_int (n : Int) : Inert (toString n) := by
  cases n with
  | ofNat n => exact (ordinary_repr n).inert
  | negSucc n => exact ((ordinary_repr _).neutral (by simp [Nat.repr])).sign

end Text

/-! ### SQL and the comments in it -/

namespace Sql

/-- Whether SQL starts with a hyphen. -/
def Signed (sql : Sql) : Prop := sql.lexemes.head? = some (.plain '-')

/-- What matters about SQL for the comments of a statement: where it may end, that no comment over
several lines is in it, and when it has a comment to the end of the line and starts with a
hyphen. -/
structure Commenting (sql : Sql) (signed opens : Prop) : Prop where
  last : sql.lexemes.getLast? ≠ some (.plain '-') ∧ sql.lexemes.getLast? ≠ some (.plain '/')
  block : ¬ Meet '/' '*' sql.lexemes
  line : Meet '-' '-' sql.lexemes ↔ opens
  start : sql.Signed ↔ signed

/-- SQL starts with a hyphen if its first piece does, or its second one behind an empty first. -/
theorem signed_append {left right : Sql} :
    (left ++ right).Signed ↔ left.Signed ∨ left.lexemes = [] ∧ right.Signed := by
  unfold Signed
  rw [lexemes_append, List.head?_append]
  cases left.lexemes <;> simp

theorem signed_code (text : String) : (code text).Signed ↔ text.toList.head? = some '-' := by
  simp [Signed, lexemes_code]

namespace Commenting

variable {signed opens leftSigned leftOpens rightSigned rightOpens : Prop}

theorem congr {sql : Sql} (commenting : sql.Commenting leftSigned leftOpens)
    (sameSigned : leftSigned ↔ signed) (sameOpens : leftOpens ↔ opens) :
    sql.Commenting signed opens :=
  ⟨commenting.last, commenting.block, commenting.line.trans sameOpens,
    commenting.start.trans sameSigned⟩

theorem nil : Commenting [] False False where
  last := by simp [lexemes]
  block := by simp [Meet, lexemes]
  line := by simp [Meet, lexemes]
  start := by simp [Signed, lexemes]

/-- What is in quotes opens no comment, whatever it is. -/
theorem quoted (style : Text.QuoteStyle) (payload : String) :
    Commenting [.quoted style payload] False False where
  last := by simp [lexemes, Span.lexemes]
  block := by simp [Meet, lexemes, Span.lexemes, pair_isInfix_iff]
  line := by simp [Meet, lexemes, Span.lexemes, pair_isInfix_iff]
  start := by simp [Signed, lexemes, Span.lexemes]

/-- An inert text opens no comment and may start with a sign. -/
theorem code {text : String} (inert : Text.Inert text) :
    (code text).Commenting (text.toList.head? = some '-') False where
  last := by simpa using inert.last
  block := by
    rw [lexemes_code]
    exact not_meet_map_plain (inert.inner.imp fun _ _ apart => apart.2)
  line := by
    rw [lexemes_code, iff_false]
    exact not_meet_map_plain (inert.inner.imp fun _ _ apart => apart.1)
  start := signed_code text

theorem word {text : String} (neutral : Text.Neutral text) :
    (Sql.code text).Commenting False False :=
  (code neutral.toInert).congr (iff_false_intro neutral.start) Iff.rfl

/-- An empty word changes nothing. -/
theorem skip {rest : Sql} (commenting : rest.Commenting signed opens) :
    (Sql.code "" ++ rest).Commenting signed opens := by
  have same : (Sql.code "" ++ rest).lexemes = rest.lexemes := by simp
  constructor
  · rw [same]
    exact commenting.last
  · rw [same]
    exact commenting.block
  · rw [same]
    exact commenting.line
  · rw [Signed, same]
    exact commenting.start

/-- A number, with a sign before it if it is negative. -/
theorem number {negative : Prop} [Decidable negative] {magnitude : String}
    (neutral : Text.Neutral magnitude) :
    (Sql.code ((if negative then "-" else "") ++ magnitude)).Commenting negative False := by
  split
  next isNegative =>
    exact (code neutral.sign).congr (by simp [isNegative]) Iff.rfl
  next isPositive =>
    rw [String.empty_append]
    exact (word neutral).congr (by simp [isPositive]) Iff.rfl

/-- SQL in a row.  What comes second starts the whole only if nothing comes first. -/
theorem join {left right : Sql} (atLeft : left.Commenting leftSigned leftOpens)
    (atRight : right.Commenting rightSigned rightOpens)
    (guarded : rightSigned → left.lexemes ≠ []) :
    (left ++ right).Commenting leftSigned (leftOpens ∨ rightOpens) where
  last := by
    rw [lexemes_append, List.getLast?_append]
    cases ending : right.lexemes.getLast? with
    | none => simpa using atLeft.last
    | some lexeme => simpa [ending] using atRight.last
  block := by
    rw [lexemes_append, meet_append]
    rintro (inLeft | inRight | seam)
    · exact atLeft.block inLeft
    · exact atRight.block inRight
    · exact atLeft.last.2 seam.1
  line := by
    rw [lexemes_append, meet_append, atLeft.line, atRight.line]
    have apart : ¬ (left.lexemes.getLast? = some (.plain '-') ∧ right.Signed) := fun seam =>
      atLeft.last.1 seam.1
    exact or_congr Iff.rfl (or_iff_left apart)
  start := by
    rw [signed_append, atLeft.start, atRight.start]
    exact or_iff_left fun exposed => guarded exposed.2 exposed.1

/-- SQL in a row where the second piece starts with no sign, such as a word or a quoted text. -/
theorem append {left right : Sql} (atLeft : left.Commenting signed leftOpens)
    (atRight : right.Commenting False rightOpens) :
    (left ++ right).Commenting signed (leftOpens ∨ rightOpens) :=
  join atLeft atRight False.elim

/-- A word before anything. -/
theorem after {text : String} (neutral : Text.Neutral text) {rest : Sql}
    (commenting : rest.Commenting signed opens) :
    (Sql.code text ++ rest).Commenting False opens :=
  (join (word neutral) commenting fun _ => by simpa using neutral.filled).congr Iff.rfl
    (by simp)

/-- A sign in parentheses opens a comment if what it stands before starts with one. -/
theorem sign {operand : Sql} (commenting : operand.Commenting signed opens) :
    (Sql.code "(-" ++ operand ++ Sql.code ")").Commenting False (signed ∨ opens) := by
  have opening : (Sql.code "(-").lexemes = [.plain '(', .plain '-'] := by simp
  have filled : (operand ++ Sql.code ")").lexemes ≠ [] := by simp
  have closed := commenting.append (word (by decide : Text.Neutral ")"))
  rw [List.append_assoc]
  constructor
  · rw [lexemes_append, List.getLast?_append_of_ne_nil _ filled]
    exact closed.last
  · rw [lexemes_append, meet_append, opening]
    rintro (inSign | inOperand | seam)
    · exact absurd inSign (by decide)
    · exact closed.block inOperand
    · exact absurd seam.1 (by decide)
  · rw [lexemes_append, meet_append, opening, closed.line]
    have calm : ¬ Meet '-' '-' [.plain '(', .plain '-'] := by decide
    simp only [calm, or_false, false_or, List.getLast?_cons_cons, List.getLast?_singleton, true_and]
    exact (or_congr Iff.rfl closed.start).trans or_comm
  · simp [signed_append, signed_code]

end Commenting

end Sql

/-! ## Signs

The library's own words have blanks, letters or parentheses at their ends, so hyphens come only
from numbers and from the two operators of arithmetic that are written with one.  A difference has
blanks around its operator.  A change of sign has none: its hyphen stands right before the operand,
and meets another one if the operand starts with a negative number.  There is no other way to open
a comment.
-/

/-! ### Trees -/

/-- Whether a constant is written with a sign. -/
def Literal.IsNegative : Literal → Prop
  | .double value => value.isNegative
  | .exact value => value.unscaled < 0
  | _ => False

/-- The node whose text the text of a node starts with, where it starts with that of another. -/
def Node.first? : Node → Option Node
  | .selectList list => list.nodes.head?
  | .join _ left _ _ => some left
  | .comparison _ left _ => some left
  | .between expression _ _ => some expression
  | .like expression _ _ => some expression
  | .regexpLike expression _ => some expression
  | .inList expression _ => some expression
  | .isNull _ operand => some operand
  | .isJson _ expression _ _ => some expression
  | .groupBy expressions => expressions.head?
  | _ => none

/-- Whether the text of a node starts with the sign of a number. -/
inductive Node.LeadsWithMinus : Node → Prop
  | literal {literal : Literal} (negative : literal.IsNegative) : LeadsWithMinus (.literal literal)
  | first {node first : Node} (start : first ∈ node.first?) (leads : first.LeadsWithMinus) :
      LeadsWithMinus node

/-- Whether a node changes the sign of an operand that starts with a sign. -/
def Node.NegatesNegative : Node → Prop
  | .scalar .neg [operand] => operand.LeadsWithMinus
  | _ => False

/-- Whether a sign is put right before another one somewhere in a tree. -/
def Node.DoublesMinus (node : Node) : Prop := ∃ subnode ∈ node.subnodes, subnode.NegatesNegative

/-- A literal starts with a sign exactly if it is a negative number. -/
theorem Node.leadsWithMinus_literal (literal : Literal) :
    (Node.literal literal).LeadsWithMinus ↔ literal.IsNegative := by
  constructor
  · rintro (negative | ⟨start, _⟩)
    · exact negative
    · cases start
  · exact .literal

/-- A call of a function starts with a name or a parenthesis. -/
theorem Node.not_leadsWithMinus_scalar (function : ScalarFunction) (arguments : List Node) :
    ¬ (Node.scalar function arguments).LeadsWithMinus := by
  rintro (_ | ⟨start, _⟩)
  cases start

/-- A sign is doubled at the top of a tree or below one of the nodes under it.  In this shape the
condition fits an induction on trees. -/
theorem Node.doublesMinus_iff (node : Node) :
    node.DoublesMinus ↔
      node.NegatesNegative ∨ ∃ child ∈ node.children, child.DoublesMinus :=
  node.exists_subnodes_iff Node.NegatesNegative

/-! ### The words of a dialect -/

/-- Whether the words of a dialect open no comment at either end, and arithmetic is written with
its usual operators. -/
structure Dialect.Quiet (dialect : Dialect) : Prop where
  booleanToken : ∀ value, Text.Neutral (dialect.booleanToken value)
  anyValueToken : Text.Neutral dialect.anyValueToken
  scalar : ∀ function, ∀ name ∈ dialect.aliases.scalar function, Text.Neutral name
  aggregate : ∀ function, ∀ name ∈ dialect.aliases.aggregate function, Text.Neutral name
  between : dialect.aliases.between = Aliases.arithmetic.between
  before : dialect.aliases.before = Aliases.arithmetic.before
  sign : dialect.aliases.scalar .neg = none

/-- The dialects of the library are quiet: their aliases are checked one by one, and their
arithmetic is the usual one. -/
theorem Dialect.IsBuiltin.quiet {dialect : Dialect} (builtin : dialect.IsBuiltin) :
    dialect.Quiet := by
  -- The aliases of most dialects are none at all, whatever the function.
  have unnamed {Function : Type} (function : Function) (name : String)
      (member : name ∈ (none : Option String)) : Text.Neutral name := by cases member
  rcases builtin.cases with rfl | rfl | rfl | ⟨identifierCase, rfl⟩ | rfl
  · exact ⟨by decide, by decide, unnamed, unnamed, rfl, rfl, rfl⟩
  · refine ⟨by decide, by decide, fun function name member => ?_, unnamed, rfl, rfl, rfl⟩
    simp only [mysql, mysqlAliases] at member
    split at member <;> cases member <;> decide
  · exact ⟨by decide, by decide, unnamed, unnamed, rfl, rfl, rfl⟩
  · refine ⟨?_, ?_, fun function name member => ?_, unnamed, rfl, rfl, rfl⟩
    · intro value
      cases value <;> (simp only [Dialect.booleanToken, postgresql]; decide)
    · change Text.Neutral "true"
      decide
    · simp only [postgresql, postgresqlAliases] at member
      split at member <;> cases member <;> decide
  · refine ⟨by decide, by decide, fun function name member => ?_, fun function name member => ?_,
      rfl, rfl, rfl⟩
    · simp only [sqlserver, sqlserverAliases] at member
      split at member <;> cases member <;> decide
    · simp only [sqlserver, sqlserverAliases] at member
      split at member <;> cases member <;> decide

namespace Aliases

/-- The operators of arithmetic have blanks on both sides, so none of them touches an operand. -/
theorem arithmetic_between {function : ScalarFunction} {operator : String}
    (written : arithmetic.between function = some operator) :
    Text.Neutral (" " ++ operator ++ " ") := by
  simp only [arithmetic] at written
  split at written <;> cases written <;> decide

/-- The only operator before an operand is the change of sign. -/
theorem arithmetic_before {function : ScalarFunction} {operator : String}
    (written : arithmetic.before function = some operator) :
    operator = "-" ∧ function = .neg := by
  simp only [arithmetic] at written
  split at written <;> cases written
  exact ⟨rfl, rfl⟩

end Aliases

/-- The words of a quiet dialect are neutral, where they are words at all. -/
theorem Dialect.Quiet.vocabulary {dialect : Dialect} (quiet : dialect.Quiet) :
    dialect.Vocabulary Text.Calm where
  star _ := by decide
  symbol operator _ := by cases operator <;> decide
  booleanToken value _ := quiet.booleanToken value
  anyValueToken _ := quiet.anyValueToken
  scalar function name member _ := (quiet.scalar function name member).append (by decide)
  aggregate function name member _ := (quiet.aggregate function name member).append (by decide)
  between function operator member _ := Aliases.arithmetic_between (quiet.between ▸ member)

namespace Part

/-- The node that a row starts with, behind empty words. -/
def firstNode? : List Part → Option Node
  | .word text :: rest => if text = "" then firstNode? rest else none
  | .node child :: _ => some child
  | _ => none

theorem firstNode?_each (separator : String) (nodes : List Node) :
    firstNode? (each separator nodes) = nodes.head? := by
  rcases nodes with _ | ⟨first, _ | ⟨second, rest⟩⟩ <;> rfl

/-- A row without nodes starts with none. -/
theorem firstNode?_eq_none {row : List Part} (none : ∀ child, .node child ∉ row) :
    firstNode? row = .none := by
  induction row with
  | nil => rfl
  | cons part rest inductionHypothesis =>
    cases part with
    | word text =>
      have atRest := inductionHypothesis fun child member => none child (.tail _ member)
      simp [firstNode?, atRest]
    | payload payload => rfl
    | node child => exact absurd List.mem_cons_self (none child)

end Part

namespace Generator

variable {generator : Generator}

open Part (Row)
open Sql.Commenting (after append)

/-- A select list starts with its first expression, if it has any. -/
theorem firstNode?_listParts (list : SelectList) :
    Part.firstNode? (generator.listParts list) = list.nodes.head? := by
  rcases list with _ | _ | ⟨_ | ⟨first, rest⟩⟩
  · simp [listParts, Part.firstNode?, SelectList.nodes]
  · rfl
  · simp [listParts, Part.firstNode?, SelectList.nodes]
  · exact Part.firstNode?_each ", " (first :: rest)

/-- Each of the four forms of a call starts with a name or a parenthesis. -/
theorem firstNode?_scalarParts (function : ScalarFunction) (arguments : List Node) :
    Part.firstNode? (generator.scalarParts function arguments) = none := by
  unfold scalarParts
  dsimp only
  split
  · simp [Part.call, Part.firstNode?]
  · split <;> simp [Part.firstNode?]
  · split <;> simp [Part.firstNode?]
  · split <;> simp [Part.call, Part.firstNode?]

/-- A row of parts starts with the node that its node starts with.  Conditions on trees and facts on
rows meet here. -/
theorem firstNode?_parts (node : Node) :
    Part.firstNode? (generator.parts node) = node.first? := by
  cases node with
  | selectList list => exact firstNode?_listParts list
  | column column => exact Part.firstNode?_eq_none fun child => by simp [parts]
  | table table => exact Part.firstNode?_eq_none fun child => by simp [parts]
  | scalar function arguments => exact firstNode?_scalarParts function arguments
  | literal literal => exact Part.firstNode?_eq_none fun child => by simp [parts]
  | groupBy expressions => exact Part.firstNode?_each ", " expressions
  | _ => simp [parts, Part.firstNode?, Node.first?]

/-! ### Rows of parts -/

/-- Whether the SQL of a tree has a comment exactly if a sign is doubled in the tree. -/
abbrev Comments (generator : Generator) (node : Node) : Prop :=
  (generator.written node).Commenting node.LeadsWithMinus node.DoublesMinus

/-- A word before a row: nothing in the row starts the whole. -/
theorem commenting_word {text : String} (neutral : Text.Neutral text) {row : List Part}
    {signed : Prop} {start : Bool}
    (atRow : (generator.partsSql row).Commenting signed
      (∃ child, .node child ∈ row ∧ child.DoublesMinus)) :
    (generator.partsSql (.word text :: row)).Commenting
      (start = false ∧ ∃ first ∈ Part.firstNode? (.word text :: row), first.LeadsWithMinus)
      (∃ child, .node child ∈ Part.word text :: row ∧ child.DoublesMinus) :=
  (after neutral atRow).congr (by simp [Part.firstNode?, neutral.filled]) (by simp)

/-- A row opens a comment if one of its nodes does, and may start with a sign if its first node
does.  The rows of all nodes are such but those with signs of their own. -/
theorem commenting_of_row {start stop : Bool} {row : List Part}
    (apart : Row Text.Calm start row stop)
    (each : ∀ child, .node child ∈ row → generator.Comments child) :
    (generator.partsSql row).Commenting
      (start = false ∧ ∃ first ∈ Part.firstNode? row, first.LeadsWithMinus)
      (∃ child, .node child ∈ row ∧ child.DoublesMinus) := by
  induction apart with
  | nil _ => exact Sql.Commenting.nil.congr (by simp [Part.firstNode?]) (by simp)
  | fixed solid _ inductionHypothesis =>
    have atRest := inductionHypothesis fun child => each child ∘ List.mem_cons_of_mem _
    exact commenting_word (solid.1.neutral solid.2) atRest
  | word known filled _ inductionHypothesis =>
    have atRest := inductionHypothesis fun child => each child ∘ List.mem_cons_of_mem _
    exact commenting_word (known filled) atRest
  | @blank _ _ text _ known _ inductionHypothesis =>
    have atRest := inductionHypothesis fun child => each child ∘ List.mem_cons_of_mem _
    by_cases empty : text = ""
    · subst empty
      exact (Sql.Commenting.skip atRest).congr (by simp [Part.firstNode?]) (by simp)
    · have neutral := known.elim (fun ordinary => ordinary.neutral empty) (fun calm => calm empty)
      exact commenting_word neutral atRest
  | payload _ inductionHypothesis =>
    have atRest := inductionHypothesis fun child => each child ∘ List.mem_cons_of_mem _
    simp only [reduceCtorEq, false_and] at atRest
    exact ((Sql.Commenting.quoted _ _).append atRest).congr (by simp [Part.firstNode?]) (by simp)
  | @node _ child _ _ inductionHypothesis =>
    have atRest := inductionHypothesis fun child => each child ∘ List.mem_cons_of_mem _
    simp only [reduceCtorEq, false_and] at atRest
    exact ((each child List.mem_cons_self).append atRest).congr (by simp [Part.firstNode?])
      (by simp)

/-! ### Trees -/

/-- A node without signs of its own changes no sign. -/
theorem not_negates_of_unsigned (quiet : generator.dialect.Quiet) {node : Node}
    (unsigned : generator.signs node = []) : ¬ node.NegatesNegative := by
  unfold Node.NegatesNegative
  split
  · simp [signs, quiet.before, Aliases.arithmetic] at unsigned
  · exact id

/-- A node without signs of its own starts with a sign if the node that it starts with does. -/
theorem leadsWithMinus_of_unsigned {node : Node} (unsigned : generator.signs node = []) :
    (∃ first ∈ node.first?, first.LeadsWithMinus) ↔ node.LeadsWithMinus := by
  constructor
  · rintro ⟨first, start, leads⟩
    exact .first start leads
  · rintro (negative | ⟨start, leads⟩)
    · rename_i literal
      cases literal with
      | double value => cases unsigned
      | exact value => cases unsigned
      | _ => cases negative
    · exact ⟨_, start, leads⟩

/-- A number has a sign of its own.  It opens no comment by itself, but can complete one behind
another sign. -/
theorem commenting_number {literal : Literal} (sound : SoundLiteral literal)
    (signed : generator.signs (.literal literal) ≠ []) : generator.Comments (.literal literal) := by
  have unopened : False ↔ (Node.literal literal).DoublesMinus := by
    rw [Node.doublesMinus_iff]
    simp [Node.NegatesNegative, Node.children]
  refine Sql.Commenting.congr ?_ (Node.leadsWithMinus_literal literal).symm unopened
  cases literal with
  | double value =>
    obtain ⟨mantissa, ordinary, filled, same⟩ := value.scientific_eq
    have finite : value.isFinite = true := sound
    simp only [written, Generator.literal, finite, if_true, settledSql, same]
    exact .number ((ordinary.neutral filled).append (Text.inert_toString_int _))
  | exact value =>
    obtain ⟨magnitude, ordinary, filled, same⟩ := value.plain_eq
    simp only [written, Generator.literal, settledSql, same]
    exact .number (ordinary.neutral filled)
  | _ => exact absurd rfl signed

/-- An operator before its operand is the sign that is changed.  It is written without a blank,
which is how two signs can meet. -/
theorem commenting_signChange (quiet : generator.dialect.Quiet) {function : ScalarFunction}
    {arguments : List Node}
    (arity : SoundArity generator.dialect.aliases function arguments.length)
    (signed : generator.signs (.scalar function arguments) ≠ [])
    (each : ∀ node ∈ arguments, generator.Comments node) :
    generator.Comments (.scalar function arguments) := by
  obtain ⟨operator, leading⟩ :
      ∃ operator, generator.dialect.aliases.before function = some operator := by
    simpa [signs, Option.eq_none_iff_forall_ne_some] using signed
  obtain ⟨rfl, rfl⟩ := Aliases.arithmetic_before (quiet.before ▸ leading)
  have notBetween : generator.dialect.aliases.between .neg = none := by
    rw [quiet.between]
    rfl
  have takes := arity quiet.sign
  simp only [notBetween, leading] at takes
  obtain ⟨operand, rfl⟩ := List.length_eq_one_iff.1 takes
  rw [Comments, written, scalarCall_of_before quiet.sign notBetween leading]
  refine (Sql.Commenting.sign (each operand List.mem_cons_self)).congr ?_ ?_
  · exact (iff_false_intro (Node.not_leadsWithMinus_scalar .neg [operand])).symm
  · rw [Node.doublesMinus_iff (.scalar .neg [operand])]
    simp [Node.NegatesNegative, Node.children]

/-- What is written for a well-formed tree has a comment exactly if a sign is doubled in it.  Nodes
without signs of their own follow from their rows; only numbers and the change of sign need an
argument about characters. -/
theorem written_commenting (quiet : generator.dialect.Quiet) (node : Node)
    (wellFormed : generator.WellFormed node) : generator.Comments node := by
  induction node using Node.inductionOnChildren with
  | step node inductionHypothesis =>
    obtain ⟨sound, childrenFormed⟩ := (generator.wellFormed_iff node).1 wellFormed
    have each : ∀ child ∈ node.children, generator.Comments child := fun child member =>
      inductionHypothesis child member (childrenFormed child member)
    by_cases unsigned : generator.signs node = []
    · have apart := row_parts quiet.vocabulary node (by simp [unsigned])
      rw [Comments, written_eq_parts]
      refine (commenting_of_row apart fun child member =>
        each child (mem_children_of_node_mem_parts member)).congr ?_ ?_
      · simpa [firstNode?_parts] using leadsWithMinus_of_unsigned unsigned
      · rw [Node.doublesMinus_iff, or_iff_right (not_negates_of_unsigned quiet unsigned)]
        simp only [node_mem_parts sound]
    · cases node with
      | literal literal => exact commenting_number sound unsigned
      | scalar function arguments => exact commenting_signChange quiet sound.2 unsigned each
      | _ => exact absurd rfl unsigned

/-! ### Statements -/

/-- A statement has no comment over several lines, and it has one to the end of the line exactly if
its tree changes the sign of something that starts with a sign. -/
theorem statement_comment_iff {dialect : Dialect} (builtin : dialect.IsBuiltin)
    {context : QueryContext} {limit : Nat} {node : Node} {sql : Sql}
    (rendered : (dialect.generator context limit).statement node = .ok sql) :
    ∃ lexemes, scan dialect.quoting sql.toText.toList = some lexemes ∧
      ¬ Meet '/' '*' lexemes ∧
      (Meet '-' '-' lexemes ↔ ∃ subnode ∈ node.subnodes, subnode.NegatesNegative) := by
  obtain ⟨wellFormed, -, rfl⟩ := (statement_eq_ok_iff _ _ _).1 rendered
  have commenting : (dialect.generator context limit).Comments node :=
    written_commenting builtin.quiet node wellFormed
  exact ⟨_, (dialect.generator context limit).scan_written builtin.readable node,
    commenting.block, commenting.line⟩

/-- Three less minus five. -/
def differenceOfSigned : Node :=
  .scalar .sub [.literal (.exact ⟨3, 0⟩), .literal (.exact ⟨-5, 0⟩)]

/-- A difference keeps its operator apart from the sign of a number behind it. -/
theorem statement_comment_iff_difference :
    ∃ lexemes, scan Dialect.generic.quoting "(3 - -5)".toList = some lexemes ∧
      ¬ Meet '/' '*' lexemes ∧ ¬ Meet '-' '-' lexemes := by
  have builtin : Dialect.generic.IsBuiltin := ⟨"GENERIC", .empty, rfl⟩
  have rendered : (Dialect.generic.generator {} 256).statement differenceOfSigned =
      .ok ((Dialect.generic.generator {} 256).written differenceOfSigned) := rfl
  have text : ((Dialect.generic.generator {} 256).written differenceOfSigned).toText =
      "(3 - -5)" := by decide +kernel
  obtain ⟨lexemes, read, noBlock, line⟩ := statement_comment_iff builtin rendered
  rw [text] at read
  refine ⟨lexemes, read, noBlock, fun comment => ?_⟩
  obtain ⟨subnode, member, negates⟩ := line.1 comment
  simp [differenceOfSigned, Node.subnodes_eq, Node.children] at member
  rcases member with rfl | rfl | rfl <;> exact negates

/-- Minus minus five. -/
def signTwice : Node := .scalar .neg [.literal (.exact ⟨-5, 0⟩)]

/-- The sign of a negative number stands right behind the sign before it, and both together open a
comment. -/
theorem sign_change_opens_comment :
    ¬ ∀ dialect context node sql, Dialect.IsBuiltin dialect →
      (dialect.generator context 256).statement node = .ok sql →
      ∀ lexemes, scan dialect.quoting sql.toText.toList = some lexemes →
        ¬ Meet '-' '-' lexemes ∧ ¬ Meet '/' '*' lexemes := by
  intro safe
  have builtin : Dialect.generic.IsBuiltin := ⟨"GENERIC", .empty, rfl⟩
  have rendered : (Dialect.generic.generator {} 256).statement signTwice =
      .ok ((Dialect.generic.generator {} 256).written signTwice) := rfl
  have read := (Dialect.generic.generator {} 256).scan_written builtin.readable signTwice
  have meet : Meet '-' '-' ((Dialect.generic.generator {} 256).written signTwice).lexemes := by
    decide +kernel
  exact (safe _ _ _ _ builtin rendered _ read).1 meet

end Generator

end Pushdown
