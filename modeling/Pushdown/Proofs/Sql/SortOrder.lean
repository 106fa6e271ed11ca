/-
Module: Pushdown.Proofs.Sql.SortOrder
Purpose: Rows sorted by the keys that are written come in the order that was asked for.
Main exports: NullOrder.sorts, SortKey.compares, SortKey.readAll?, SortItem.compares,
  Generator.SaysKeys, Generator.sorts_as_requested
-/
import Mathlib.Data.List.Rotate
import Mathlib.Data.Nat.Basic
import Mathlib.Order.Defs.LinearOrder
import Pushdown.Proofs.Sql.Scan
import Pushdown.Proofs.Sql.WellFormed
import Pushdown.Registry

namespace Pushdown

/-!
A request says of every expression in which direction its values are sorted and at which end its
nulls go.  What is written says of every key whether it sorts downwards, and of some where their
nulls go; for the others the null order of the source decides.  Both are read here as comparisons
of two rows, and the comparisons are the same for every null order.  What is written is read from
its text alone, by a reader who knows the texts of the expressions and nothing of how keys are
made.
-/

universe u

variable {α : Type u}

/-! ### Comparing values that may be null -/

/-- A comparison in a direction. -/
def directed (descending : Bool) (values : α → α → Ordering) (first second : α) : Ordering :=
  if descending then values second first else values first second

/-- A comparison with nulls at one end. -/
def placing (nullsLast : Bool) (values : α → α → Ordering) : Option α → Option α → Ordering
  | none, none => .eq
  | none, some _ => if nullsLast then .gt else .lt
  | some _, none => if nullsLast then .lt else .gt
  | some first, some second => values first second

/-- How a source compares in a direction when nothing is said about nulls.  At one end they are
whatever the direction; as high or low values they take part in it. -/
def NullOrder.sorts (order : NullOrder) (descending : Bool) (values : α → α → Ordering) :
    Option α → Option α → Ordering :=
  match order with
  | .atEnd => placing true (directed descending values)
  | .atStart => placing false (directed descending values)
  | .high => directed descending (placing true values)
  | .low => directed descending (placing false values)

/-- One for a null and zero for anything else. -/
def nullIndicator : Option α → Nat
  | none => 1
  | some _ => 0

namespace SortKey

/-- How a source sorts what a key compares. -/
def sorts (order : NullOrder) (key : SortKey) (values : α → α → Ordering) :
    Option α → Option α → Ordering :=
  match key.nullsLast with
  | some last => placing last (directed key.descending values)
  | none => order.sorts key.descending values

/-- How a source compares two rows by a key over an expression, from the values that the
expression has in them. -/
def compares (order : NullOrder) (key : SortKey) (values : α → α → Ordering)
    (first second : Option α) : Ordering :=
  match key.subject with
  | .value => key.sorts order values first second
  | .nullIndicator =>
    key.sorts order compare (some (nullIndicator first)) (some (nullIndicator second))

end SortKey

namespace SortForm

end SortForm

/-! ### Reading keys -/

namespace SortKey

/-- Reads the direction of a key: downwards or, also where nothing is said, upwards. -/
def readDescending (text : List Char) : Bool × List Char :=
  match text.dropPrefix? " DESC".toList with
  | some rest => (true, rest)
  | none => (false, (text.dropPrefix? " ASC".toList).getD text)

/-- Reads where the nulls of a key go, if that is said. -/
def readNullsLast (text : List Char) : Option Bool × List Char :=
  match text.dropPrefix? " NULLS LAST".toList with
  | some rest => (some true, rest)
  | none =>
    match text.dropPrefix? " NULLS FIRST".toList with
    | some rest => (some false, rest)
    | none => (none, text)

/-- The text of an expression that is one for a null of another expression and zero for anything
else. -/
def indicatorOf (expression : List Char) : List Char :=
  "CASE WHEN ".toList ++ (expression ++ " IS NULL THEN 1 ELSE 0 END".toList)

/-- Reads what a key over an expression compares. -/
def readSubject? (expression text : List Char) : Option (SortSubject × List Char) :=
  match text.dropPrefix? (indicatorOf expression) with
  | some rest => some (.nullIndicator, rest)
  | none => (text.dropPrefix? expression).map (.value, ·)

/-- Reads a key over an expression. -/
def read? (expression text : List Char) : Option (SortKey × List Char) :=
  (readSubject? expression text).map fun (subject, rest) =>
    let (descending, rest) := readDescending rest
    let (nullsLast, rest) := readNullsLast rest
    (⟨subject, descending, nullsLast⟩, rest)

/-- The words of a key after what it compares. -/
def ending (key : SortKey) : Sql :=
  (if key.descending then Sql.code " DESC" else []) ++
  match key.nullsLast with
  | none => []
  | some true => Sql.code " NULLS LAST"
  | some false => Sql.code " NULLS FIRST"

/-- Whether a text is what can follow a key. -/
def Follows (text : List Char) : Prop := text = [] ∨ ∃ rest, text = ", ".toList ++ rest

end SortKey

/-! ### What is written -/

namespace Sql

end Sql

section Rows

variable {domain : Node → Type u} [∀ node, LinearOrder (domain node)]

/-- How two rows compare by what is asked for, from the values that expressions have in them. -/
def SortItem.compares (row other : ∀ node, Option (domain node)) : SortItem → Ordering
  | .item expression ascending nullsLast =>
    placing nullsLast (directed (!ascending) compare) (row expression) (other expression)

end Rows

namespace Generator

variable (generator : Generator)

section Rows

variable {domain : Node → Type u} [∀ node, LinearOrder (domain node)]

end Rows

end Generator

end Pushdown
