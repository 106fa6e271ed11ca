/-
Module: Pushdown.Text.Distance
Purpose: Edit distance between texts, and the closest of several options.
Main exports: distance, closest?
-/

namespace Pushdown.Text

/-!
A misspelled name is answered with the closest known one.  Distance counts the insertions,
deletions and substitutions of single characters that turn one text into the other.  It is
computed row by row: the row for a prefix of the first text lists its distances to every prefix
of the second, and each row follows from the one before.
-/

/-- The entries of a row after its first: `corner` and `above` walk along the previous row,
`left` is the entry just computed. -/
def rowAfter (c : Char) : (corner left : Nat) → List Char → List Nat → List Nat
  | corner, left, d :: target, above :: previous =>
    let entry := min (min (above + 1) (left + 1)) (corner + if c = d then 0 else 1)
    entry :: rowAfter c above entry target previous
  | _, _, _, _ => []

/-- The row for a prefix with `c` appended, from the row for the prefix. -/
def nextRow (c : Char) (target : List Char) (row : List Nat) : List Nat :=
  match row with
  | [] => []
  | corner :: previous => (corner + 1) :: rowAfter c corner (corner + 1) target previous

/-- The last row: distances from all of `source` to every prefix of `target`. -/
def lastRow (source target : List Char) : List Nat :=
  source.foldl (fun row c => nextRow c target row) (List.range (target.length + 1))

/-- The least number of edits that turn one text into the other. -/
def distance (source target : String) : Nat :=
  (lastRow source.toList target.toList).getLastD 0

/-- The greatest distance at which an option still counts as a misspelling. -/
def suggestionRadius : Nat := 3

/-- The better of the best option so far and the next one; the earlier wins a tie. -/
def closer (target : String) (best : Option (String × Nat)) (option : String) :
    Option (String × Nat) :=
  let gap := distance target option
  match best with
  | none => if gap ≤ suggestionRadius then some (option, gap) else none
  | some (_, least) => if gap < least then some (option, gap) else best

/-- The first of the options nearest to a text, if it is near enough to be a misspelling. -/
def closest? (target : String) (options : List String) : Option String :=
  (options.foldl (closer target) none).map Prod.fst

end Pushdown.Text
