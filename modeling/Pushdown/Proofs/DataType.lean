/-
Module: Pushdown.Proofs.DataType
Purpose: The text of a type tells the type, and where the text ends.
Main exports: DataType.printed, DataType.toText_append_injective, digits_append_injective
-/
import Pushdown.DataType
import Pushdown.Proofs.Text.Value

namespace Pushdown

/-!
The text of a type starts with a fixed word, and every number in it ends before a character that
is no digit.  So the types of a list can be read off one by one, although their texts contain the
commas and blanks that separate them.
-/

/-- A number is told by its digits, if something else than a digit follows.  All sizes in the text
of a type are followed by a comma or a parenthesis. -/
theorem digits_append_injective {n m : Nat} {rest other : List Char}
    (stops : ∀ c ∈ rest.head?, c.isDigit = false)
    (otherStops : ∀ c ∈ other.head?, c.isDigit = false)
    (same : Nat.toDigits 10 n ++ rest = Nat.toDigits 10 m ++ other) : n = m ∧ rest = other := by
  have digits : ∀ k, ∀ c ∈ Nat.toDigits 10 k, c.isDigit = true :=
    fun k c member => Nat.isDigit_of_mem_toDigits (by omega) (by omega) member
  have run : Text.LongestRun Char.isDigit _ (Nat.toDigits 10 n) rest := ⟨rfl, digits n, stops⟩
  have otherRun : Text.LongestRun Char.isDigit _ (Nat.toDigits 10 m) other :=
    ⟨rfl, digits m, otherStops⟩
  have sameDigits : Nat.toDigits 10 n = Nat.toDigits 10 m := by
    rw [← run.takeWhile_eq, same, otherRun.takeWhile_eq]
  rw [sameDigits] at same
  refine ⟨?_, List.append_cancel_left same⟩
  rw [← @Nat.ofDigitChars_ten_toDigits n, sameDigits, Nat.ofDigitChars_ten_toDigits]

namespace DataType

/-- A type as far as it is printed: the fraction of a year-to-month interval is not. -/
def printed : DataType → DataType
  | .interval .yearToMonth precision _ => .interval .yearToMonth precision 0
  | type => type

/-- Types by the words of their texts, where the two kinds of intervals differ. -/
theorem casesByText {motive : DataType → Prop} (boolean : motive .boolean)
    (decimal : ∀ precision scale, motive (.decimal precision scale)) (double : motive .double)
    (varchar : ∀ size charset, motive (.varchar size charset))
    (char : ∀ size charset, motive (.char size charset)) (date : motive .date)
    (timestamp : ∀ fractionalPrecision, motive (.timestamp fractionalPrecision))
    (yearToMonth : ∀ precision fraction, motive (.interval .yearToMonth precision fraction))
    (dayToSecond : ∀ precision fraction, motive (.interval .dayToSecond precision fraction))
    (unsupported : motive .unsupported) (type : DataType) : motive type := by
  cases type with
  | boolean => exact boolean
  | decimal precision scale => exact decimal precision scale
  | double => exact double
  | varchar size charset => exact varchar size charset
  | char size charset => exact char size charset
  | date => exact date
  | timestamp fractionalPrecision => exact timestamp fractionalPrecision
  | interval kind precision fraction =>
    cases kind with
    | yearToMonth => exact yearToMonth precision fraction
    | dayToSecond => exact dayToSecond precision fraction
  | unsupported => exact unsupported

/-- The fixed words that texts of types start with. -/
inductive Keyword where
  | boolean
  | decimal
  | double
  | varchar
  | char
  | date
  | timestamp
  | yearToMonth
  | dayToSecond
  | unsupported
deriving Repr, DecidableEq

namespace Keyword

/-- Every word. -/
def all : List Keyword :=
  [boolean, decimal, double, varchar, char, date, timestamp, yearToMonth, dayToSecond,
    unsupported]

theorem mem_all (keyword : Keyword) : keyword ∈ all := by cases keyword <;> decide

/-- A word as written, up to the first number. -/
def text : Keyword → String
  | boolean => "BOOLEAN"
  | decimal => "DECIMAL("
  | double => "DOUBLE"
  | varchar => "VARCHAR("
  | char => "CHAR("
  | date => "DATE"
  | timestamp => "TIMESTAMP("
  | yearToMonth => "INTERVAL YEAR ("
  | dayToSecond => "INTERVAL DAY ("
  | unsupported => "UNSUPPORTED"

/-- No keyword of a type begins like another, so the keyword can be read before the rest is looked
at. -/
theorem prefixFree : PrefixFree fun keyword : Keyword => keyword.text.toList :=
  .of_table mem_all (by decide)

end Keyword

/-- The word that the text of a type starts with. -/
def keyword : DataType → Keyword
  | .boolean => .boolean
  | .decimal _ _ => .decimal
  | .double => .double
  | .varchar _ _ => .varchar
  | .char _ _ => .char
  | .date => .date
  | .timestamp _ => .timestamp
  | .interval .yearToMonth _ _ => .yearToMonth
  | .interval .dayToSecond _ _ => .dayToSecond
  | .unsupported => .unsupported

/-- What follows the word. -/
def tail : DataType → List Char
  | .decimal precision scale =>
    Nat.toDigits 10 precision ++ ',' :: ' ' :: (Nat.toDigits 10 scale ++ [')'])
  | .varchar size charset => Nat.toDigits 10 size ++ ')' :: ' ' :: charset.name.toList
  | .char size charset => Nat.toDigits 10 size ++ ')' :: ' ' :: charset.name.toList
  | .timestamp fractionalPrecision => Nat.toDigits 10 fractionalPrecision ++ [')']
  | .interval .yearToMonth precision _ => Nat.toDigits 10 precision ++ ')' :: " TO MONTH".toList
  | .interval .dayToSecond precision fraction =>
    Nat.toDigits 10 precision ++ ')' ::
      (" TO SECOND (".toList ++ (Nat.toDigits 10 fraction ++ [')']))
  | _ => []

/-- The text of a type is its keyword and what follows from its sizes.  The two are told apart one
after the other when types are read from a list of columns. -/
theorem toList_toText (type : DataType) :
    type.toText.toList = type.keyword.text.toList ++ type.tail := by
  unfold toText keyword tail
  cases type using casesByText <;>
    simp only [Keyword.text, Nat.toString_eq_repr, String.toList_append, String.reduceToList,
      Nat.toList_repr, List.cons_append, List.nil_append, List.append_nil, List.append_assoc]

/-- A number can be told from its digits up to the first other character.  Without such a character
the digits of what follows could be taken for its own. -/
theorem digits_cons_injective {n m : Nat} {c : Char} {rest other : List Char}
    (same : Nat.toDigits 10 n ++ c :: rest = Nat.toDigits 10 m ++ c :: other)
    (stop : c.isDigit = false) : n = m ∧ rest = other := by
  have stops : ∀ tail : List Char, ∀ d ∈ (c :: tail).head?, d.isDigit = false := by
    intro tail d first
    obtain rfl : c = d := by simpa using first
    exact stop
  obtain ⟨sameNumber, sameRest⟩ := digits_append_injective (stops rest) (stops other) same
  exact ⟨sameNumber, List.tail_eq_of_cons_eq sameRest⟩

theorem charset_prefixFree : PrefixFree fun charset : Charset => charset.name.toList :=
  @PrefixFree.of_table _ _ _ _ _ [.utf8, .ascii] (fun charset => by cases charset <;> decide)
    (by decide)

/-- A size and a character set can be told from their texts. -/
theorem sized_append_injective {size size' : Nat} {charset charset' : Charset}
    {rest other : List Char}
    (same : Nat.toDigits 10 size ++ ')' :: ' ' :: charset.name.toList ++ rest =
      Nat.toDigits 10 size' ++ ')' :: ' ' :: charset'.name.toList ++ other) :
    size = size' ∧ charset = charset' ∧ rest = other := by
  simp only [List.append_assoc, List.cons_append] at same
  obtain ⟨rfl, charsets⟩ := digits_cons_injective same (by decide)
  obtain ⟨rfl, rests⟩ := charset_prefixFree.eq_of_append_eq (List.tail_eq_of_cons_eq charsets)
  exact ⟨rfl, rfl, rests⟩

/-- What follows the word tells the rest of the type, also where more text follows.  The fraction of
a day interval is the one part that is not written. -/
theorem tail_append_injective {left right : DataType} {rest other : List Char}
    (sameKeyword : left.keyword = right.keyword)
    (same : left.tail ++ rest = right.tail ++ other) :
    left.printed = right.printed ∧ rest = other := by
  -- Types with one keyword have tails of one shape; their sizes are told by what follows the
  -- digits.
  cases left using casesByText with
  | boolean =>
    cases right using casesByText with
    | boolean => exact ⟨rfl, same⟩
    | _ => cases sameKeyword
  | decimal precision scale =>
    cases right using casesByText with
    | decimal precision' scale' =>
      simp only [tail, List.append_assoc, List.cons_append, List.nil_append] at same
      obtain ⟨rfl, scales⟩ := digits_cons_injective same (by decide)
      obtain ⟨rfl, rests⟩ := digits_cons_injective (List.tail_eq_of_cons_eq scales) (by decide)
      exact ⟨rfl, rests⟩
    | _ => cases sameKeyword
  | double =>
    cases right using casesByText with
    | double => exact ⟨rfl, same⟩
    | _ => cases sameKeyword
  | varchar size charset =>
    cases right using casesByText with
    | varchar size' charset' =>
      obtain ⟨rfl, rfl, rests⟩ := sized_append_injective same
      exact ⟨rfl, rests⟩
    | _ => cases sameKeyword
  | char size charset =>
    cases right using casesByText with
    | char size' charset' =>
      obtain ⟨rfl, rfl, rests⟩ := sized_append_injective same
      exact ⟨rfl, rests⟩
    | _ => cases sameKeyword
  | date =>
    cases right using casesByText with
    | date => exact ⟨rfl, same⟩
    | _ => cases sameKeyword
  | timestamp fractionalPrecision =>
    cases right using casesByText with
    | timestamp fractionalPrecision' =>
      simp only [tail, List.append_assoc, List.cons_append, List.nil_append] at same
      obtain ⟨rfl, rests⟩ := digits_cons_injective same (by decide)
      exact ⟨rfl, rests⟩
    | _ => cases sameKeyword
  | yearToMonth precision fraction =>
    cases right using casesByText with
    | yearToMonth precision' fraction' =>
      simp only [tail, List.append_assoc, List.cons_append] at same
      obtain ⟨rfl, rests⟩ := digits_cons_injective same (by decide)
      exact ⟨rfl, List.append_cancel_left rests⟩
    | _ => cases sameKeyword
  | dayToSecond precision fraction =>
    cases right using casesByText with
    | dayToSecond precision' fraction' =>
      simp only [tail, List.append_assoc, List.cons_append, List.nil_append] at same
      obtain ⟨rfl, fractions⟩ := digits_cons_injective same (by decide)
      obtain ⟨rfl, rests⟩ :=
        digits_cons_injective (List.append_cancel_left fractions) (by decide)
      exact ⟨rfl, rests⟩
    | _ => cases sameKeyword
  | unsupported =>
    cases right using casesByText with
    | unsupported => exact ⟨rfl, same⟩
    | _ => cases sameKeyword

/-- No text of a type is the beginning of another one, so types are told by their texts also
where more text follows. -/
theorem toText_append_injective {left right : DataType} {rest other : List Char}
    (same : left.toText.toList ++ rest = right.toText.toList ++ other) :
    left.printed = right.printed ∧ rest = other := by
  rw [toList_toText, toList_toText, List.append_assoc, List.append_assoc] at same
  obtain ⟨sameKeyword, tails⟩ := Keyword.prefixFree.eq_of_append_eq same
  exact tail_append_injective sameKeyword tails

end DataType

end Pushdown
