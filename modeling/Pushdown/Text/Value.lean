/-
Module: Pushdown.Text.Value
Purpose: What property values consist of: blanks, entries of lists, and numerals.
Main exports: isBlank, trim, pieces, entries, isDecimalDigit, hexValue?, readNat?, readInt?
-/

namespace Pushdown.Text

/-! ## Blanks

Property values, exclusion lists and version strings may be surrounded by any white space, not
only by the ASCII kinds.  Trimming works on the list of characters, so a statement about it is a
statement about `List.dropWhile`.
-/

/-- The characters with the property White_Space. -/
def isBlank (c : Char) : Bool :=
  let code := c.toNat
  (0x09 ≤ code && code ≤ 0x0D) || code == 0x20 || code == 0x85 || code == 0xA0 ||
    code == 0x1680 || (0x2000 ≤ code && code ≤ 0x200A) || code == 0x2028 || code == 0x2029 ||
    code == 0x202F || code == 0x205F || code == 0x3000

/-- A list of characters without its blanks at either end. -/
def trimChars (cs : List Char) : List Char :=
  ((cs.dropWhile isBlank).reverse.dropWhile isBlank).reverse

/-- A text without its blanks at either end. -/
def trim (text : String) : String :=
  String.ofList (trimChars text.toList)

/-! ## Lists

A property may hold a list: its entries stand between commas, blanks around an entry do not
count, and empty entries are dropped.
-/

/-- The stretches of a list of characters between the occurrences of a separator; one more than
there are separators. -/
def pieces (separator : Char) : List Char → List (List Char)
  | [] => [[]]
  | c :: rest =>
    if c = separator then [] :: pieces separator rest
    else
      match pieces separator rest with
      | [] => [[c]]
      | piece :: others => (c :: piece) :: others

/-- The non-empty trimmed entries of a comma separated list. -/
def entries (text : String) : List String :=
  (((pieces ',' text.toList).map trimChars).filter (· ≠ [])).map String.ofList

/-! ## Numerals

Numbers in the configuration are written in ASCII digits with an optional sign; leading zeros are
allowed and the value has to lie in the range of the field that it fills.  Version strings are
matched by the decimal digits of all scripts, although only ASCII digits have a value here.
-/

/-- First and last code point of each block of decimal digits, the category Nd of Unicode 16. -/
def decimalDigitBlocks : List (Nat × Nat) :=
  [(0x30, 0x39), (0x660, 0x669), (0x6F0, 0x6F9), (0x7C0, 0x7C9), (0x966, 0x96F), (0x9E6, 0x9EF),
   (0xA66, 0xA6F), (0xAE6, 0xAEF), (0xB66, 0xB6F), (0xBE6, 0xBEF), (0xC66, 0xC6F), (0xCE6, 0xCEF),
   (0xD66, 0xD6F), (0xDE6, 0xDEF), (0xE50, 0xE59), (0xED0, 0xED9), (0xF20, 0xF29),
   (0x1040, 0x1049), (0x1090, 0x1099), (0x17E0, 0x17E9), (0x1810, 0x1819), (0x1946, 0x194F),
   (0x19D0, 0x19D9), (0x1A80, 0x1A89), (0x1A90, 0x1A99), (0x1B50, 0x1B59), (0x1BB0, 0x1BB9),
   (0x1C40, 0x1C49), (0x1C50, 0x1C59), (0xA620, 0xA629), (0xA8D0, 0xA8D9), (0xA900, 0xA909),
   (0xA9D0, 0xA9D9), (0xA9F0, 0xA9F9), (0xAA50, 0xAA59), (0xABF0, 0xABF9), (0xFF10, 0xFF19),
   (0x104A0, 0x104A9), (0x10D30, 0x10D39), (0x10D40, 0x10D49), (0x11066, 0x1106F),
   (0x110F0, 0x110F9), (0x11136, 0x1113F), (0x111D0, 0x111D9), (0x112F0, 0x112F9),
   (0x11450, 0x11459), (0x114D0, 0x114D9), (0x11650, 0x11659), (0x116C0, 0x116C9),
   (0x116D0, 0x116E3), (0x11730, 0x11739), (0x118E0, 0x118E9), (0x11950, 0x11959),
   (0x11BF0, 0x11BF9), (0x11C50, 0x11C59), (0x11D50, 0x11D59), (0x11DA0, 0x11DA9),
   (0x11F50, 0x11F59), (0x16130, 0x16139), (0x16A60, 0x16A69), (0x16AC0, 0x16AC9),
   (0x16B50, 0x16B59), (0x16D70, 0x16D79), (0x1CCF0, 0x1CCF9), (0x1D7CE, 0x1D7FF),
   (0x1E140, 0x1E149), (0x1E2F0, 0x1E2F9), (0x1E4F0, 0x1E4F9), (0x1E5F1, 0x1E5FA),
   (0x1E950, 0x1E959), (0x1FBF0, 0x1FBF9)]

/-- Whether a character is a decimal digit of some script. -/
def isDecimalDigit (c : Char) : Bool :=
  decimalDigitBlocks.any fun block => block.1 ≤ c.toNat && c.toNat ≤ block.2

/-- The value of an ASCII digit. -/
def digitValue (c : Char) : Nat := c.toNat - '0'.toNat

/-- The value of a hexadecimal digit. -/
def hexValue? (c : Char) : Option Nat :=
  if '0' ≤ c && c ≤ '9' then some (c.toNat - '0'.toNat)
  else if 'a' ≤ c && c ≤ 'f' then some (c.toNat - 'a'.toNat + 10)
  else if 'A' ≤ c && c ≤ 'F' then some (c.toNat - 'A'.toNat + 10)
  else none

/-- The number that a list of ASCII digits denotes, most significant first. -/
def digitsValue (digits : List Char) : Nat :=
  digits.foldl (fun value c => value * 10 + digitValue c) 0

/-- The number that a non-empty list of ASCII digits denotes, if it is at most `bound`. -/
def digitsWithin? (bound : Nat) (digits : List Char) : Option Nat :=
  if digits ≠ [] && digits.all Char.isDigit && digitsValue digits ≤ bound then
    some (digitsValue digits)
  else none

/-- Reads an optional plus sign and digits as a number that is at most `bound`. -/
def readNat? (bound : Nat) (text : String) : Option Nat :=
  match text.toList with
  | '+' :: digits => digitsWithin? bound digits
  | digits => digitsWithin? bound digits

/-- Reads an optional sign and digits as a number between `-below` and `above`. -/
def readInt? (below above : Nat) (text : String) : Option Int :=
  match text.toList with
  | '-' :: digits => (digitsWithin? below digits).map fun value => -(value : Int)
  | '+' :: digits => (digitsWithin? above digits).map fun value => (value : Int)
  | digits => (digitsWithin? above digits).map fun value => (value : Int)

end Pushdown.Text
