/-
Module: Pushdown.Yaml.Printer
Purpose: YAML values, what plain texts mean, and how values are printed.
Main exports: Yaml.Value, Yaml.Value.ofJson, Yaml.Value.toJson, Yaml.isTruthWord,
  Yaml.isOtherValue, Yaml.ScalarStyle, Yaml.ScalarStyle.choose, Yaml.Value.toYaml
-/
import Pushdown.Json.Basic
import Pushdown.Number
import Pushdown.Text.Value
import Pushdown.Yaml.Cursor

namespace Pushdown.Yaml

/-! ## Values

YAML has all values that JSON has, and tags on top of them.  A tagged value has a JSON form too:
a record with the tag as its only key.
-/

/-- A value to be written. -/
inductive Value where
  | null
  | bool (value : Bool)
  | number (value : Json.Number)
  | text (value : String)
  | sequence (elements : List Value)
  | mapping (members : List (String × Value))
  | tagged (tag : String) (value : Value)
deriving Repr, Inhabited

namespace Value

/-- A whole number as a value. -/
def whole (value : Int) : Value := .number (.whole value)

/-- A natural number as a value. -/
def natural (value : Nat) : Value := .number (.whole value)

/-- A list of texts as a value. -/
def texts (values : List String) : Value := .sequence (values.map .text)

mutual

/-- The value of a JSON value. -/
def ofJson : Json → Value
  | .null => .null
  | .bool value => .bool value
  | .number value => .number value
  | .text value => .text value
  | .array elements => .sequence (ofElements elements)
  | .object members => .mapping (ofMembers members)

/-- The values of the elements of an array. -/
def ofElements : List Json → List Value
  | [] => []
  | element :: rest => ofJson element :: ofElements rest

/-- The values of the members of an object. -/
def ofMembers : List (String × Json) → List (String × Value)
  | [] => []
  | (key, value) :: rest => (key, ofJson value) :: ofMembers rest

end

mutual

/-- The JSON form of a value. -/
def toJson : Value → Json
  | .null => .null
  | .bool value => .bool value
  | .number value => .number value
  | .text value => .text value
  | .sequence elements => .array (elementsToJson elements)
  | .mapping members => .object (membersToJson members)
  | .tagged tag value => .object [(tag, value.toJson)]

/-- The JSON forms of elements. -/
def elementsToJson : List Value → List Json
  | [] => []
  | element :: rest => element.toJson :: elementsToJson rest

/-- The JSON forms of members. -/
def membersToJson : List (String × Value) → List (String × Json)
  | [] => []
  | (key, value) :: rest => (key, value.toJson) :: membersToJson rest

end

end Value

/-! ## Meanings of plain texts

A reader that is not told what to expect takes some plain scalars for null, for a truth value or
for a number.  Texts that look so have to be quoted.  Older readers take further words for truth
values, and digits behind a leading zero are a number to some and a text to others; such texts
are quoted as well.
-/

/-- The words that some reader takes for truth values. -/
def truthWords : List String :=
  ["y", "Y", "yes", "Yes", "YES", "n", "N", "no", "No", "NO", "true", "True", "TRUE", "false",
   "False", "FALSE", "on", "On", "ON", "off", "Off", "OFF"]

/-- Whether some reader takes a text for a truth value. -/
def isTruthWord (text : String) : Bool := truthWords.contains text

/-- The words for null; an empty scalar is null as well. -/
def nullWords : List String := ["", "null", "Null", "NULL", "~"]

/-- What follows a given sign, if a text starts with it. -/
def afterSign (sign : Char) : List Char → List Char
  | c :: rest => if c = sign then rest else c :: rest
  | [] => []

/-- Whether a text starts with a sign. -/
def startsSigned : List Char → Bool
  | c :: _ => c == '+' || c == '-'
  | [] => false

/-- Whether characters are digits of a base and denote a number that is at most `bound`. -/
def isDigitsWithin (base bound : Nat) (digits : List Char) : Bool :=
  digits != [] &&
    match digits.mapM Text.hexValue? with
    | some values =>
      values.all (fun value => decide (value < base)) &&
        decide (values.foldl (fun sum value => sum * base + value) 0 ≤ bound)
    | none => false

/-- Whether a text is a zero with further digits behind it, with or without a sign. -/
def isPadded (cs : List Char) : Bool :=
  match if startsSigned cs then cs.drop 1 else cs with
  | '0' :: c :: rest => (c :: rest).all Char.isDigit
  | _ => false

/-- Whether a text without a sign is a whole number up to a bound: decimal, or after a mark of
its base. -/
def isUnsigned (bound : Nat) : List Char → Bool
  | '0' :: 'x' :: digits => isDigitsWithin 16 bound digits
  | '0' :: 'o' :: digits => isDigitsWithin 8 bound digits
  | '0' :: 'b' :: digits => isDigitsWithin 2 bound digits
  | digits => !isPadded digits && isDigitsWithin 10 bound digits

/-- Two to the power of one hundred and twenty-seven. -/
def greatestNegated : Nat := 0x80000000000000000000000000000000

/-- The greatest number of one hundred and twenty-eight bits. -/
def greatestUnsigned : Nat := 0xFFFFFFFFFFFFFFFFFFFFFFFFFFFFFFFF

/-- Whether a text is a whole number of one hundred and twenty-eight bits. -/
def isInteger (cs : List Char) : Bool :=
  match cs with
  | '-' :: rest => isUnsigned greatestNegated rest
  | _ => isUnsigned greatestUnsigned (afterSign '+' cs)

/-- A decimal number as written without its sign: the digits before and after the point, and the
exponent. -/
structure Decimal where
  whole : List Char
  fraction : List Char
  exponent : Int

/-- Reads an exponent that may be missing. -/
def exponent? : List Char → Option Int
  | [] => some 0
  | c :: rest =>
    if c = 'e' || c = 'E' then
      let digits := if startsSigned rest then rest.drop 1 else rest
      if digits != [] && digits.all Char.isDigit then
        let value : Int := Text.digitsValue digits
        some (if rest.head? = some '-' then -value else value)
      else none
    else none

/-- Reads a decimal number with or without a point and an exponent. -/
def decimal? (cs : List Char) : Option Decimal :=
  let whole := cs.takeWhile Char.isDigit
  let rest := cs.drop whole.length
  let (fraction, rest) :=
    match rest with
    | '.' :: rest => (rest.takeWhile Char.isDigit, rest.dropWhile Char.isDigit)
    | _ => ([], rest)
  if whole = [] && fraction = [] then none
  else (exponent? rest).map fun exponent => ⟨whole, fraction, exponent⟩

/-- Whether a decimal number is small enough for a double.  Only so many digits and so large an
exponent can matter that the powers of ten stay small. -/
def Decimal.fits (decimal : Decimal) : Bool :=
  let digits := (decimal.whole ++ decimal.fraction).dropWhile (· == '0')
  let scale := decimal.exponent - decimal.fraction.length
  let magnitude := scale + digits.length
  if digits = [] || magnitude < 300 then true
  else if 310 < magnitude then false
  else
    (Double.ofRatio false (Text.digitsValue digits * Nat.pow 10 scale.toNat)
      (Nat.pow 10 (-scale).toNat)).isFinite

/-- The words for numbers that are not finite. -/
def specialWords : List String :=
  [".inf", ".Inf", ".INF", "+.inf", "+.Inf", "+.INF", "-.inf", "-.Inf", "-.INF", ".nan", ".NaN",
   ".NAN"]

/-- Whether a text is a number with a point or an exponent. -/
def isReal (cs : List Char) : Bool :=
  specialWords.contains (String.ofList cs) ||
    match decimal? (if startsSigned cs then cs.drop 1 else cs) with
    | some decimal => decimal.fits
    | none => false

/-- Whether a plain scalar is not, or not to all readers, the text that it spells. -/
def isOtherValue (text : String) : Bool :=
  let cs := text.toList
  nullWords.contains text || isTruthWord text || isInteger cs || isPadded cs || isReal cs

/-! ## Printing

Collections are written as indented lines, two columns deeper at each level, but a sequence that
is the value of a member is indented no deeper than its key.  Empty collections are written as
brackets.

A text is written without quotes if it can be, between single quotes if it would be taken for
something else, as a block if it has several lines, and between double quotes if all that fails.
Lines are never folded.
-/

/-! ### Choosing the form of a text -/

/-- The forms of a text. -/
inductive ScalarStyle where
  | plain
  | single
  | double
  | literal
deriving Repr, DecidableEq

/-- Whether a character can be written as it is. -/
def isPrintable (c : Char) : Bool :=
  let code := c.toNat
  code == 0x0A || (0x20 ≤ code && code ≤ 0x7E) ||
    (0xA0 ≤ code && code ≤ 0xFFFD && code != 0xFEFF) || 0x10000 ≤ code

/-- Whether somewhere a character that passes one test is followed by one that passes another. -/
def hasPair (first second : Char → Bool) : List Char → Bool
  | c :: d :: rest => (first c && second d) || hasPair first second (d :: rest)
  | _ => false

/-- Whether a text of several lines has blanks at line breaks, so that only escapes keep it. -/
def isFrayed (cs : List Char) : Bool :=
  hasPair (· == ' ') isBreak cs || !cs.all isPrintable

/-- Whether a text starts or ends with a blank or a line break. -/
def hasOuterSpace (cs : List Char) : Bool :=
  let isSpace := fun c => c == ' ' || isBreak c
  cs.head?.any isSpace || cs.getLast?.any isSpace

/-- Whether a text starts like something other than a text. -/
def startsLikeIndicator : List Char → Bool
  | [] => false
  | c :: rest =>
    "#,[]\x7b\x7d&*!|>\x27\"%@\x60".toList.contains c ||
      ((c == '?' || c == ':' || c == '-') && endsWord rest) ||
      (c :: rest).take 3 == ['-', '-', '-'] || (c :: rest).take 3 == ['.', '.', '.']

/-- Whether a text contains what ends a plain scalar: a colon at the end of a word, or the start
of a comment. -/
def containsIndicator (cs : List Char) : Bool :=
  cs.getLast? == some ':' || hasPair (· == ':') (fun c => isGap c || isBreak c) cs ||
    hasPair (fun c => isGap c || isBreak c) (· == '#') cs

/-- Whether a text can be written without quotes. -/
def allowsPlain (cs : List Char) : Bool :=
  !isFrayed cs && !cs.any isBreak && !hasOuterSpace cs && !startsLikeIndicator cs &&
    !containsIndicator cs

/-- Whether a text can be written between single quotes. -/
def allowsSingle (cs : List Char) : Bool :=
  !isFrayed cs && !hasPair isBreak (· == ' ') cs

/-- Whether a text can be written as a block of lines. -/
def allowsLiteral (cs : List Char) : Bool :=
  !isFrayed cs && cs.getLast? != some ' '

/-- The form in which a text is written. -/
def ScalarStyle.choose (text : String) : ScalarStyle :=
  let cs := text.toList
  if isTruthWord text then .single
  else if cs.contains '\n' then if allowsLiteral cs then .literal else .double
  else if !isOtherValue text && allowsPlain cs then .plain
  else if allowsSingle cs then .single
  else .double

/-! ### Writing texts -/

/-- The text with its lines, but for the first one, two columns further to the right.  Empty
lines stay empty. -/
def indentRest : List Char → List Char
  | c :: d :: rest =>
    if isBreak c && !isBreak d then c :: ' ' :: ' ' :: indentRest (d :: rest)
    else c :: indentRest (d :: rest)
  | cs => cs

/-- A text between single quotes. -/
def singleQuoted (cs : List Char) : List Char :=
  '\x27' :: (cs.flatMap fun c => if c = '\x27' then [c, c] else [c]) ++ ['\x27']

/-- A hexadecimal digit. -/
def upperHexDigit (n : Nat) : Char :=
  if n < 10 then Char.ofNat ('0'.toNat + n) else Char.ofNat ('A'.toNat + n - 10)

/-- A number in a given number of hexadecimal digits. -/
def hexDigits (code : Nat) : (length : Nat) → List Char
  | 0 => []
  | length + 1 => hexDigits (code / 16) length ++ [upperHexDigit (code % 16)]

/-- The letter of a one-letter escape. -/
def escapeLetter? : Char → Option Char
  | '\x00' => some '0'
  | '\x07' => some 'a'
  | '\x08' => some 'b'
  | '\t' => some 't'
  | '\n' => some 'n'
  | '\x0b' => some 'v'
  | '\x0c' => some 'f'
  | '\r' => some 'r'
  | '\x1b' => some 'e'
  | '"' => some '"'
  | '\\' => some '\\'
  | '\u0085' => some 'N'
  | '\u2028' => some 'L'
  | '\u2029' => some 'P'
  | _ => none

/-- How a character is written between double quotes. -/
def escapedCharacter (c : Char) : List Char :=
  match escapeLetter? c with
  | some letter => ['\\', letter]
  | none =>
    if isPrintable c then [c]
    else if c.toNat ≤ 0xFF then '\\' :: 'x' :: hexDigits c.toNat 2
    else if c.toNat ≤ 0xFFFF then '\\' :: 'u' :: hexDigits c.toNat 4
    else '\\' :: 'U' :: hexDigits c.toNat 8

/-- A text between double quotes. -/
def doubleQuoted (cs : List Char) : List Char :=
  '"' :: cs.flatMap escapedCharacter ++ ['"']

/-- What the header of a block says on the line breaks at the end of its text: a hyphen that there
is none, a plus sign that there are empty lines as well. -/
def chompingHint (cs : List Char) : List Char :=
  match cs.reverse with
  | [] => ['-']
  | [c] => if isBreak c then ['+'] else ['-']
  | last :: before :: _ =>
    if !isBreak last then ['-'] else if isBreak before then ['+'] else []

/-- A text as a block: its header and its lines.  The header says how deeply the block is
indented where the text itself starts with a blank. -/
def literalBlock (cs : List Char) : List Char :=
  let indentation := if cs.head?.any (fun c => c == ' ' || isBreak c) then ['2'] else []
  '|' :: indentation ++ chompingHint cs ++ '\n' :: cs

/-- A text in its form, where further lines belong two columns deeper. -/
def scalarText (text : String) : List Char :=
  let cs := text.toList
  match ScalarStyle.choose text with
  | .plain => cs
  | .single => indentRest (singleQuoted cs)
  | .double => doubleQuoted cs
  | .literal => indentRest (literalBlock cs)

/-! ### Writing collections -/

/-- The text with a line break at its end. -/
def terminated (cs : List Char) : List Char :=
  if cs.getLast?.any isBreak then cs else cs ++ ['\n']

namespace Value

/-- Whether a value takes lines of its own. -/
def isBlock : Value → Bool
  | .sequence elements => !elements.isEmpty
  | .mapping members => !members.isEmpty
  | _ => false

/-- Whether a value is a mapping. -/
def isMapping : Value → Bool
  | .mapping _ => true
  | _ => false

mutual

/-- A value from the place on where its first line starts. -/
def lines : Value → List Char
  | .null => "null".toList
  | .bool true => "true".toList
  | .bool false => "false".toList
  | .number value => value.toText.toList
  | .text value => scalarText value
  | .tagged tag value => '!' :: tag.toList ++ ' ' :: value.lines
  | .sequence elements => if elements.isEmpty then "[]".toList else elementLines elements
  | .mapping members => if members.isEmpty then "\x7b\x7d".toList else memberLines members

/-- The elements of a sequence. -/
def elementLines : List Value → List Char
  | [] => []
  | element :: rest =>
    let text := if element.isBlock then indentRest element.lines else element.lines
    '-' :: ' ' :: terminated text ++ elementLines rest

/-- The members of a mapping. -/
def memberLines : List (String × Value) → List Char
  | [] => []
  | (key, value) :: rest =>
    let text :=
      if !value.isBlock then ' ' :: value.lines
      else if value.isMapping then '\n' :: ' ' :: ' ' :: indentRest value.lines
      else '\n' :: value.lines
    scalarText key ++ ':' :: terminated text ++ memberLines rest

end

/-- The YAML text of a value. -/
def toYaml (value : Value) : String := String.ofList (terminated value.lines)

end Value

end Pushdown.Yaml
