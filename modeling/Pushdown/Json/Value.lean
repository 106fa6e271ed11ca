/-
Module: Pushdown.Json.Value
Purpose: Reading JSON: the grammar of documents, their values, and the records in them.
Main exports: Written, Written.Character, Written.Numeral, Written.value?, Json.read?, Fields,
  Fields.ofWritten?, Fields.take?
-/
import Pushdown.Json.Basic
import Pushdown.Text.Value

namespace Pushdown.Json

/-! ## Grammar

Reading a document has two parts.  The first, here, checks the grammar: brackets, commas, the
spelling of numbers and the escapes of strings.  The second gives a value to what was read, and
that part can fail as well: a numeral may be out of range, an escape may be half of a pair, and
nesting may be too deep.  The two are kept apart because members of a record that nobody asks for
only have to be grammatical.

The reader takes an amount of fuel that each step of the descent spends one unit of.  The length
of the text is always enough, since no step leaves the text as it was.
-/

/-- One character of a string as written: itself, or an escape by a UTF-16 unit. -/
inductive Character where
  | plain (c : Char)
  | unit (code : Nat)
deriving Repr, DecidableEq

/-- A number as written: its sign, its digits before and after the point, and its exponent with
the sign of that. -/
structure Numeral where
  negative : Bool
  whole : List Char
  fraction : List Char
  hasFraction : Bool
  exponent : Option (Bool × List Char)
deriving Repr, DecidableEq

/-- A document as written. -/
inductive Written where
  | null
  | bool (value : Bool)
  | number (numeral : Numeral)
  | text (characters : List Character)
  | array (elements : List Written)
  | object (members : List (List Character × Written))
deriving Repr, Inhabited

namespace Written

/-- The four blanks that may stand between the parts of a document. -/
def isGap (c : Char) : Bool :=
  c == ' ' || c == '\n' || c == '\t' || c == '\r'

/-- What follows the blanks at the start of a text. -/
def skipGap (cs : List Char) : List Char := cs.dropWhile isGap

/-- What follows a given beginning. -/
def after? (beginning cs : List Char) : Option (List Char) :=
  match beginning, cs with
  | [], rest => some rest
  | expected :: beginning, c :: rest => if c = expected then after? beginning rest else none
  | _ :: _, [] => none

/-- The UTF-16 unit that four hexadecimal digits denote. -/
def unitValue? (a b c d : Char) : Option Nat :=
  match Text.hexValue? a, Text.hexValue? b, Text.hexValue? c, Text.hexValue? d with
  | some a, some b, some c, some d => some (((a * 16 + b) * 16 + c) * 16 + d)
  | _, _, _, _ => none

/-- The character that a one-letter escape stands for. -/
def simpleEscape? : Char → Option Char
  | '"' => some '"'
  | '\\' => some '\\'
  | '/' => some '/'
  | 'b' => some '\x08'
  | 'f' => some '\x0c'
  | 'n' => some '\n'
  | 'r' => some '\r'
  | 't' => some '\t'
  | _ => none

/-- Reads a string after its opening quote, up to and including the closing one. -/
def readString? : List Char → Option (List Character × List Char)
  | [] => none
  | '"' :: rest => some ([], rest)
  | '\\' :: 'u' :: a :: b :: c :: d :: rest =>
    match unitValue? a b c d, readString? rest with
    | some code, some (characters, rest) => some (.unit code :: characters, rest)
    | _, _ => none
  | '\\' :: c :: rest =>
    match simpleEscape? c, readString? rest with
    | some escaped, some (characters, rest) => some (.plain escaped :: characters, rest)
    | _, _ => none
  | c :: rest =>
    if c = '\\' || c.toNat < 0x20 then none
    else
      match readString? rest with
      | some (characters, rest) => some (.plain c :: characters, rest)
      | none => none

/-- The digits at the start of a text, and what follows them. -/
def readDigits (cs : List Char) : List Char × List Char :=
  (cs.takeWhile Char.isDigit, cs.dropWhile Char.isDigit)

/-- Reads the digits before the point: a zero alone, or digits that start with no zero. -/
def readWhole? (cs : List Char) : Option (List Char × List Char) :=
  match readDigits cs with
  | ([], _) => none
  | (['0'], rest) => some (['0'], rest)
  | (first :: digits, rest) => if first = '0' then none else some (first :: digits, rest)

/-- Reads a point with the digits after it, if there is a point. -/
def readFraction? (cs : List Char) : Option (Option (List Char) × List Char) :=
  match cs with
  | '.' :: rest =>
    match readDigits rest with
    | ([], _) => none
    | (digits, rest) => some (some digits, rest)
  | _ => some (none, cs)

/-- Reads an exponent after its letter; the flag tells a negative one. -/
def readPower? (cs : List Char) : Option ((Bool × List Char) × List Char) :=
  let (negative, cs) :=
    match cs with
    | '+' :: rest => (false, rest)
    | '-' :: rest => (true, rest)
    | _ => (false, cs)
  match readDigits cs with
  | ([], _) => none
  | (digits, rest) => some ((negative, digits), rest)

/-- Reads an exponent, if there is one. -/
def readExponent? (cs : List Char) : Option (Option (Bool × List Char) × List Char) :=
  match cs with
  | 'e' :: rest => (readPower? rest).map fun (power, rest) => (some power, rest)
  | 'E' :: rest => (readPower? rest).map fun (power, rest) => (some power, rest)
  | _ => some (none, cs)

/-- Reads a number after its sign. -/
def readUnsigned? (negative : Bool) (cs : List Char) : Option (Numeral × List Char) :=
  match readWhole? cs with
  | none => none
  | some (whole, cs) =>
    match readFraction? cs with
    | none => none
    | some (fraction, cs) =>
      match readExponent? cs with
      | none => none
      | some (exponent, cs) =>
        some (⟨negative, whole, fraction.getD [], fraction.isSome, exponent⟩, cs)

/-- Reads a number. -/
def readNumeral? : List Char → Option (Numeral × List Char)
  | '-' :: rest => readUnsigned? true rest
  | cs => readUnsigned? false cs

mutual

/-- Reads one value at the start of a text without leading blanks. -/
def readValue? : (fuel : Nat) → List Char → Option (Written × List Char)
  | 0, _ => none
  | _ + 1, '"' :: rest =>
    (readString? rest).map fun (characters, rest) => (.text characters, rest)
  | fuel + 1, '[' :: rest =>
    match skipGap rest with
    | ']' :: rest => some (.array [], rest)
    | rest =>
      (readElements? fuel rest).map fun (elements, rest) => (.array elements, rest)
  | fuel + 1, '{' :: rest =>
    match skipGap rest with
    | '}' :: rest => some (.object [], rest)
    | rest =>
      (readMembers? fuel rest).map fun (members, rest) => (.object members, rest)
  | _ + 1, 'n' :: rest => (after? ['u', 'l', 'l'] rest).map fun rest => (.null, rest)
  | _ + 1, 't' :: rest => (after? ['r', 'u', 'e'] rest).map fun rest => (.bool true, rest)
  | _ + 1, 'f' :: rest => (after? ['a', 'l', 's', 'e'] rest).map fun rest => (.bool false, rest)
  | _ + 1, cs => (readNumeral? cs).map fun (numeral, rest) => (.number numeral, rest)

/-- Reads the elements of an array from the first one to the closing bracket. -/
def readElements? : (fuel : Nat) → List Char → Option (List Written × List Char)
  | 0, _ => none
  | fuel + 1, cs =>
    match readValue? fuel cs with
    | none => none
    | some (element, cs) =>
      match skipGap cs with
      | ']' :: rest => some ([element], rest)
      | ',' :: rest =>
        (readElements? fuel (skipGap rest)).map fun (elements, rest) =>
          (element :: elements, rest)
      | _ => none

/-- Reads the members of an object from the first key to the closing brace. -/
def readMembers? : (fuel : Nat) → List Char → Option (List (List Character × Written) × List Char)
  | 0, _ => none
  | fuel + 1, '"' :: cs =>
    match readString? cs with
    | none => none
    | some (key, cs) =>
      match skipGap cs with
      | ':' :: cs =>
        match readValue? fuel (skipGap cs) with
        | none => none
        | some (value, cs) =>
          match skipGap cs with
          | '}' :: rest => some ([(key, value)], rest)
          | ',' :: rest =>
            (readMembers? fuel (skipGap rest)).map fun (members, rest) =>
              ((key, value) :: members, rest)
          | _ => none
      | _ => none
  | _ + 1, _ => none

end

/-- Reads a whole document: one value with nothing but blanks around it. -/
def read? (text : String) : Option Written :=
  let cs := text.toList
  match readValue? (cs.length + 1) (skipGap cs) with
  | some (document, rest) => if skipGap rest = [] then some document else none
  | none => none

end Written

/-! ## Values

Three things can deny a grammatical document its value: half of a surrogate pair in a string, a
number too large for a double, and nesting beyond a limit.

A numeral without point and exponent is a whole number as far as it fits sixty-four bits, signed
or unsigned.  Every other numeral is a double, and it is computed in two steps: the digits are
gathered into a significand of at most sixty-four bits, then the significand is scaled by a
rounded power of ten.  Both steps round, so the result may differ from the nearest double in its
last place.
-/

namespace Numeral

/-- The greatest significand. -/
def greatestSignificand : Nat := 0xFFFFFFFFFFFFFFFF

/-- A significand and the power of ten that it counts. -/
structure Scaled where
  significand : Nat
  exponent : Int
deriving Repr, DecidableEq

/-- The value of a digit. -/
def digit (c : Char) : Nat := c.toNat - '0'.toNat

/-- Whether one more digit still fits the significand. -/
def Scaled.fits (scaled : Scaled) (c : Char) : Bool :=
  scaled.significand * 10 + digit c ≤ greatestSignificand

/-- Gathers digits before the point.  From the first digit on that does not fit, digits only
count. -/
def gatherWhole (scaled : Scaled) : List Char → Scaled
  | [] => scaled
  | c :: rest =>
    if scaled.fits c then gatherWhole ⟨scaled.significand * 10 + digit c, 0⟩ rest
    else ⟨scaled.significand, (c :: rest).length⟩

/-- Gathers digits after the point.  From the first digit on that does not fit, digits are
ignored. -/
def gatherFraction (scaled : Scaled) : List Char → Scaled
  | [] => scaled
  | c :: rest =>
    if scaled.fits c then
      gatherFraction ⟨scaled.significand * 10 + digit c, scaled.exponent - 1⟩ rest
    else scaled

/-- The digits of a numeral without regard to its exponent. -/
def gathered (numeral : Numeral) : Scaled :=
  gatherFraction (gatherWhole ⟨0, 0⟩ numeral.whole) numeral.fraction

/-- The double nearest to a power of ten. -/
def powerOfTen (exponent : Nat) : Double := .ofRatio false (Nat.pow 10 exponent) 1

/-- The greatest power of ten that is a finite double. -/
def greatestPower : Nat := 308

/-- Scales a double down by a power of ten, in steps of the greatest power.  Three steps turn any
significand into zero, so the fuel never runs out. -/
def scaledDown (x : Double) (exponent : Nat) : (fuel : Nat) → Double
  | 0 => x
  | fuel + 1 =>
    if exponent ≤ greatestPower then x.dividedBy (powerOfTen exponent)
    else if x.isZero then x
    else scaledDown (x.dividedBy (powerOfTen greatestPower)) (exponent - greatestPower) fuel

/-- The double `significand * 10 ^ exponent`, if it is not too large. -/
def toDouble? (scaled : Scaled) : Option Double :=
  let x := Double.ofRatio false scaled.significand 1
  if scaled.exponent < 0 then some (scaledDown x (-scaled.exponent).toNat 4)
  else if scaled.exponent ≤ greatestPower then
    let product := x.times (powerOfTen scaled.exponent.toNat)
    if product.isFinite then some product else none
  else if x.isZero then some x
  else none

/-- A double with the sign of the numeral. -/
def signed (numeral : Numeral) (x : Double) : Number :=
  .real (.ofMagnitude numeral.negative x.magnitudeBits)

/-- The greatest exponent that is taken at its word. -/
def greatestExponent : Nat := 2147483647

/-- The number that a digit list denotes. -/
def digitsValue (digits : List Char) : Nat :=
  digits.foldl (fun value c => value * 10 + digit c) 0

/-- The value of a numeral with a point or an exponent. -/
def realValue? (numeral : Numeral) : Option Number :=
  let scaled := numeral.gathered
  match numeral.exponent with
  | none => (toDouble? scaled).map numeral.signed
  | some (negative, digits) =>
    let power := digitsValue digits
    if greatestExponent < power then
      if scaled.significand = 0 || negative then some (numeral.signed (.ofMagnitude false 0))
      else none
    else
      let exponent := if negative then scaled.exponent - power else scaled.exponent + power
      (toDouble? ⟨scaled.significand, exponent⟩).map numeral.signed

/-- The value of a numeral. -/
def value? (numeral : Numeral) : Option Number :=
  if numeral.hasFraction || numeral.exponent.isSome then numeral.realValue?
  else
    let magnitude := digitsValue numeral.whole
    if numeral.negative then
      if 0 < magnitude && magnitude ≤ 0x8000000000000000 then some (.whole (-(magnitude : Int)))
      else numeral.realValue?
    else if magnitude ≤ greatestSignificand then some (.whole magnitude)
    else numeral.realValue?

end Numeral

/-- Joins the halves of surrogate pairs; a half alone has no value. -/
def charactersValue? : List Character → Option (List Char)
  | [] => some []
  | .plain c :: rest => (charactersValue? rest).map (c :: ·)
  | .unit code :: rest =>
    if code < 0xD800 || 0xDFFF < code then (charactersValue? rest).map (Char.ofNat code :: ·)
    else
      match rest with
      | .unit low :: rest =>
        if code ≤ 0xDBFF && 0xDC00 ≤ low && low ≤ 0xDFFF then
          (charactersValue? rest).map
            (Char.ofNat (0x10000 + (code - 0xD800) * 0x400 + (low - 0xDC00)) :: ·)
        else none
      | _ => none

/-- The text that a written string denotes. -/
def textValue? (characters : List Character) : Option String :=
  (charactersValue? characters).map String.ofList

namespace Written

mutual

/-- The value of a document whose arrays and objects nest at most to a given depth. -/
def value? (depth : Nat) : Written → Option Json
  | .null => some .null
  | .bool value => some (.bool value)
  | .number numeral => numeral.value?.map .number
  | .text characters => (textValue? characters).map .text
  | .array elements =>
    match depth with
    | 0 => none
    | depth + 1 => (elementValues? depth elements).map .array
  | .object members =>
    match depth with
    | 0 => none
    | depth + 1 => (memberValues? depth members).map .object

/-- The values of the elements of an array. -/
def elementValues? (depth : Nat) : List Written → Option (List Json)
  | [] => some []
  | element :: rest =>
    match value? depth element, elementValues? depth rest with
    | some value, some values => some (value :: values)
    | _, _ => none

/-- The keys and values of the members of an object. -/
def memberValues? (depth : Nat) :
    List (List Character × Written) → Option (List (String × Json))
  | [] => some []
  | (key, element) :: rest =>
    match textValue? key, value? depth element, memberValues? depth rest with
    | some key, some value, some values => some ((key, value) :: values)
    | _, _, _ => none

end

end Written

/-- How deeply arrays and objects may nest in a document that is read for its value. -/
def greatestDepth : Nat := 127

/-- Reads a document whose arrays and objects nest at most to a given depth. -/
def readWithin? (depth : Nat) (text : String) : Option Json :=
  match Written.read? text with
  | some document => document.value? depth
  | none => none

/-- Reads a document. -/
def read? (text : String) : Option Json := readWithin? greatestDepth text

/-! ## Records

A record may be given as an object, whose members are found by name, or as an array, whose
elements fill the fields in the order of their declaration.  In an object a field may be given
once at most; members under other names are ignored.  A tagged record is a record whose first
element, or whose member under the name of the tag, tells its kind.
-/

/-- The parts of a record, as given. -/
inductive Fields (α : Type) where
  | named (members : List (String × α))
  | listed (elements : List α)

namespace Fields

variable {α : Type}

/-- The keys of written members decoded, their values left as written. -/
def decodeKeys? : List (List Character × Written) → Option (List (String × Written))
  | [] => some []
  | (key, value) :: rest =>
    match textValue? key, decodeKeys? rest with
    | some key, some members => some ((key, value) :: members)
    | _, _ => none

/-- The parts of a written record. -/
def ofWritten? : Written → Option (Fields Written)
  | .object members => (decodeKeys? members).map .named
  | .array elements => some (.listed elements)
  | _ => none

/-- The only value given for a name; the outer option fails when there are several. -/
def lookup? (members : List (String × α)) (name : String) : Option (Option α) :=
  match members.filter fun member => member.1 == name with
  | [] => some none
  | [member] => some (some member.2)
  | _ => none

/-- What is given for each of several names. -/
def lookupAll? (members : List (String × α)) : List String → Option (List (Option α))
  | [] => some []
  | name :: rest =>
    match lookup? members name, lookupAll? members rest with
    | some value, some values => some (value :: values)
    | _, _ => none

/-- What is given for the fields of a record; an array must not be longer than the record. -/
def take? (fields : Fields α) (names : List String) : Option (List (Option α)) :=
  match fields with
  | .named members => lookupAll? members names
  | .listed elements =>
    if elements.length ≤ names.length then
      some (elements.map some ++ List.replicate (names.length - elements.length) none)
    else none

/-- What is given for the fields of a record; an array must be exactly as long as the record. -/
def takeExactly? (fields : Fields α) (names : List String) : Option (List (Option α)) :=
  match fields with
  | .named members => lookupAll? members names
  | .listed elements =>
    if elements.length = names.length then some (elements.map some) else none

end Fields

/-- A record with its tag. -/
structure Tagged where
  tag : String
  fields : Fields Json

/-- Reads a record whose tag is given under a name or as the first element. -/
def Tagged.read? (tagName : String) : Json → Option Tagged
  | .object members =>
    match members.filter fun member => member.1 == tagName with
    | [(_, .text tag)] =>
      some ⟨tag, .named (members.filter fun member => member.1 != tagName)⟩
    | _ => none
  | .array (.text tag :: elements) => some ⟨tag, .listed elements⟩
  | _ => none

/-- A given text. -/
def readText? : Option Json → Option String
  | some (.text value) => some value
  | _ => none

/-- A text that may be missing or null. -/
def readOptionalText? : Option Json → Option (Option String)
  | none => some none
  | some .null => some none
  | some (.text value) => some (some value)
  | _ => none

/-- A given natural number that is at most `bound`. -/
def readNatural? (bound : Nat) : Option Json → Option Nat
  | some (.number (.whole value)) =>
    if 0 ≤ value && value ≤ bound then some value.toNat else none
  | _ => none

/-- A natural number that is at most `bound` and may be missing or null. -/
def readOptionalNatural? (bound : Nat) : Option Json → Option (Option Nat)
  | none => some none
  | some .null => some none
  | some value => (readNatural? bound (some value)).map some

/-- The texts of an array of texts. -/
def readTextElements? : List Json → Option (List String)
  | [] => some []
  | .text value :: rest => (readTextElements? rest).map (value :: ·)
  | _ => none

/-- A given array of texts. -/
def readTexts? : Option Json → Option (List String)
  | some (.array elements) => readTextElements? elements
  | _ => none

/-- The name of a member of a closed list: a text, or an object whose only key it is and whose
value is null or an empty object. -/
def readMember? : Option Json → Option String
  | some (.text value) => some value
  | some (.object [(key, .null)]) => some key
  | some (.object [(key, .object [])]) => some key
  | _ => none

end Pushdown.Json
