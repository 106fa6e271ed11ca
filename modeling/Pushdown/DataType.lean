/-
Module: Pushdown.DataType
Purpose: The logical types of the host, their text in SQL and their JSON form.
Main exports: DataType, DataType.toText, DataType.isSupported, DataType.toJson,
  DataType.ofJson?
-/
import Pushdown.Json.Value

namespace Pushdown

/-!
Columns of remote tables and of query results are given one of these types.  A remote type
without a counterpart is `unsupported`; a column of that type is not shown to the host.
-/

/-- The character sets of text types. -/
inductive Charset where
  | utf8
  | ascii
deriving Repr, DecidableEq, Inhabited

/-- The name of a character set. -/
def Charset.name : Charset → String
  | .utf8 => "UTF8"
  | .ascii => "ASCII"

/-- The two kinds of intervals. -/
inductive IntervalKind where
  | yearToMonth
  | dayToSecond
deriving Repr, DecidableEq, Inhabited

/-- The name of a kind of interval in JSON. -/
def IntervalKind.name : IntervalKind → String
  | .yearToMonth => "year_to_month"
  | .dayToSecond => "day_to_second"

/-- A logical type. -/
inductive DataType where
  | boolean
  | decimal (precision scale : Nat)
  | double
  | varchar (size : Nat) (charset : Charset)
  | char (size : Nat) (charset : Charset)
  | date
  | timestamp (fractionalPrecision : Nat)
  | interval (kind : IntervalKind) (precision fraction : Nat)
  | unsupported
deriving Repr, DecidableEq, Inhabited

namespace DataType

/-- The greatest precision of a decimal. -/
def maxDecimalPrecision : Nat := 36

/-- The greatest size of a fixed-length text. -/
def maxCharSize : Nat := 2000

/-- The greatest size of a variable-length text. -/
def maxVarcharSize : Nat := 2000000

/-- The widest text type, for values that no other type represents exactly. -/
def widestText : DataType := .varchar maxVarcharSize .utf8

/-- Whether the host can show a column of the type. -/
def isSupported : DataType → Bool
  | .unsupported => false
  | _ => true

/-- The type as written in SQL.  The fraction of a year-to-month interval is not written. -/
def toText : DataType → String
  | .boolean => "BOOLEAN"
  | .decimal precision scale =>
    "DECIMAL(" ++ toString precision ++ ", " ++ toString scale ++ ")"
  | .double => "DOUBLE"
  | .varchar size charset => "VARCHAR(" ++ toString size ++ ") " ++ charset.name
  | .char size charset => "CHAR(" ++ toString size ++ ") " ++ charset.name
  | .date => "DATE"
  | .timestamp fractionalPrecision => "TIMESTAMP(" ++ toString fractionalPrecision ++ ")"
  | .interval .yearToMonth precision _ => "INTERVAL YEAR (" ++ toString precision ++ ") TO MONTH"
  | .interval .dayToSecond precision fraction =>
    "INTERVAL DAY (" ++ toString precision ++ ") TO SECOND (" ++ toString fraction ++ ")"
  | .unsupported => "UNSUPPORTED"

/-- The type as a tagged record. -/
def toJson : DataType → Json
  | .boolean => .object [("type", .text "boolean")]
  | .decimal precision scale =>
    .object [("type", .text "decimal"), ("precision", .natural precision),
      ("scale", .natural scale)]
  | .double => .object [("type", .text "double")]
  | .varchar size charset =>
    .object [("type", .text "var_char"), ("size", .natural size),
      ("charset", .text charset.name)]
  | .char size charset =>
    .object [("type", .text "char"), ("size", .natural size), ("charset", .text charset.name)]
  | .date => .object [("type", .text "date")]
  | .timestamp fractionalPrecision =>
    .object [("type", .text "timestamp"), ("fractional_precision", .natural fractionalPrecision)]
  | .interval kind precision fraction =>
    .object [("type", .text "interval"), ("kind", .text kind.name),
      ("precision", .natural precision), ("fraction", .natural fraction)]
  | .unsupported => .object [("type", .text "unsupported")]

/-- The greatest number in a type. -/
def greatestNumber : Nat := 0xFFFFFFFF

/-- A given number of a type. -/
def readNumber? (field : Option Json) : Option Nat := Json.readNatural? greatestNumber field

/-- A given character set. -/
def readCharset? (field : Option Json) : Option Charset :=
  match Json.readMember? field with
  | some "UTF8" => some .utf8
  | some "ASCII" => some .ascii
  | _ => none

/-- A given kind of interval. -/
def readKind? (field : Option Json) : Option IntervalKind :=
  match Json.readMember? field with
  | some "year_to_month" => some .yearToMonth
  | some "day_to_second" => some .dayToSecond
  | _ => none

/-- A type without parameters.  Members of an object that it has no use for are ignored; an array
must not go on after the tag. -/
def readBare? (fields : Json.Fields Json) (type : DataType) : Option DataType :=
  match fields with
  | .named _ => some type
  | .listed [] => some type
  | .listed _ => none

/-- The type with a given tag. -/
def ofFields? (tag : String) (fields : Json.Fields Json) : Option DataType :=
  match tag with
  | "boolean" => readBare? fields .boolean
  | "double" => readBare? fields .double
  | "date" => readBare? fields .date
  | "unsupported" => readBare? fields .unsupported
  | "decimal" =>
    match fields.takeExactly? ["precision", "scale"] with
    | some [precision, scale] =>
      match readNumber? precision, readNumber? scale with
      | some precision, some scale => some (.decimal precision scale)
      | _, _ => none
    | _ => none
  | "var_char" =>
    match fields.takeExactly? ["size", "charset"] with
    | some [size, charset] =>
      match readNumber? size, readCharset? charset with
      | some size, some charset => some (.varchar size charset)
      | _, _ => none
    | _ => none
  | "char" =>
    match fields.takeExactly? ["size", "charset"] with
    | some [size, charset] =>
      match readNumber? size, readCharset? charset with
      | some size, some charset => some (.char size charset)
      | _, _ => none
    | _ => none
  | "timestamp" =>
    match fields.takeExactly? ["fractional_precision"] with
    | some [fractionalPrecision] => (readNumber? fractionalPrecision).map .timestamp
    | _ => none
  | "interval" =>
    match fields.takeExactly? ["kind", "precision", "fraction"] with
    | some [kind, precision, fraction] =>
      match readKind? kind, readNumber? precision, readNumber? fraction with
      | some kind, some precision, some fraction => some (.interval kind precision fraction)
      | _, _, _ => none
    | _ => none
  | _ => none

/-- Reads a type from its tagged record. -/
def ofJson? (json : Json) : Option DataType :=
  match Json.Tagged.read? "type" json with
  | some tagged => ofFields? tagged.tag tagged.fields
  | none => none

end DataType

end Pushdown
