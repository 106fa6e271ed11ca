/-
Module: Pushdown.TypeMapping
Purpose: Versions of the host, and the host types of remote types.
Main exports: HostVersion, HostVersion.ofText, HostVersion.hasNanoseconds, TypeRules,
  TypeRules.map, mapCommon
-/
import Pushdown.DataType
import Pushdown.Remote
import Pushdown.Text.Case
import Pushdown.Text.Value

namespace Pushdown

/-! ## Versions of the host

A version text starts with a major and a minor number around a full stop; what follows does not
matter.  The two runs of digits are as long as possible and may use the digits of any script, but
only runs of ASCII digits below two to the power of thirty-two have a value.  A text without such
a beginning, or none at all, counts as version 0.0.
-/

/-- A version of the host database. -/
structure HostVersion where
  major : Nat
  minor : Nat
deriving Repr, DecidableEq, Inhabited

namespace HostVersion

/-- The version of hosts that report none. -/
def unknown : HostVersion := ⟨0, 0⟩

/-- The greatest number in a version. -/
def greatestNumber : Nat := 0xFFFFFFFF

/-- The leading digits of a text and what follows them. -/
def splitDigits (cs : List Char) : List Char × List Char :=
  (cs.takeWhile Text.isDecimalDigit, cs.dropWhile Text.isDecimalDigit)

/-- The version at the start of a list of characters. -/
def ofChars? (cs : List Char) : Option HostVersion :=
  match splitDigits cs with
  | (major, '.' :: rest) =>
    match Text.digitsWithin? greatestNumber major,
      Text.digitsWithin? greatestNumber (splitDigits rest).1 with
    | some major, some minor => some ⟨major, minor⟩
    | _, _ => none
  | _ => none

/-- The version that a text denotes. -/
def ofText (text : Option String) : HostVersion :=
  match text with
  | none => unknown
  | some text => (ofChars? (Text.trimChars text.toList)).getD unknown

/-- Whether the host stores timestamps with nine fractional digits, as it does since 7.1. -/
def hasNanoseconds (version : HostVersion) : Bool :=
  7 < version.major || (version.major == 7 && 1 ≤ version.minor)

end HostVersion

/-! ## Types

Mapping is total: a type without a rule is mapped to `unsupported`.  Values that no logical type
represents exactly are mapped to the widest text type, so nothing is ever narrowed.  Oracle and
PostgreSQL report some types in ways of their own; their rules come first and fall back on the
common ones.
-/

/-- The size of text that holds a time, or a timestamp with time zone. -/
def timeTextSize : Nat := 100

/-- Fractional digits of timestamps on hosts without nanoseconds. -/
def defaultTimestampPrecision : Nat := 3

/-- The greatest number of fractional digits of a timestamp. -/
def maxTimestampPrecision : Nat := 9

/-- A size, or a default where the source reports none. -/
def orDefault (size default : Nat) : Nat := if size = 0 then default else size

/-- A decimal, or the widest text when the precision is out of range. -/
def boundedDecimal (precision scale : Nat) : DataType :=
  if precision ≤ DataType.maxDecimalPrecision then .decimal precision scale
  else DataType.widestText

/-- A text has one byte per character exactly if its size in bytes is its size in characters. -/
def RemoteType.charset (type : RemoteType) : Charset :=
  if type.octets = type.size then .ascii else .utf8

/-- A text of variable length; sizes that are missing or too large become the greatest size. -/
def mapVarchar (type : RemoteType) : DataType :=
  .varchar
    (if type.size = 0 || DataType.maxVarcharSize < type.size then DataType.maxVarcharSize
      else type.size)
    type.charset

/-- A text of fixed length, of variable length if it is too long for that. -/
def mapChar (type : RemoteType) : DataType :=
  if type.size ≤ DataType.maxCharSize then .char type.size type.charset
  else if type.size ≤ DataType.maxVarcharSize then .varchar type.size type.charset
  else DataType.widestText

/-- A timestamp; its own precision counts only on hosts with nanoseconds. -/
def mapTimestamp (version : HostVersion) (type : RemoteType) : DataType :=
  if version.hasNanoseconds then .timestamp (min type.scale.toNat maxTimestampPrecision)
  else .timestamp defaultTimestampPrecision

/-- The rules that every dialect starts from. -/
def mapCommon (version : HostVersion) (type : RemoteType) : DataType :=
  match type.typeCode with
  | .tinyInt | .smallInt => .decimal (orDefault type.size 9) 0
  | .integer => boundedDecimal (orDefault type.size 18) 0
  | .bigInt => boundedDecimal (orDefault type.size 36) 0
  | .decimal => boundedDecimal type.size type.scale.toNat
  | .real | .float | .double => .double
  | .varChar | .nVarChar | .longVarChar | .longNVarChar => mapVarchar type
  | .char | .nChar => mapChar type
  | .date => .date
  | .timestamp => mapTimestamp version type
  | .bit | .boolean => .boolean
  | .time | .timeWithTimezone | .timestampWithTimezone => .varchar timeTextSize .utf8
  | .numeric => DataType.widestText
  | .other _ => .unsupported

/-- Oracle's code for a timestamp with time zone. -/
def zonedTimestampCode : Int := -101

/-- Oracle's code for a timestamp with local time zone. -/
def localTimestampCode : Int := -102

/-- Oracle's code for a binary float. -/
def binaryFloatCode : Int := 100

/-- Oracle's code for a binary double. -/
def binaryDoubleCode : Int := 101

/-- Oracle's rules.  Its numbers are reported as numeric, without a size if unconstrained. -/
def mapOracle (version : HostVersion) (type : RemoteType) : DataType :=
  match type.typeCode with
  | .numeric =>
    if type.size = 0 then .double
    else if type.size ≤ DataType.maxDecimalPrecision then .decimal type.size type.scale.toNat
    else mapCommon version type
  | .decimal => if type.size = 0 then .double else mapCommon version type
  | .other code =>
    if code = binaryFloatCode || code = binaryDoubleCode then .double
    else if code = zonedTimestampCode then .varchar timeTextSize .utf8
    else if code = localTimestampCode then mapTimestamp version type
    else mapCommon version type
  | _ => mapCommon version type

/-- PostgreSQL's rules.  Types of its own are told apart by their names. -/
def mapPostgresql (version : HostVersion) (type : RemoteType) : DataType :=
  if type.typeCode.isVendorSpecific then
    match Text.asciiLower type.typeName with
    | "json" | "jsonb" | "xml" | "varbit" => DataType.widestText
    | "uuid" => .varchar 36 .ascii
    | _ => mapCommon version type
  else mapCommon version type

/-- Which rules a dialect maps types by. -/
inductive TypeRules where
  | common
  | oracle
  | postgresql
deriving Repr, DecidableEq, Inhabited

/-- The logical type of a remote type. -/
def TypeRules.map (rules : TypeRules) (version : HostVersion) (type : RemoteType) : DataType :=
  match rules with
  | .common => mapCommon version type
  | .oracle => mapOracle version type
  | .postgresql => mapPostgresql version type

end Pushdown
