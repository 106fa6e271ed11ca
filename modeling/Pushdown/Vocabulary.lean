/-
Module: Pushdown.Vocabulary
Purpose: Closed vocabularies of names, and those of the functions of queries.
Main exports: Vocabulary, Vocabulary.ofName?, Vocabulary.names, ScalarFunction,
  ScalarFunction.all, ScalarFunction.name, AggregateFunction, AggregateFunction.all,
  AggregateFunction.name
-/

namespace Pushdown

/-! ## Vocabularies

Functions, capabilities, kinds of joins and the like are closed lists of names.  The order of a
vocabulary is the order in which it is listed, and a name is recognised only when it is written
exactly.
-/

/-- A type whose members are listed in order and carry names. -/
class Vocabulary (α : Type) where
  all : List α
  name : α → String

namespace Vocabulary

variable {α : Type} [Vocabulary α]

/-- The member with exactly the given name. -/
def ofName? (text : String) : Option α :=
  (all (α := α)).find? fun member => name member == text

/-- The names of a vocabulary, in order. -/
def names (α : Type) [Vocabulary α] : List String :=
  (all (α := α)).map name

/-- The place of a member in the order of its vocabulary, counted from zero. -/
def index [DecidableEq α] (member : α) : Nat :=
  (all (α := α)).idxOf member

end Vocabulary

/-! ## Scalar functions

The order of the functions is part of the interface: listings of functions and the choice of the
first offending alias follow it.  It groups arithmetic, numeric, string, date and time,
conversion, bitwise and other functions.
-/

/-- A scalar function of the host, by its standard name. -/
inductive ScalarFunction where
  | add | sub | mult | floatDiv | neg | abs | acos | asin | atan | atan2 | ceil | cos | cosh | cot
  | degrees | div | exp | floor | ln | log | mod | power | radians | rand | round | sign | sin
  | sinh | sqrt | tan | tanh | trunc | ascii | bitLength | chr | concat | initcap | insertion
  | instr | length | locate | lower | lpad | ltrim | octetLength | regexpInstr | regexpReplace
  | regexpSubstr | repetition | replace | reverse | rightmost | rpad | rtrim | soundex | spaces
  | substr | translate | trim | unicode | unicodechr | upper | addDays | addHours | addMinutes
  | addMonths | addSeconds | addWeeks | addYears | convertTz | currentDate | currentTimestamp
  | dateTrunc | day | daysBetween | dbtimezone | extract | hoursBetween | localtimestamp | minute
  | minutesBetween | month | monthsBetween | numtodsinterval | numtoyminterval | posixTime
  | second | secondsBetween | sessiontimezone | sysdate | systimestamp | week | year
  | yearsBetween | cast | isNumber | isBoolean | isDate | isDsinterval | isYminterval
  | isTimestamp | toChar | toDate | toDsinterval | toYminterval | toNumber | toTimestamp | bitAnd
  | bitCheck | bitNot | bitOr | bitSet | bitToNum | bitXor | caseWhen | currentSchema
  | currentSession | currentStatement | currentUser | greatest | hashMd5 | hashSha | hashSha1
  | hashSha256 | hashSha512 | jsonValue | least | nullifzero | sysGuid | zeroifnull
deriving Repr, DecidableEq, Inhabited

namespace ScalarFunction

/-- Every scalar function, in order. -/
def all : List ScalarFunction :=
  [.add, .sub, .mult, .floatDiv, .neg, .abs, .acos, .asin, .atan, .atan2, .ceil, .cos, .cosh,
   .cot, .degrees, .div, .exp, .floor, .ln, .log, .mod, .power, .radians, .rand, .round, .sign,
   .sin, .sinh, .sqrt, .tan, .tanh, .trunc, .ascii, .bitLength, .chr, .concat, .initcap,
   .insertion, .instr, .length, .locate, .lower, .lpad, .ltrim, .octetLength, .regexpInstr,
   .regexpReplace, .regexpSubstr, .repetition, .replace, .reverse, .rightmost, .rpad, .rtrim,
   .soundex, .spaces, .substr, .translate, .trim, .unicode, .unicodechr, .upper, .addDays,
   .addHours, .addMinutes, .addMonths, .addSeconds, .addWeeks, .addYears, .convertTz,
   .currentDate, .currentTimestamp, .dateTrunc, .day, .daysBetween, .dbtimezone, .extract,
   .hoursBetween, .localtimestamp, .minute, .minutesBetween, .month, .monthsBetween,
   .numtodsinterval, .numtoyminterval, .posixTime, .second, .secondsBetween, .sessiontimezone,
   .sysdate, .systimestamp, .week, .year, .yearsBetween, .cast, .isNumber, .isBoolean, .isDate,
   .isDsinterval, .isYminterval, .isTimestamp, .toChar, .toDate, .toDsinterval, .toYminterval,
   .toNumber, .toTimestamp, .bitAnd, .bitCheck, .bitNot, .bitOr, .bitSet, .bitToNum, .bitXor,
   .caseWhen, .currentSchema, .currentSession, .currentStatement, .currentUser, .greatest,
   .hashMd5, .hashSha, .hashSha1, .hashSha256, .hashSha512, .jsonValue, .least, .nullifzero,
   .sysGuid, .zeroifnull]

/-- The standard name of a function, under which it is written unless a dialect renames it. -/
def name : ScalarFunction → String
  | .add => "ADD"
  | .sub => "SUB"
  | .mult => "MULT"
  | .floatDiv => "FLOAT_DIV"
  | .neg => "NEG"
  | .abs => "ABS"
  | .acos => "ACOS"
  | .asin => "ASIN"
  | .atan => "ATAN"
  | .atan2 => "ATAN2"
  | .ceil => "CEIL"
  | .cos => "COS"
  | .cosh => "COSH"
  | .cot => "COT"
  | .degrees => "DEGREES"
  | .div => "DIV"
  | .exp => "EXP"
  | .floor => "FLOOR"
  | .ln => "LN"
  | .log => "LOG"
  | .mod => "MOD"
  | .power => "POWER"
  | .radians => "RADIANS"
  | .rand => "RAND"
  | .round => "ROUND"
  | .sign => "SIGN"
  | .sin => "SIN"
  | .sinh => "SINH"
  | .sqrt => "SQRT"
  | .tan => "TAN"
  | .tanh => "TANH"
  | .trunc => "TRUNC"
  | .ascii => "ASCII"
  | .bitLength => "BIT_LENGTH"
  | .chr => "CHR"
  | .concat => "CONCAT"
  | .initcap => "INITCAP"
  | .insertion => "INSERT"
  | .instr => "INSTR"
  | .length => "LENGTH"
  | .locate => "LOCATE"
  | .lower => "LOWER"
  | .lpad => "LPAD"
  | .ltrim => "LTRIM"
  | .octetLength => "OCTET_LENGTH"
  | .regexpInstr => "REGEXP_INSTR"
  | .regexpReplace => "REGEXP_REPLACE"
  | .regexpSubstr => "REGEXP_SUBSTR"
  | .repetition => "REPEAT"
  | .replace => "REPLACE"
  | .reverse => "REVERSE"
  | .rightmost => "RIGHT"
  | .rpad => "RPAD"
  | .rtrim => "RTRIM"
  | .soundex => "SOUNDEX"
  | .spaces => "SPACE"
  | .substr => "SUBSTR"
  | .translate => "TRANSLATE"
  | .trim => "TRIM"
  | .unicode => "UNICODE"
  | .unicodechr => "UNICODECHR"
  | .upper => "UPPER"
  | .addDays => "ADD_DAYS"
  | .addHours => "ADD_HOURS"
  | .addMinutes => "ADD_MINUTES"
  | .addMonths => "ADD_MONTHS"
  | .addSeconds => "ADD_SECONDS"
  | .addWeeks => "ADD_WEEKS"
  | .addYears => "ADD_YEARS"
  | .convertTz => "CONVERT_TZ"
  | .currentDate => "CURRENT_DATE"
  | .currentTimestamp => "CURRENT_TIMESTAMP"
  | .dateTrunc => "DATE_TRUNC"
  | .day => "DAY"
  | .daysBetween => "DAYS_BETWEEN"
  | .dbtimezone => "DBTIMEZONE"
  | .extract => "EXTRACT"
  | .hoursBetween => "HOURS_BETWEEN"
  | .localtimestamp => "LOCALTIMESTAMP"
  | .minute => "MINUTE"
  | .minutesBetween => "MINUTES_BETWEEN"
  | .month => "MONTH"
  | .monthsBetween => "MONTHS_BETWEEN"
  | .numtodsinterval => "NUMTODSINTERVAL"
  | .numtoyminterval => "NUMTOYMINTERVAL"
  | .posixTime => "POSIX_TIME"
  | .second => "SECOND"
  | .secondsBetween => "SECONDS_BETWEEN"
  | .sessiontimezone => "SESSIONTIMEZONE"
  | .sysdate => "SYSDATE"
  | .systimestamp => "SYSTIMESTAMP"
  | .week => "WEEK"
  | .year => "YEAR"
  | .yearsBetween => "YEARS_BETWEEN"
  | .cast => "CAST"
  | .isNumber => "IS_NUMBER"
  | .isBoolean => "IS_BOOLEAN"
  | .isDate => "IS_DATE"
  | .isDsinterval => "IS_DSINTERVAL"
  | .isYminterval => "IS_YMINTERVAL"
  | .isTimestamp => "IS_TIMESTAMP"
  | .toChar => "TO_CHAR"
  | .toDate => "TO_DATE"
  | .toDsinterval => "TO_DSINTERVAL"
  | .toYminterval => "TO_YMINTERVAL"
  | .toNumber => "TO_NUMBER"
  | .toTimestamp => "TO_TIMESTAMP"
  | .bitAnd => "BIT_AND"
  | .bitCheck => "BIT_CHECK"
  | .bitNot => "BIT_NOT"
  | .bitOr => "BIT_OR"
  | .bitSet => "BIT_SET"
  | .bitToNum => "BIT_TO_NUM"
  | .bitXor => "BIT_XOR"
  | .caseWhen => "CASE"
  | .currentSchema => "CURRENT_SCHEMA"
  | .currentSession => "CURRENT_SESSION"
  | .currentStatement => "CURRENT_STATEMENT"
  | .currentUser => "CURRENT_USER"
  | .greatest => "GREATEST"
  | .hashMd5 => "HASH_MD5"
  | .hashSha => "HASH_SHA"
  | .hashSha1 => "HASH_SHA1"
  | .hashSha256 => "HASH_SHA256"
  | .hashSha512 => "HASH_SHA512"
  | .jsonValue => "JSON_VALUE"
  | .least => "LEAST"
  | .nullifzero => "NULLIFZERO"
  | .sysGuid => "SYS_GUID"
  | .zeroifnull => "ZEROIFNULL"

instance : Vocabulary ScalarFunction := ⟨all, name⟩

end ScalarFunction

/-- Whether calls are written as a name with arguments.  The other functions have nodes of their
own in the tree and cannot be renamed. -/
def ScalarFunction.isSimple : ScalarFunction → Bool
  | .cast | .extract | .caseWhen | .jsonValue => false
  | _ => true

/-! ## Aggregate functions

As for scalar functions, the order is part of the interface.
-/

/-- An aggregate function of the host, by its standard name. -/
inductive AggregateFunction where
  | approximateCountDistinct | avg | count | every | firstValue | groupConcat | lastValue
  | listagg | max | median | min | mul | someTrue | stddev | stddevPop | stddevSamp | sum
  | variance | varPop | varSamp
deriving Repr, DecidableEq, Inhabited

namespace AggregateFunction

/-- Every aggregate function, in order. -/
def all : List AggregateFunction :=
  [.approximateCountDistinct, .avg, .count, .every, .firstValue, .groupConcat, .lastValue,
   .listagg, .max, .median, .min, .mul, .someTrue, .stddev, .stddevPop, .stddevSamp, .sum,
   .variance, .varPop, .varSamp]

/-- The standard name of a function, under which it is written unless a dialect renames it. -/
def name : AggregateFunction → String
  | .approximateCountDistinct => "APPROXIMATE_COUNT_DISTINCT"
  | .avg => "AVG"
  | .count => "COUNT"
  | .every => "EVERY"
  | .firstValue => "FIRST_VALUE"
  | .groupConcat => "GROUP_CONCAT"
  | .lastValue => "LAST_VALUE"
  | .listagg => "LISTAGG"
  | .max => "MAX"
  | .median => "MEDIAN"
  | .min => "MIN"
  | .mul => "MUL"
  | .someTrue => "SOME"
  | .stddev => "STDDEV"
  | .stddevPop => "STDDEV_POP"
  | .stddevSamp => "STDDEV_SAMP"
  | .sum => "SUM"
  | .variance => "VARIANCE"
  | .varPop => "VAR_POP"
  | .varSamp => "VAR_SAMP"

instance : Vocabulary AggregateFunction := ⟨all, name⟩

end AggregateFunction

/-- Whether calls are written as a name with arguments.  The two functions that build lists have
nodes of their own in the tree and cannot be renamed. -/
def AggregateFunction.isSimple : AggregateFunction → Bool
  | .groupConcat | .listagg => false
  | _ => true

end Pushdown
