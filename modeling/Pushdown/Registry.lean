/-
Module: Pushdown.Registry
Purpose: The dialects of the library, and registries that make dialects by name.
Main exports: Dialect.generic, Dialect.mysql, Dialect.oracle, Dialect.postgresql, Descriptor,
  Registry, Registry.builtin, Registry.register
-/
import Pushdown.Dialect

namespace Pushdown

/-! ## Dialects of the library

All dialects start from one set of capabilities, those of a plain SQL engine, and add or leave
out what their engine has or lacks.
-/

namespace Dialect

/-- The capabilities that dialects start from. -/
def standardCapabilities : Capabilities :=
  .ofLists
    [.selectlistProjection, .selectlistExpressions, .filterExpressions, .aggregateSingleGroup,
     .aggregateGroupByColumn, .aggregateGroupByExpression, .aggregateGroupByTuple,
     .aggregateHaving, .orderByColumn, .orderByExpression, .limit, .limitWithOffset, .join,
     .joinTypeInner, .joinTypeLeftOuter, .joinTypeRightOuter, .joinTypeFullOuter,
     .joinConditionEqui]
    [.bool, .null, .date, .timestamp, .timestampUtc, .double, .exactNumeric, .string]
    [.and, .or, .not, .equal, .notEqual, .less, .lessEqual, .like, .likeEscape, .between,
     .inConstList, .isNull, .isNotNull]
    [.add, .sub, .mult, .floatDiv, .neg, .abs, .ceil, .floor, .round, .sign, .sqrt, .lower,
     .upper, .length, .ltrim, .rtrim, .trim, .replace, .substr, .concat, .currentDate,
     .currentTimestamp, .extract, .cast, .caseWhen]
    [.count, .countStar, .countDistinct, .sum, .sumDistinct, .min, .max, .avg, .avgDistinct]

/-- The aggregate capabilities of engines with the standard deviations and variances. -/
def spreadAggregates : List AggregateCapability :=
  [.stddevPop, .stddevSamp, .varPop, .varSamp]

/-- Sources without a dialect of their own.  Where they put nulls is what they reported. -/
def generic : Dialect where
  name := "GENERIC"
  hasCatalogs := true
  hasSchemas := true
  nullPolicy := .reported
  aliases := .arithmetic
  strategy := .planned
  capabilities := standardCapabilities

/-- The names of functions in MySQL. -/
def mysqlAliases : Aliases :=
  { Aliases.arithmetic with
    scalar := fun function => match function with
      | .hashMd5 => some "MD5"
      | .hashSha1 => some "SHA1"
      | .substr => some "SUBSTRING"
      | _ => none }

/-- MySQL.  Its databases are catalogs, and it has no full outer join. -/
def mysql : Dialect where
  name := "MYSQL"
  hasCatalogs := true
  hasSchemas := false
  nullPolicy := .fixed .low
  aliases := mysqlAliases
  strategy := .described
  capabilities :=
    (standardCapabilities.subtract (.ofLists [.joinTypeFullOuter] [] [] [] [])).union
      (.ofLists [] [] [.regexpLike]
        [.mod, .power, .instr, .locate, .lpad, .rpad, .repetition, .reverse, .rightmost,
         .hashMd5, .hashSha1]
        ([.groupConcat, .groupConcatDistinct, .groupConcatSeparator, .groupConcatOrderBy] ++
          spreadAggregates))
  identifierQuotes := .backticks
  stringQuotes := .escapedApostrophes
  sortForm := .nullIndicator

/-- Oracle.  It has no truth values. -/
def oracle : Dialect where
  name := "ORACLE"
  hasCatalogs := false
  hasSchemas := true
  nullPolicy := .fixed .high
  aliases := .arithmetic
  strategy := .described
  capabilities :=
    (standardCapabilities.subtract (.ofLists [] [.bool] [] [] [])).union
      (.ofLists [] [] [.regexpLike]
        [.mod, .power, .ln, .exp, .instr, .lpad, .rpad, .initcap, .translate, .addMonths,
         .monthsBetween, .sysdate, .systimestamp, .dbtimezone, .sessiontimezone, .toChar,
         .toDate, .toNumber, .toTimestamp, .greatest, .least]
        ([.median, .stddev, .variance, .listagg, .listaggDistinct, .listaggSeparator,
          .listaggOnOverflowError, .listaggOnOverflowTruncate, .listaggOrderBy] ++
          spreadAggregates))
  anyValueToken := "1"
  limitForm := .fetch
  typeRules := .oracle

/-- The property by which the identifier case of PostgreSQL is chosen. -/
def postgresqlCaseKey : String := "POSTGRESQL_IDENTIFIER_MAPPING"

/-- The error that a table of PostgreSQL with upper-case characters in its name is. -/
def postgresqlUpperCaseTables : String := "POSTGRESQL_UPPERCASE_TABLES"

/-- The names of functions in PostgreSQL. -/
def postgresqlAliases : Aliases :=
  { Aliases.arithmetic with
    scalar := fun function => match function with
      | .hashMd5 => some "MD5"
      | .substr => some "SUBSTRING"
      | _ => none }

/-- PostgreSQL.  It folds names to lower case where the host folds them to upper case, so names
are converted in both directions unless they are to be preserved.  A connection is to one
catalog. -/
def postgresql (identifierCase : IdentifierCase) : Dialect where
  name := "POSTGRESQL"
  hasCatalogs := true
  hasSchemas := true
  nullPolicy := .fixed .high
  aliases := postgresqlAliases
  strategy := .planned
  capabilities :=
    standardCapabilities.union
      (.ofLists [] [] []
        [.mod, .power, .ln, .exp, .lpad, .rpad, .repetition, .reverse, .rightmost, .initcap,
         .translate, .hashMd5, .greatest, .least]
        (.every :: spreadAggregates))
  writesCatalog := false
  identifierCase := identifierCase
  identifierCaseKey := some postgresqlCaseKey
  typeRules := .postgresql
  ignorableErrors := [postgresqlUpperCaseTables]
  upperCaseTableError :=
    match identifierCase with
    | .upper => some postgresqlUpperCaseTables
    | .preserve => none

/-- PostgreSQL as properties choose it.  A setting that is none counts as not given; validation
reports it. -/
def postgresqlFor (properties : Properties) : Dialect :=
  postgresql (((properties.value? postgresqlCaseKey).bind IdentifierCase.ofSetting?).getD .upper)

/-- The names of functions in SQL Server. -/
def sqlserverAliases : Aliases :=
  { Aliases.arithmetic with
    scalar := fun function => match function with
      | .length => some "LEN"
      | .substr => some "SUBSTRING"
      | .ceil => some "CEILING"
      | .ln => some "LOG"
      | .sysdate => some "GETDATE"
      | _ => none
    aggregate := fun function => match function with
      | .stddev | .stddevSamp => some "STDEV"
      | .stddevPop => some "STDEVP"
      | .variance | .varSamp => some "VAR"
      | .varPop => some "VARP"
      | _ => none }

/-- SQL Server.  Truth values exist as predicates only, and limits have no offset. -/
def sqlserver : Dialect where
  name := "SQLSERVER"
  hasCatalogs := true
  hasSchemas := true
  nullPolicy := .fixed .low
  aliases := sqlserverAliases
  strategy := .direct
  capabilities :=
    (standardCapabilities.subtract
      (.ofLists [.limitWithOffset] [.bool] [] [.currentDate] [])).union
      (.ofLists [] [] []
        [.power, .exp, .ln, .reverse, .rightmost, .spaces, .sysdate, .currentUser]
        ([.stddev, .variance] ++ spreadAggregates))
  connectionStyle := .inline
  identifierQuotes := .brackets
  temporalForm := .cast
  trueToken := "1 = 1"
  falseToken := "1 = 0"
  anyValueToken := "1"
  limitForm := .top
  sortForm := .nullIndicator

end Dialect

/-! ## Registries

A registry finds dialects by name, whatever the case of the name.  It stores what was registered
under the upper-case form of its name, so the order of that form is the order of all listings.
Since properties may decide what a dialect is, it is built anew for every request.
-/

/-- A dialect that can be chosen by name. -/
structure Descriptor where
  name : String
  description : String
  /-- The dialect as properties choose it. -/
  build : Properties → Dialect

instance : Inhabited Descriptor := ⟨⟨"", "", fun _ => Dialect.generic⟩⟩

/-- Dialects by the upper-case forms of their names. -/
structure Registry where
  dialects : Dictionary Descriptor

namespace Registry

/-- The registry without dialects. -/
def empty : Registry := ⟨.empty⟩

/-- Adds a dialect, in place of one whose name has the same upper-case form. -/
def register (registry : Registry) (descriptor : Descriptor) : Registry :=
  ⟨registry.dialects.insert (Text.toUpper descriptor.name) descriptor⟩

/-- Removes all dialects. -/
def clear (_ : Registry) : Registry := empty

/-- The dialect registered under a name. -/
def describe? (registry : Registry) (name : String) : Option Descriptor :=
  registry.dialects.get? (Text.toUpper name)

/-- Whether a dialect is registered under a name. -/
def contains (registry : Registry) (name : String) : Bool :=
  registry.dialects.contains (Text.toUpper name)

/-- The names of all dialects as they were registered. -/
def names (registry : Registry) : List String :=
  registry.dialects.values.map Descriptor.name

/-- The number of dialects. -/
def size (registry : Registry) : Nat := registry.dialects.size

/-- Whether there is no dialect. -/
def isEmpty (registry : Registry) : Bool := registry.dialects.isEmpty

/-- The error that a name is unknown. -/
def unknown (registry : Registry) (name : String) : ConfigurationError :=
  .unknownDialect name registry.names

/-- Builds a dialect for properties. -/
def create (registry : Registry) (name : String) (properties : Properties) :
    Except ConfigurationError Dialect :=
  match registry.describe? name with
  | some descriptor => .ok (descriptor.build properties)
  | none => .error (registry.unknown name)

/-- The dialects that the library knows. -/
def builtinDescriptors : List Descriptor :=
  [⟨"GENERIC", "Any JDBC source, conventions read from the remote", fun _ => Dialect.generic⟩,
   ⟨"MYSQL", "MySQL and MariaDB", fun _ => Dialect.mysql⟩,
   ⟨"ORACLE", "Oracle Database", fun _ => Dialect.oracle⟩,
   ⟨"POSTGRESQL", "PostgreSQL", Dialect.postgresqlFor⟩,
   ⟨"SQLSERVER", "Microsoft SQL Server", fun _ => Dialect.sqlserver⟩]

/-- The registry of the dialects that the library knows. -/
def builtin : Registry := builtinDescriptors.foldl register empty

end Registry

end Pushdown
