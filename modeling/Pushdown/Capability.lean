/-
Module: Pushdown.Capability
Purpose: What a dialect can push down, by name, and what a user excludes from it.
Main exports: MainCapability, LiteralCapability, PredicateCapability, Capabilities,
  Capabilities.names, Capabilities.subtract, Capability, Capability.ofName?,
  Capabilities.ofEntries
-/
import Pushdown.Configuration
import Pushdown.Text.Value
import Pushdown.Vocabulary

namespace Pushdown

/-! ## Names of capabilities

Capabilities come in five families: main constructs, literals, predicates, scalar functions and
aggregate functions.  Scalar functions are capabilities under their own names, so their family is
`ScalarFunction` itself.  An aggregate function may be supported in several forms, each of which
is a capability.  Within a family the order is that of listings.
-/

/-- Parts of a query other than functions and literals. -/
inductive MainCapability where
  | selectlistProjection | selectlistExpressions | filterExpressions | aggregateSingleGroup
  | aggregateGroupByColumn | aggregateGroupByExpression | aggregateGroupByTuple | aggregateHaving
  | orderByColumn | orderByExpression | limit | limitWithOffset | join | joinTypeInner
  | joinTypeLeftOuter | joinTypeRightOuter | joinTypeFullOuter | joinConditionEqui
  | joinConditionAll
deriving Repr, DecidableEq, Inhabited

namespace MainCapability

/-- Every main capability, in order. -/
def all : List MainCapability :=
  [.selectlistProjection, .selectlistExpressions, .filterExpressions, .aggregateSingleGroup,
   .aggregateGroupByColumn, .aggregateGroupByExpression, .aggregateGroupByTuple, .aggregateHaving,
   .orderByColumn, .orderByExpression, .limit, .limitWithOffset, .join, .joinTypeInner,
   .joinTypeLeftOuter, .joinTypeRightOuter, .joinTypeFullOuter, .joinConditionEqui,
   .joinConditionAll]

/-- The name of a main capability. -/
def name : MainCapability → String
  | .selectlistProjection => "SELECTLIST_PROJECTION"
  | .selectlistExpressions => "SELECTLIST_EXPRESSIONS"
  | .filterExpressions => "FILTER_EXPRESSIONS"
  | .aggregateSingleGroup => "AGGREGATE_SINGLE_GROUP"
  | .aggregateGroupByColumn => "AGGREGATE_GROUP_BY_COLUMN"
  | .aggregateGroupByExpression => "AGGREGATE_GROUP_BY_EXPRESSION"
  | .aggregateGroupByTuple => "AGGREGATE_GROUP_BY_TUPLE"
  | .aggregateHaving => "AGGREGATE_HAVING"
  | .orderByColumn => "ORDER_BY_COLUMN"
  | .orderByExpression => "ORDER_BY_EXPRESSION"
  | .limit => "LIMIT"
  | .limitWithOffset => "LIMIT_WITH_OFFSET"
  | .join => "JOIN"
  | .joinTypeInner => "JOIN_TYPE_INNER"
  | .joinTypeLeftOuter => "JOIN_TYPE_LEFT_OUTER"
  | .joinTypeRightOuter => "JOIN_TYPE_RIGHT_OUTER"
  | .joinTypeFullOuter => "JOIN_TYPE_FULL_OUTER"
  | .joinConditionEqui => "JOIN_CONDITION_EQUI"
  | .joinConditionAll => "JOIN_CONDITION_ALL"

instance : Vocabulary MainCapability := ⟨all, name⟩

end MainCapability

/-- Kinds of literals. -/
inductive LiteralCapability where
  | bool | null | date | timestamp | timestampUtc | double | exactNumeric | string | interval
deriving Repr, DecidableEq, Inhabited

namespace LiteralCapability

/-- Every literal capability, in order. -/
def all : List LiteralCapability :=
  [.bool, .null, .date, .timestamp, .timestampUtc, .double, .exactNumeric, .string, .interval]

/-- The name of a literal capability, without the prefix of its family. -/
def name : LiteralCapability → String
  | .bool => "BOOL"
  | .null => "NULL"
  | .date => "DATE"
  | .timestamp => "TIMESTAMP"
  | .timestampUtc => "TIMESTAMP_UTC"
  | .double => "DOUBLE"
  | .exactNumeric => "EXACTNUMERIC"
  | .string => "STRING"
  | .interval => "INTERVAL"

instance : Vocabulary LiteralCapability := ⟨all, name⟩

end LiteralCapability

/-- Predicates and connectives. -/
inductive PredicateCapability where
  | and | or | not | equal | notEqual | less | lessEqual | like | likeEscape | regexpLike
  | between | inConstList | isNull | isNotNull | isJson | isNotJson
deriving Repr, DecidableEq, Inhabited

namespace PredicateCapability

/-- Every predicate capability, in order. -/
def all : List PredicateCapability :=
  [.and, .or, .not, .equal, .notEqual, .less, .lessEqual, .like, .likeEscape, .regexpLike,
   .between, .inConstList, .isNull, .isNotNull, .isJson, .isNotJson]

/-- The name of a predicate capability, without the prefix of its family. -/
def name : PredicateCapability → String
  | .and => "AND"
  | .or => "OR"
  | .not => "NOT"
  | .equal => "EQUAL"
  | .notEqual => "NOTEQUAL"
  | .less => "LESS"
  | .lessEqual => "LESSEQUAL"
  | .like => "LIKE"
  | .likeEscape => "LIKE_ESCAPE"
  | .regexpLike => "REGEXP_LIKE"
  | .between => "BETWEEN"
  | .inConstList => "IN_CONSTLIST"
  | .isNull => "IS_NULL"
  | .isNotNull => "IS_NOT_NULL"
  | .isJson => "IS_JSON"
  | .isNotJson => "IS_NOT_JSON"

instance : Vocabulary PredicateCapability := ⟨all, name⟩

end PredicateCapability

/-- Forms of aggregate functions. -/
inductive AggregateCapability where
  | count | countStar | countDistinct | countTuple | sum | sumDistinct | min | max | avg
  | avgDistinct | median | firstValue | lastValue | stddev | stddevDistinct | stddevPop
  | stddevPopDistinct | stddevSamp | stddevSampDistinct | variance | varianceDistinct | varPop
  | varPopDistinct | varSamp | varSampDistinct | mul | mulDistinct | every | someTrue
  | approximateCountDistinct | groupConcat | groupConcatDistinct | groupConcatSeparator
  | groupConcatOrderBy | listagg | listaggDistinct | listaggSeparator | listaggOnOverflowError
  | listaggOnOverflowTruncate | listaggOrderBy
deriving Repr, DecidableEq, Inhabited

namespace AggregateCapability

/-- Every aggregate capability, in order. -/
def all : List AggregateCapability :=
  [.count, .countStar, .countDistinct, .countTuple, .sum, .sumDistinct, .min, .max, .avg,
   .avgDistinct, .median, .firstValue, .lastValue, .stddev, .stddevDistinct, .stddevPop,
   .stddevPopDistinct, .stddevSamp, .stddevSampDistinct, .variance, .varianceDistinct, .varPop,
   .varPopDistinct, .varSamp, .varSampDistinct, .mul, .mulDistinct, .every, .someTrue,
   .approximateCountDistinct, .groupConcat, .groupConcatDistinct, .groupConcatSeparator,
   .groupConcatOrderBy, .listagg, .listaggDistinct, .listaggSeparator, .listaggOnOverflowError,
   .listaggOnOverflowTruncate, .listaggOrderBy]

/-- The name of an aggregate capability, without the prefix of its family. -/
def name : AggregateCapability → String
  | .count => "COUNT"
  | .countStar => "COUNT_STAR"
  | .countDistinct => "COUNT_DISTINCT"
  | .countTuple => "COUNT_TUPLE"
  | .sum => "SUM"
  | .sumDistinct => "SUM_DISTINCT"
  | .min => "MIN"
  | .max => "MAX"
  | .avg => "AVG"
  | .avgDistinct => "AVG_DISTINCT"
  | .median => "MEDIAN"
  | .firstValue => "FIRST_VALUE"
  | .lastValue => "LAST_VALUE"
  | .stddev => "STDDEV"
  | .stddevDistinct => "STDDEV_DISTINCT"
  | .stddevPop => "STDDEV_POP"
  | .stddevPopDistinct => "STDDEV_POP_DISTINCT"
  | .stddevSamp => "STDDEV_SAMP"
  | .stddevSampDistinct => "STDDEV_SAMP_DISTINCT"
  | .variance => "VARIANCE"
  | .varianceDistinct => "VARIANCE_DISTINCT"
  | .varPop => "VAR_POP"
  | .varPopDistinct => "VAR_POP_DISTINCT"
  | .varSamp => "VAR_SAMP"
  | .varSampDistinct => "VAR_SAMP_DISTINCT"
  | .mul => "MUL"
  | .mulDistinct => "MUL_DISTINCT"
  | .every => "EVERY"
  | .someTrue => "SOME"
  | .approximateCountDistinct => "APPROXIMATE_COUNT_DISTINCT"
  | .groupConcat => "GROUP_CONCAT"
  | .groupConcatDistinct => "GROUP_CONCAT_DISTINCT"
  | .groupConcatSeparator => "GROUP_CONCAT_SEPARATOR"
  | .groupConcatOrderBy => "GROUP_CONCAT_ORDER_BY"
  | .listagg => "LISTAGG"
  | .listaggDistinct => "LISTAGG_DISTINCT"
  | .listaggSeparator => "LISTAGG_SEPARATOR"
  | .listaggOnOverflowError => "LISTAGG_ON_OVERFLOW_ERROR"
  | .listaggOnOverflowTruncate => "LISTAGG_ON_OVERFLOW_TRUNCATE"
  | .listaggOrderBy => "LISTAGG_ORDER_BY"

instance : Vocabulary AggregateCapability := ⟨all, name⟩

end AggregateCapability

/-! ## Sets of capabilities

A set of capabilities is given by its members in each family.  Its names are listed family by
family, within a family in the order of the vocabulary; the prefixes of the families keep names
of different families apart.
-/

/-- A set of capabilities. -/
structure Capabilities where
  main : MainCapability → Bool
  literals : LiteralCapability → Bool
  predicates : PredicateCapability → Bool
  scalars : ScalarFunction → Bool
  aggregates : AggregateCapability → Bool

namespace Capabilities

/-- The prefix of literals. -/
def literalPrefix : String := "LITERAL_"

/-- The prefix of aggregate functions. -/
def aggregatePrefix : String := "FN_AGG_"

/-- The prefix of predicates. -/
def predicatePrefix : String := "FN_PRED_"

/-- The prefix of scalar functions. -/
def scalarPrefix : String := "FN_"

/-- The set without members. -/
def empty : Capabilities :=
  ⟨fun _ => false, fun _ => false, fun _ => false, fun _ => false, fun _ => false⟩

/-- The set of all known capabilities. -/
def all : Capabilities :=
  ⟨fun _ => true, fun _ => true, fun _ => true, fun _ => true, fun _ => true⟩

/-- The set with the members of two sets. -/
def union (left right : Capabilities) : Capabilities :=
  ⟨fun member => left.main member || right.main member,
   fun member => left.literals member || right.literals member,
   fun member => left.predicates member || right.predicates member,
   fun member => left.scalars member || right.scalars member,
   fun member => left.aggregates member || right.aggregates member⟩

/-- The set without the members of another. -/
def subtract (set excluded : Capabilities) : Capabilities :=
  ⟨fun member => set.main member && !excluded.main member,
   fun member => set.literals member && !excluded.literals member,
   fun member => set.predicates member && !excluded.predicates member,
   fun member => set.scalars member && !excluded.scalars member,
   fun member => set.aggregates member && !excluded.aggregates member⟩

/-- The set with the listed members of each family. -/
def ofLists (main : List MainCapability) (literals : List LiteralCapability)
    (predicates : List PredicateCapability) (scalars : List ScalarFunction)
    (aggregates : List AggregateCapability) : Capabilities :=
  ⟨main.contains, literals.contains, predicates.contains, scalars.contains, aggregates.contains⟩

/-- The names of the main members. -/
def mainNames (set : Capabilities) : List String :=
  (MainCapability.all.filter set.main).map MainCapability.name

/-- The names of the literal members, without prefix. -/
def literalNames (set : Capabilities) : List String :=
  (LiteralCapability.all.filter set.literals).map LiteralCapability.name

/-- The names of the predicate members, without prefix. -/
def predicateNames (set : Capabilities) : List String :=
  (PredicateCapability.all.filter set.predicates).map PredicateCapability.name

/-- The names of the scalar functions among the members, without prefix. -/
def scalarNames (set : Capabilities) : List String :=
  (ScalarFunction.all.filter set.scalars).map ScalarFunction.name

/-- The names of the aggregate functions among the members, without prefix. -/
def aggregateNames (set : Capabilities) : List String :=
  (AggregateCapability.all.filter set.aggregates).map AggregateCapability.name

/-- The names of all members, with their prefixes. -/
def names (set : Capabilities) : List String :=
  set.mainNames ++ set.literalNames.map (literalPrefix ++ ·) ++
    set.predicateNames.map (predicatePrefix ++ ·) ++ set.scalarNames.map (scalarPrefix ++ ·) ++
    set.aggregateNames.map (aggregatePrefix ++ ·)

/-- The number of members. -/
def size (set : Capabilities) : Nat :=
  MainCapability.all.countP set.main + LiteralCapability.all.countP set.literals +
    PredicateCapability.all.countP set.predicates + ScalarFunction.all.countP set.scalars +
    AggregateCapability.all.countP set.aggregates

/-- Whether there is no member. -/
def isEmpty (set : Capabilities) : Bool := set.size == 0

end Capabilities

/-! ## Exclusion

An entry names a capability by its prefixed name.  The prefix of scalar functions begins the
prefixes of aggregate functions and predicates, so those are looked for first.
-/

/-- A single capability. -/
inductive Capability where
  | main (member : MainCapability)
  | literal (member : LiteralCapability)
  | predicate (member : PredicateCapability)
  | scalar (member : ScalarFunction)
  | aggregate (member : AggregateCapability)
deriving Repr, DecidableEq

namespace Capability

/-- What follows a prefix of a text. -/
def afterPrefix? (start text : String) : Option String :=
  if start.toList.isPrefixOf text.toList then
    some (String.ofList (text.toList.drop start.toList.length))
  else none

/-- The capability with a prefixed name. -/
def ofName? (text : String) : Option Capability :=
  match afterPrefix? Capabilities.literalPrefix text with
  | some name => (Vocabulary.ofName? name).map .literal
  | none =>
    match afterPrefix? Capabilities.aggregatePrefix text with
    | some name => (Vocabulary.ofName? name).map .aggregate
    | none =>
      match afterPrefix? Capabilities.predicatePrefix text with
      | some name => (Vocabulary.ofName? name).map .predicate
      | none =>
        match afterPrefix? Capabilities.scalarPrefix text with
        | some name => (Vocabulary.ofName? name).map .scalar
        | none => (Vocabulary.ofName? text).map .main

end Capability

namespace Capabilities

/-- The set with one more member. -/
def insert (set : Capabilities) : Capability → Capabilities
  | .main member => ⟨fun other => other == member || set.main other, set.literals,
      set.predicates, set.scalars, set.aggregates⟩
  | .literal member => ⟨set.main, fun other => other == member || set.literals other,
      set.predicates, set.scalars, set.aggregates⟩
  | .predicate member => ⟨set.main, set.literals,
      fun other => other == member || set.predicates other, set.scalars, set.aggregates⟩
  | .scalar member => ⟨set.main, set.literals, set.predicates,
      fun other => other == member || set.scalars other, set.aggregates⟩
  | .aggregate member => ⟨set.main, set.literals, set.predicates, set.scalars,
      fun other => other == member || set.aggregates other⟩

/-- Adds the capabilities that entries name to a set; the first unknown entry is an error. -/
def insertEntries (set : Capabilities) : List String → Except ConfigurationError Capabilities
  | [] => .ok set
  | entry :: rest =>
    let name := Text.trim entry
    match Capability.ofName? name with
    | some capability => insertEntries (set.insert capability) rest
    | none => .error (.unknownCapability name (Text.closest? name all.names))

/-- The set of the capabilities that entries name. -/
def ofEntries (entries : List String) : Except ConfigurationError Capabilities :=
  insertEntries empty entries

end Capabilities

end Pushdown
