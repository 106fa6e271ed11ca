/-
Module: Pushdown.Sql.Generator
Purpose: Generators of SQL, their errors, and how they write everything that has no parts.
Main exports: GenerationError, GenerationError.message, GenerationError.toFault, Generator,
  Generator.ofDialect, Generator.literal, Generator.scalarCall
-/
import Pushdown.Dialect
import Pushdown.Fault
import Pushdown.Number
import Pushdown.Tree

namespace Pushdown

/-! ## Errors

A tree can be malformed, can hold a constant without a literal, can call a function with the
wrong number of arguments, or can be nested too deeply.  A dialect can be malformed as well, by
an alias for a function that is never called by name.
-/

/-- Why a constant has no literal. -/
inductive LiteralProblem where
  | notFinite (value : Double)
  | notAnInterval (value : String) (type : DataType)
deriving Repr, DecidableEq

/-- The text of a problem with a constant. -/
def LiteralProblem.message : LiteralProblem → String
  | .notFinite value => value.nonFiniteName ++ " has no SQL representation"
  | .notAnInterval value type =>
    "interval literal '" ++ value ++ "' typed as " ++ type.toText

/-- Why a node has no form. -/
inductive NodeProblem where
  | emptyJunction (connective : Connective)
  | emptyInList
  | emptyOrderBy
  | emptyGroupBy
  | hasOwnNode (functionName : String)
  | caseWithoutBranches
  | caseResults (conditions results : Nat)
  | unsupportedConversion
  | rowOffset (dialectName : String)
deriving Repr, DecidableEq

/-- The text of a problem with a node. -/
def NodeProblem.message : NodeProblem → String
  | .emptyJunction connective => connective.keyword ++ " without operands"
  | .emptyInList => "IN with an empty list"
  | .emptyOrderBy => "ORDER BY without sort keys"
  | .emptyGroupBy => "GROUP BY without grouping expressions"
  | .hasOwnNode functionName => functionName ++ " must be expressed by its own node"
  | .caseWithoutBranches => "CASE without WHEN branches"
  | .caseResults conditions results =>
    "CASE with " ++ Nat.repr conditions ++ " condition(s) and " ++ Nat.repr results ++
      " result(s)"
  | .unsupportedConversion => "conversion to an unsupported data type"
  | .rowOffset dialectName => dialectName ++ " cannot express a row offset"

/-- Why no SQL was generated. -/
inductive GenerationError where
  | functionArity (functionName : String) (expected actual : Nat)
  | nonSimpleAlias (functionName : String)
  | invalidLiteral (problem : LiteralProblem)
  | invalidNode (problem : NodeProblem)
  | maxRecursion (limit : Nat)
deriving Repr, DecidableEq

namespace GenerationError

/-- The text of an error. -/
def message : GenerationError → String
  | .functionArity functionName expected actual =>
    "Function " ++ functionName ++ " expects " ++ Nat.repr expected ++
      " argument(s) but got " ++ Nat.repr actual
  | .nonSimpleAlias functionName =>
    "Function " ++ functionName ++ " cannot be aliased: it is rendered by a dedicated node"
  | .invalidLiteral problem => "Invalid literal: " ++ problem.message
  | .invalidNode problem => "Invalid node: " ++ problem.message
  | .maxRecursion limit => "Maximum recursion depth (" ++ Nat.repr limit ++ ") exceeded"

/-- The text of an error in a dialect. -/
def messageIn (dialectName : String) : GenerationError → String
  | .nonSimpleAlias functionName =>
    "The dialect " ++ dialectName ++ " declares an alias for " ++ functionName ++
      ", which cannot be aliased"
  | error => error.message

/-- The code of an error. -/
def code : GenerationError → Fault.Code
  | .functionArity _ _ _ => .functionArity
  | .nonSimpleAlias _ => .nonSimpleFunctionAlias
  | .invalidLiteral _ => .invalidLiteral
  | .invalidNode _ => .invalidNode
  | .maxRecursion _ => .maxRecursion

/-- The objects that an error in a dialect concerns. -/
def contextIn (dialectName : String) : GenerationError → Option Fault.Context
  | .functionArity functionName expected actual =>
    some (.function functionName dialectName (some expected) (some actual))
  | .nonSimpleAlias functionName => some (.function functionName dialectName none none)
  | .invalidLiteral _ => none
  | .invalidNode _ => some (.generic (.ofList [("dialect", .text dialectName)]))
  | .maxRecursion _ => none

/-- What to change. -/
def hint : GenerationError → String
  | .functionArity _ _ _ =>
    "The function is rendered as an operator for this dialect; check the pushed-down expression"
  | .nonSimpleAlias _ =>
    "Remove the alias from the dialect; CAST, EXTRACT, CASE, JSON_VALUE, GROUP_CONCAT and " ++
      "LISTAGG have their own rendering"
  | .invalidLiteral _ => "The literal has no SQL representation in the target dialect"
  | .invalidNode _ =>
    "The pushed-down tree is malformed or uses a construct the dialect does not declare"
  | .maxRecursion _ =>
    "The pushed-down expression is nested too deeply; exclude the capability that produces it"

/-- The fault that an error in a dialect is answered with. -/
def toFault (dialectName : String) (error : GenerationError) : Fault :=
  ⟨error.code, error.messageIn dialectName, error.contextIn dialectName, some error.hint⟩

end GenerationError

/-! ## Generators

A generator writes trees for one dialect in one context.  The functions here put together SQL
whose parts are already rendered, and say which combinations have no form.
-/

/-- What SQL is generated for. -/
structure Generator where
  dialect : Dialect
  context : QueryContext
  /-- Where nulls go when a query does not place them. -/
  nullOrder : NullOrder
  /-- How deeply nodes may be nested. -/
  depthLimit : Nat

namespace Generator

/-- How deeply nodes may be nested if nothing else is said. -/
def defaultDepthLimit : Nat := 256

/-- The generator of a dialect in a context.  A dialect must not have an alias for a function
that has a node of its own. -/
def ofDialect (dialect : Dialect) (context : QueryContext) :
    Except GenerationError Generator :=
  match dialect.aliases.firstRefused? with
  | some functionName => .error (.nonSimpleAlias functionName)
  | none => .ok ⟨dialect, context, dialect.nullOrder context, defaultDepthLimit⟩

/-- A column after its qualifier. -/
def column (generator : Generator) (column : ColumnReference) : Sql :=
  match column.qualifier with
  | some qualifier =>
    [generator.dialect.identifier qualifier, .code ".", generator.dialect.identifier column.name]
  | none => [generator.dialect.identifier column.name]

/-- A name with a full stop after it, if there is one. -/
def qualifier (generator : Generator) : Option String → Sql
  | some name => [generator.dialect.identifier name, .code "."]
  | none => []

/-- A table after its qualifiers and before its alias. -/
def table (generator : Generator) (table : TableReference) : Sql :=
  generator.qualifier (generator.dialect.catalogQualifier generator.context) ++
    generator.qualifier (generator.dialect.schemaQualifier generator.context) ++
    [generator.dialect.identifier table.name] ++
    match table.effectiveAlias with
    | some tableAlias => [.code " ", generator.dialect.identifier tableAlias]
    | none => []

/-- A constant. -/
def literal (generator : Generator) : Literal → Except GenerationError Sql
  | .null => .ok (Sql.code "NULL")
  | .bool value => .ok (Sql.code (generator.dialect.booleanToken value))
  | .text value => .ok [generator.dialect.stringLiteral value]
  | .double value =>
    if value.isFinite then .ok (Sql.code value.scientific)
    else .error (.invalidLiteral (.notFinite value))
  | .exact value => .ok (Sql.code value.plain)
  | .date value => .ok (generator.dialect.dateLiteral value)
  | .timestamp value => .ok (generator.dialect.timestampLiteral value)
  | .timestampUtc value => .ok (generator.dialect.timestampLiteral value)
  | .interval value type =>
    match type with
    | .interval kind precision fraction =>
      .ok (generator.dialect.intervalLiteral value kind precision fraction)
    | other => .error (.invalidLiteral (.notAnInterval value other))

/-- The type that a value is converted to. -/
def conversionType (type : DataType) : Except GenerationError Sql :=
  if type.isSupported then .ok (Sql.code type.toText)
  else .error (.invalidNode .unsupportedConversion)

/-- A function name with arguments in parentheses. -/
def call (name : String) (arguments : List Sql) : Sql :=
  Sql.code (name ++ "(") ++ Sql.commaSeparated arguments ++ Sql.code ")"

/-- A scalar function applied to its arguments: under another name, as an operator, without
parentheses or under its own name, in this order of preference. -/
def scalarCall (generator : Generator) (function : ScalarFunction) (arguments : List Sql) :
    Except GenerationError Sql :=
  let aliases := generator.dialect.aliases
  match aliases.scalar function, aliases.between function, aliases.before function with
  | some name, _, _ => .ok (call name arguments)
  | none, some operator, _ =>
    match arguments with
    | [left, right] =>
      .ok (Sql.code "(" ++ left ++ Sql.code (" " ++ operator ++ " ") ++ right ++ Sql.code ")")
    | _ => .error (.functionArity function.name 2 arguments.length)
  | none, none, some operator =>
    match arguments with
    | [operand] => .ok (Sql.code ("(" ++ operator) ++ operand ++ Sql.code ")")
    | _ => .error (.functionArity function.name 1 arguments.length)
  | none, none, none =>
    if arguments.isEmpty && Dialect.omitsParentheses function then .ok (Sql.code function.name)
    else .ok (call function.name arguments)

/-- The arguments of an aggregate function.  Counting without arguments counts rows, and several
arguments that are counted together form a tuple. -/
def aggregateArguments (function : AggregateFunction) (distinct : Bool) (arguments : List Sql) :
    Sql :=
  match function, arguments with
  | .count, [] => Sql.code "*"
  | .count, first :: second :: rest =>
    if distinct then Sql.commaSeparated (first :: second :: rest)
    else Sql.code "(" ++ Sql.commaSeparated (first :: second :: rest) ++ Sql.code ")"
  | _, arguments => Sql.commaSeparated arguments

/-- The word that restricts an aggregate to distinct values. -/
def distinctWord (distinct : Bool) : Sql :=
  if distinct then Sql.code "DISTINCT " else []

/-- An aggregate function applied to its arguments. -/
def aggregateCall (generator : Generator) (function : AggregateFunction) (distinct : Bool)
    (arguments : List Sql) : Sql :=
  Sql.code ((generator.dialect.aliases.aggregate function).getD function.name ++ "(") ++
    distinctWord distinct ++ aggregateArguments function distinct arguments ++ Sql.code ")"

/-- What becomes of a list that is too long. -/
def overflow (generator : Generator) : ListOverflow → Sql
  | .error => Sql.code "ERROR"
  | .truncate filler withCount =>
    Sql.code "TRUNCATE" ++
      (match filler with
        | some filler => [.code " ", generator.dialect.stringLiteral filler]
        | none => []) ++
      Sql.code (if withCount then " WITH COUNT" else " WITHOUT COUNT")

/-- A keyword and a string, if there is one. -/
def separator (generator : Generator) (keyword : String) : Option String → Sql
  | some text => [.code keyword, generator.dialect.stringLiteral text]
  | none => []

/-- An expression to sort by.  Its nulls are placed where that differs from their own place. -/
def sortKeys (generator : Generator) (expression : Sql) (ascending nullsLast : Bool) : Sql :=
  generator.dialect.sortKeys expression ascending
    (if nullsLast = generator.nullOrder.lastByDefault ascending then none else some nullsLast)

/-- The limit between the keyword of a select and its list.  There is no offset in this place. -/
def leadingLimit (generator : Generator) (limit : Option RowLimit) :
    Except GenerationError Sql :=
  match generator.dialect.limitForm.position, limit with
  | .afterSelect, some limit =>
    if limit.offset = 0 then .ok (Sql.code (generator.dialect.limitForm.clause limit ++ " "))
    else .error (.invalidNode (.rowOffset generator.dialect.name))
  | _, _ => .ok []

/-- The limit at the end of a select. -/
def trailingLimit (generator : Generator) (limit : Option RowLimit) : Sql :=
  match generator.dialect.limitForm.position, limit with
  | .trailing, some limit => Sql.code (" " ++ generator.dialect.limitForm.clause limit)
  | _, _ => []

end Generator

end Pushdown
