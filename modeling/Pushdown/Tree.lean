/-
Module: Pushdown.Tree
Purpose: The relational expressions that the host hands over to be executed remotely.
Main exports: Node, SelectList, SortItem, JsonBehaviour, Literal, ColumnReference,
  TableReference, RowLimit
-/
import Pushdown.DataType
import Pushdown.Number
import Pushdown.Vocabulary

namespace Pushdown

/-!
A tree is what the host's planner built; nothing about it is checked beforehand.  Junctions may
be empty, a CASE may have too few results and a function any number of arguments, so rendering
has to tell which trees have a form in SQL.
-/

/-- The kinds of joins. -/
inductive JoinType where
  | inner | leftOuter | rightOuter | fullOuter
deriving Repr, DecidableEq, Inhabited

namespace JoinType

/-- Every kind of join, in order. -/
def all : List JoinType :=
  [.inner, .leftOuter, .rightOuter, .fullOuter]

/-- The name of a kind of join. -/
def name : JoinType → String
  | .inner => "INNER"
  | .leftOuter => "LEFT_OUTER"
  | .rightOuter => "RIGHT_OUTER"
  | .fullOuter => "FULL_OUTER"

instance : Vocabulary JoinType := ⟨all, name⟩

/-- A kind of join as written before `JOIN`. -/
def words : JoinType → String
  | .inner => "INNER"
  | .leftOuter => "LEFT OUTER"
  | .rightOuter => "RIGHT OUTER"
  | .fullOuter => "FULL OUTER"

end JoinType

/-- What an IS JSON test requires of a document. -/
inductive JsonShape where
  | value | array | object | scalar
deriving Repr, DecidableEq, Inhabited

namespace JsonShape

/-- Every shape, in order. -/
def all : List JsonShape :=
  [.value, .array, .object, .scalar]

/-- The name of a shape. -/
def name : JsonShape → String
  | .value => "VALUE"
  | .array => "ARRAY"
  | .object => "OBJECT"
  | .scalar => "SCALAR"

instance : Vocabulary JsonShape := ⟨all, name⟩

end JsonShape

/-- Whether an IS JSON test requires the keys of objects to be unique. -/
inductive KeyUniqueness where
  | withUniqueKeys | withoutUniqueKeys
deriving Repr, DecidableEq, Inhabited

namespace KeyUniqueness

/-- Both requirements, in order. -/
def all : List KeyUniqueness :=
  [.withUniqueKeys, .withoutUniqueKeys]

/-- The name of a requirement. -/
def name : KeyUniqueness → String
  | .withUniqueKeys => "WITH UNIQUE KEYS"
  | .withoutUniqueKeys => "WITHOUT UNIQUE KEYS"

instance : Vocabulary KeyUniqueness := ⟨all, name⟩

/-- A requirement as written after the shape; the word `KEYS` is left out. -/
def words : KeyUniqueness → String
  | .withUniqueKeys => "WITH UNIQUE"
  | .withoutUniqueKeys => "WITHOUT UNIQUE"

end KeyUniqueness

/-- The parts of a date or time that can be extracted. -/
inductive ExtractField where
  | year | month | day | hour | minute | second
deriving Repr, DecidableEq, Inhabited

namespace ExtractField

/-- Every part, in order. -/
def all : List ExtractField :=
  [.year, .month, .day, .hour, .minute, .second]

/-- The name of a part. -/
def name : ExtractField → String
  | .year => "YEAR"
  | .month => "MONTH"
  | .day => "DAY"
  | .hour => "HOUR"
  | .minute => "MINUTE"
  | .second => "SECOND"

instance : Vocabulary ExtractField := ⟨all, name⟩

end ExtractField

/-- The operators of comparisons. -/
inductive ComparisonOperator where
  | equal
  | notEqual
  | less
  | lessEqual
deriving Repr, DecidableEq, Inhabited

namespace ComparisonOperator

/-- Every operator, in order. -/
def all : List ComparisonOperator :=
  [.equal, .notEqual, .less, .lessEqual]

/-- The operator as written. -/
def symbol : ComparisonOperator → String
  | .equal => "="
  | .notEqual => "<>"
  | .less => "<"
  | .lessEqual => "<="

instance : Vocabulary ComparisonOperator := ⟨all, symbol⟩

end ComparisonOperator

/-- The connectives that join any number of predicates. -/
inductive Connective where
  | conjunction
  | disjunction
deriving Repr, DecidableEq, Inhabited

/-- The connective as written. -/
def Connective.keyword : Connective → String
  | .conjunction => "AND"
  | .disjunction => "OR"

/-- A column, with the table it belongs to under its name or an alias. -/
structure ColumnReference where
  name : String
  table : Option String
  tableAlias : Option String
deriving Repr, DecidableEq, Inhabited

/-- What stands before the name of a column: the alias of its table or else the name of it. -/
def ColumnReference.qualifier (column : ColumnReference) : Option String :=
  column.tableAlias.or column.table

/-- A table, possibly under an alias. -/
structure TableReference where
  name : String
  tableAlias : Option String
deriving Repr, DecidableEq, Inhabited

/-- The alias of a table; an alias equal to the name is none. -/
def TableReference.effectiveAlias (table : TableReference) : Option String :=
  table.tableAlias.filter fun tableAlias => tableAlias != table.name

/-- How many rows to return, and how many to skip before them. -/
structure RowLimit where
  count : Nat
  offset : Nat
deriving Repr, DecidableEq, Inhabited

/-- A constant. -/
inductive Literal where
  | null
  | bool (value : Bool)
  | text (value : String)
  | double (value : Double)
  | exact (value : ExactNumber)
  | date (value : String)
  | timestamp (value : String)
  | timestampUtc (value : String)
  | interval (value : String) (type : DataType)
deriving Repr, DecidableEq, Inhabited

/-- What a list aggregate does with a result that is too long. -/
inductive ListOverflow where
  | error
  | truncate (filler : Option String) (withCount : Bool)
deriving Repr, DecidableEq, Inhabited

mutual

/-- A node of a tree. -/
inductive Node where
  | select (list : SelectList) (source : Node) (filter : Option Node)
      (grouping : Option (List Node)) (having : Option Node)
      (order : Option (List SortItem)) (limit : Option RowLimit)
  | selectList (list : SelectList)
  | column (column : ColumnReference)
  | table (table : TableReference)
  | join (type : JoinType) (left right condition : Node)
  | junction (connective : Connective) (operands : List Node)
  | not (operand : Node)
  | comparison (operator : ComparisonOperator) (left right : Node)
  | between (expression lower upper : Node)
  | like (expression pattern : Node) (escape : Option Node)
  | regexpLike (expression pattern : Node)
  | inList (expression : Node) (candidates : List Node)
  | isNull (negated : Bool) (operand : Node)
  | isJson (negated : Bool) (expression : Node) (shape : JsonShape) (keys : KeyUniqueness)
  | scalar (function : ScalarFunction) (arguments : List Node)
  | cast (expression : Node) (type : DataType)
  | extract (field : ExtractField) (expression : Node)
  | caseWhen (basis : Option Node) (conditions results : List Node)
  | jsonValue (arguments : List Node) (returning : DataType) (onEmpty onError : JsonBehaviour)
  | aggregate (function : AggregateFunction) (arguments : List Node) (distinct : Bool)
  | listagg (argument : Node) (distinct : Bool) (separator : Option String)
      (overflow : ListOverflow) (order : Option (List SortItem))
  | groupConcat (argument : Node) (distinct : Bool) (order : Option (List SortItem))
      (separator : Option String)
  | literal (literal : Literal)
  | orderBy (items : List SortItem)
  | groupBy (expressions : List Node)
  | limit (limit : RowLimit)

/-- What a query selects: whatever tells that rows exist, all columns, or expressions. -/
inductive SelectList where
  | anyValue
  | star
  | expressions (expressions : List Node)

/-- An expression to sort by, its direction, and where its nulls go. -/
inductive SortItem where
  | item (expression : Node) (ascending nullsLast : Bool)

/-- What a JSON_VALUE answers when there is no value or an error. -/
inductive JsonBehaviour where
  | null
  | error
  | default (value : Node)

end

instance : Inhabited Node := ⟨.literal .null⟩

end Pushdown
