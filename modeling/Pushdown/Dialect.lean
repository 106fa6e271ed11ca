/-
Module: Pushdown.Dialect
Purpose: Dialects of SQL: their forms, their names for functions, and the properties they accept.
Main exports: IdentifierCase, TemporalForm, LimitForm, LoadStrategy, ConnectionStyle, Aliases,
  Aliases.arithmetic, Aliases.firstRefused?, Dialect, Dialect.identifier, Dialect.stringLiteral,
  Dialect.supportedProperties, Dialect.validate
-/
import Pushdown.Capability
import Pushdown.Configuration
import Pushdown.Remote
import Pushdown.Sql.Span
import Pushdown.Text.Case
import Pushdown.Tree
import Pushdown.TypeMapping
import Pushdown.Vocabulary

namespace Pushdown

/-! ## Forms

Each choice is a type with one member per wording, so that a dialect is a record of choices and a
law about wordings is a law about finitely many cases.
-/

/-- How names of remote tables and columns are shown to the host. -/
inductive IdentifierCase where
  /-- As the source has them. -/
  | preserve
  /-- In upper case; the source is taken to have them in lower case. -/
  | upper
deriving Repr, DecidableEq, Inhabited

namespace IdentifierCase

/-- A remote name as it is shown. -/
def present (identifierCase : IdentifierCase) (name : String) : String :=
  match identifierCase with
  | .preserve => name
  | .upper => Text.toUpper name

/-- A shown name as the source is taken to have it. -/
def remoteForm (identifierCase : IdentifierCase) (name : String) : String :=
  match identifierCase with
  | .preserve => name
  | .upper => Text.toLower name

/-- The setting by which a case is chosen. -/
def setting : IdentifierCase → String
  | .preserve => "PRESERVE_ORIGINAL_CASE"
  | .upper => "CONVERT_TO_UPPER"

/-- The case that a setting chooses. -/
def ofSetting? (text : String) : Option IdentifierCase :=
  if Text.equalIgnoringAsciiCase text upper.setting then some .upper
  else if Text.equalIgnoringAsciiCase text preserve.setting then some .preserve
  else none

end IdentifierCase

/-- How dates and timestamps are written. -/
inductive TemporalForm where
  /-- A keyword before a string. -/
  | keyword
  /-- A string converted to the type. -/
  | cast
deriving Repr, DecidableEq, Inhabited

/-- A date. -/
def TemporalForm.date (form : TemporalForm) (text : Span) : Sql :=
  match form with
  | .keyword => [.code "DATE ", text]
  | .cast => [.code "CAST(", text, .code " AS DATE)"]

/-- A timestamp. -/
def TemporalForm.timestamp (form : TemporalForm) (text : Span) : Sql :=
  match form with
  | .keyword => [.code "TIMESTAMP ", text]
  | .cast => [.code "CAST(", text, .code " AS DATETIME2)"]

/-- Where a select says how many rows it returns. -/
inductive LimitPosition where
  | trailing
  | afterSelect
deriving Repr, DecidableEq, Inhabited

/-- How the number of rows is limited. -/
inductive LimitForm where
  /-- By `LIMIT`, with an offset if there is one. -/
  | limit
  /-- By `FETCH`, after an offset if there is one. -/
  | fetch
  /-- By `TOP`, which knows no offset. -/
  | top
deriving Repr, DecidableEq, Inhabited

/-- Where the limit stands in a select. -/
def LimitForm.position : LimitForm → LimitPosition
  | .limit | .fetch => .trailing
  | .top => .afterSelect

/-- The clause that limits the rows. -/
def LimitForm.clause (form : LimitForm) (limit : RowLimit) : String :=
  match form with
  | .limit =>
    if limit.offset = 0 then "LIMIT " ++ Nat.repr limit.count
    else "LIMIT " ++ Nat.repr limit.count ++ " OFFSET " ++ Nat.repr limit.offset
  | .fetch =>
    if limit.offset = 0 then "FETCH FIRST " ++ Nat.repr limit.count ++ " ROWS ONLY"
    else
      "OFFSET " ++ Nat.repr limit.offset ++ " ROWS FETCH NEXT " ++ Nat.repr limit.count ++
        " ROWS ONLY"
  | .top => "TOP " ++ Nat.repr limit.count

/-- What a sort key compares. -/
inductive SortSubject where
  /-- The value of the expression. -/
  | value
  /-- One for a null and zero for anything else. -/
  | nullIndicator
deriving Repr, DecidableEq, Inhabited

/-- One of the keys by which rows are sorted. -/
structure SortKey where
  subject : SortSubject
  descending : Bool
  /-- Whether nulls come last, where the key says so. -/
  nullsLast : Option Bool
deriving Repr, DecidableEq, Inhabited

/-- A sort key over an expression. -/
def SortKey.render (key : SortKey) (expression : Sql) : Sql :=
  (match key.subject with
    | .value => expression
    | .nullIndicator =>
      Sql.code "CASE WHEN " ++ expression ++ Sql.code " IS NULL THEN 1 ELSE 0 END") ++
  (if key.descending then Sql.code " DESC" else []) ++
  match key.nullsLast with
  | none => []
  | some true => Sql.code " NULLS LAST"
  | some false => Sql.code " NULLS FIRST"

/-- How nulls are placed against the habit of the source. -/
inductive SortForm where
  /-- By a clause of the key. -/
  | nullsClause
  /-- By a key before it that compares whether there is a null. -/
  | nullIndicator
deriving Repr, DecidableEq, Inhabited

/-- The keys that sort by an expression in a direction, and place its nulls if that is asked. -/
def SortForm.keys (form : SortForm) (ascending : Bool) (nullsLast : Option Bool) :
    List SortKey :=
  match form, nullsLast with
  | .nullsClause, _ => [⟨.value, !ascending, nullsLast⟩]
  | .nullIndicator, none => [⟨.value, !ascending, none⟩]
  | .nullIndicator, some last => [⟨.nullIndicator, !last, none⟩, ⟨.value, !ascending, none⟩]

/-! ## Forms of load statements -/

/-- How the columns of a load statement are found out. -/
inductive LoadStrategy where
  /-- They are left to the host. -/
  | direct
  /-- The remote source describes the statement. -/
  | described
  /-- The types that the host planned with, if there are any; else as `described`. -/
  | planned
deriving Repr, DecidableEq, Inhabited

namespace LoadStrategy

/-- Every strategy, in order. -/
def all : List LoadStrategy := [.direct, .described, .planned]

/-- The name of a strategy. -/
def name : LoadStrategy → String
  | .direct => "direct"
  | .described => "into_described"
  | .planned => "into_temp_table"

instance : Vocabulary LoadStrategy := ⟨all, name⟩

end LoadStrategy

/-- How a load statement refers to the connection. -/
inductive ConnectionStyle where
  /-- By the name of the connection object. -/
  | named
  /-- By address, user and password. -/
  | inline
deriving Repr, DecidableEq, Inhabited

namespace ConnectionStyle

/-- Both styles, in order. -/
def all : List ConnectionStyle := [.named, .inline]

/-- The name of a style. -/
def name : ConnectionStyle → String
  | .named => "named"
  | .inline => "inline"

instance : Vocabulary ConnectionStyle := ⟨all, name⟩

end ConnectionStyle

/-! ## Names of functions

A function is written under its standard name unless its dialect says otherwise: another name, an
operator between two arguments, or an operator before one.  Functions with nodes of their own in
the tree are not called by name, so an alias for one of them is a mistake in the dialect.
-/

/-- How a dialect writes functions. -/
structure Aliases where
  /-- Other names of scalar functions. -/
  scalar : ScalarFunction → Option String
  /-- Other names of aggregate functions. -/
  aggregate : AggregateFunction → Option String
  /-- Operators written between two arguments. -/
  between : ScalarFunction → Option String
  /-- Operators written before one argument. -/
  before : ScalarFunction → Option String

namespace Aliases

/-- Every function by its standard name. -/
def standard : Aliases :=
  ⟨fun _ => none, fun _ => none, fun _ => none, fun _ => none⟩

/-- The four operations of arithmetic and the change of sign as operators. -/
def arithmetic : Aliases :=
  { standard with
    between := fun function => match function with
      | .add => some "+"
      | .sub => some "-"
      | .mult => some "*"
      | .floatDiv => some "/"
      | _ => none
    before := fun function => match function with
      | .neg => some "-"
      | _ => none }

/-- Whether a dialect writes a scalar function in a way of its own. -/
def renames (aliases : Aliases) (function : ScalarFunction) : Bool :=
  (aliases.scalar function).isSome || (aliases.between function).isSome ||
    (aliases.before function).isSome

/-- The first function that has an alias but cannot be renamed: scalar functions in their order,
then aggregate functions in theirs. -/
def firstRefused? (aliases : Aliases) : Option String :=
  match ScalarFunction.all.find? fun function => !function.isSimple && aliases.renames function with
  | some function => some function.name
  | none =>
    match AggregateFunction.all.find? fun function =>
        !function.isSimple && (aliases.aggregate function).isSome with
    | some function => some function.name
    | none => none

end Aliases

/-! ## Dialects

A dialect is all that tells one remote engine from another.  Most of its fields have the value
that standard SQL suggests; a dialect names those in which it differs.
-/

/-- The dialect of a remote engine. -/
structure Dialect where
  name : String
  /-- Whether the source divides its tables by catalogs. -/
  hasCatalogs : Bool
  /-- Whether the source divides its tables by schemas. -/
  hasSchemas : Bool
  nullPolicy : NullPolicy
  aliases : Aliases
  strategy : LoadStrategy
  capabilities : Capabilities := .all
  connectionStyle : ConnectionStyle := .named
  /-- Whether tables are written with their catalog; a connection may be to a single one. -/
  writesCatalog : Bool := true
  identifierQuotes : Text.QuoteStyle := .doubleQuotes
  identifierCase : IdentifierCase := .preserve
  /-- The property by which the identifier case is chosen, if it can be. -/
  identifierCaseKey : Option String := none
  stringQuotes : Text.QuoteStyle := .apostrophes
  temporalForm : TemporalForm := .keyword
  trueToken : String := "true"
  falseToken : String := "false"
  /-- What is selected when only the existence of rows matters. -/
  anyValueToken : String := "true"
  limitForm : LimitForm := .limit
  sortForm : SortForm := .nullsClause
  typeRules : TypeRules := .common
  /-- The errors that can be ignored while a schema is read. -/
  ignorableErrors : List String := []
  /-- The error that a table with upper-case characters in its name is, if it is one. -/
  upperCaseTableError : Option String := none

/-- What a statement is generated for, apart from the dialect. -/
structure QueryContext where
  catalog : Option String := none
  schema : Option String := none
  conventions : Option RemoteConventions := none
deriving Repr, DecidableEq, Inhabited

/-- The context that properties set up. -/
def QueryContext.ofProperties (properties : Properties)
    (conventions : Option RemoteConventions) : QueryContext :=
  ⟨properties.catalogName, properties.schemaName, conventions⟩

namespace Dialect

/-- The kinds of remote tables that are shown. -/
def tableTypes : List String := ["TABLE", "VIEW"]

/-- The functions that are written without parentheses when they have no arguments. -/
def omitsParentheses : ScalarFunction → Bool
  | .currentDate | .currentTimestamp | .currentUser | .localtimestamp | .sysdate
  | .systimestamp | .dbtimezone | .sessiontimezone | .currentSchema | .currentSession
  | .currentStatement => true
  | _ => false

/-- A name as the source is taken to have it, in quotes. -/
def identifier (dialect : Dialect) (name : String) : Span :=
  .quoted dialect.identifierQuotes (dialect.identifierCase.remoteForm name)

/-- A string. -/
def stringLiteral (dialect : Dialect) (value : String) : Span :=
  .quoted dialect.stringQuotes value

/-- A date. -/
def dateLiteral (dialect : Dialect) (value : String) : Sql :=
  dialect.temporalForm.date (dialect.stringLiteral value)

/-- A timestamp. -/
def timestampLiteral (dialect : Dialect) (value : String) : Sql :=
  dialect.temporalForm.timestamp (dialect.stringLiteral value)

/-- An interval. -/
def intervalLiteral (dialect : Dialect) (value : String) (kind : IntervalKind)
    (precision fraction : Nat) : Sql :=
  [.code "INTERVAL ", dialect.stringLiteral value,
   .code (match kind with
    | .yearToMonth => " YEAR (" ++ Nat.repr precision ++ ") TO MONTH"
    | .dayToSecond =>
      " DAY (" ++ Nat.repr precision ++ ") TO SECOND (" ++ Nat.repr fraction ++ ")")]

/-- A truth value. -/
def booleanToken (dialect : Dialect) (value : Bool) : String :=
  if value then dialect.trueToken else dialect.falseToken

/-- An expression to sort by, in a direction, with its nulls placed if that is asked. -/
def sortKeys (dialect : Dialect) (expression : Sql) (ascending : Bool)
    (nullsLast : Option Bool) : Sql :=
  Sql.commaSeparated
    ((dialect.sortForm.keys ascending nullsLast).map fun key => key.render expression)

/-- The catalog that tables are written with in a context. -/
def catalogQualifier (dialect : Dialect) (context : QueryContext) : Option String :=
  if dialect.hasCatalogs && dialect.writesCatalog then context.catalog else none

/-- The schema that tables are written with in a context. -/
def schemaQualifier (dialect : Dialect) (context : QueryContext) : Option String :=
  if dialect.hasSchemas then context.schema else none

/-- Where nulls go in a context when a query does not place them; at the end, where the source
reported nothing. -/
def nullOrder (dialect : Dialect) (context : QueryContext) : NullOrder :=
  match dialect.nullPolicy with
  | .fixed order => order
  | .reported =>
    match context.conventions with
    | some conventions => conventions.nullOrder
    | none => .atEnd

end Dialect

/-! ## Accepted properties

The checks of a dialect are the shared ones, with the keys and errors of the dialect, and then
those of its own setting and of the excluded capabilities.  The first problem is the answer.
-/

namespace Dialect

/-- The keys that a dialect accepts. -/
def supportedProperties (dialect : Dialect) : List String :=
  Property.common ++
    (if dialect.hasCatalogs then [Property.catalogName] else []) ++
    (if dialect.hasSchemas then [Property.schemaName] else []) ++
    (if dialect.ignorableErrors.isEmpty then [] else [Property.ignoreErrors]) ++
    dialect.identifierCaseKey.toList

/-- The identifier case has to be chosen by one of its settings. -/
def checkIdentifierCase (dialect : Dialect) (properties : Properties) :
    Except ConfigurationError Unit :=
  match dialect.identifierCaseKey with
  | none => .ok ()
  | some key =>
    match properties.value? key with
    | none => .ok ()
    | some text =>
      match IdentifierCase.ofSetting? text with
      | some _ => .ok ()
      | none =>
        .error (.invalidValue key text
          (.either IdentifierCase.upper.setting IdentifierCase.preserve.setting))

/-- Checks the properties of a virtual schema. -/
def validate (dialect : Dialect) (properties : Properties) : Except ConfigurationError Unit := do
  Configuration.checkCommon properties dialect.name dialect.supportedProperties
    dialect.hasCatalogs dialect.hasSchemas
  Configuration.checkIgnoredErrors properties dialect.ignorableErrors
  dialect.checkIdentifierCase properties
  let _ ← Capabilities.ofEntries properties.excludedCapabilities

end Dialect

end Pushdown
