/-
Module: Pushdown.Proofs.Load.Statement
Purpose: A load statement determines everything that went into it.
Main exports: LoadStatement.toText_injective, LoadRequest.statement_eq_ok,
  LoadRequest.statement_determines
-/
import Pushdown.Load
import Pushdown.Proofs.DataType
import Pushdown.Proofs.Remote.Session
import Pushdown.Proofs.Text.Quoted
import Pushdown.Registry

namespace Pushdown

/-!
The name of a connection is written as it is, so nothing in it marks its end, and a statement
cannot be read from left to right.  But the SQL at its end can be found from the right, whatever
the name contains.  What stands before the SQL is then read from the left: the columns by their
types, and the connection up to the end.
-/

open Text (QuoteStyle)

namespace LoadStatement

/-! ### Columns -/

/-- A column as written. -/
def columnChars (number : Nat) (type : DataType) : List Char :=
  'c' :: (Nat.toDigits 10 number ++ ' ' :: type.toText.toList)

/-- Columns that follow another one, as written. -/
def laterColumns (number : Nat) : List DataType → List Char
  | [] => []
  | type :: rest => ',' :: ' ' :: (columnChars number type ++ laterColumns (number + 1) rest)

/-- The columns of a statement begin with the first of them, without a comma. -/
theorem columns_cons_chars (number : Nat) (type : DataType) (rest : List DataType) :
    (", ".intercalate (columnsFrom number (type :: rest))).toList =
      columnChars number type ++ laterColumns (number + 1) rest := by
  induction rest generalizing number type with
  | nil => simp [columnsFrom, columnChars, laterColumns]
  | cons second rest inductionHypothesis =>
    have later := inductionHypothesis (number + 1) second
    rw [columnsFrom] at later ⊢
    rw [columnsFrom, String.intercalate_cons_cons, String.toList_append, later]
    simp [columnChars, laterColumns]

/-- A column can be told from its text, up to what is not printed of its type.  The number of the
column is its name, so it is part of the text as well. -/
theorem column_append_injective {number : Nat} {type other : DataType} {rest after : List Char}
    (same : columnChars number type ++ rest = columnChars number other ++ after) :
    type.printed = other.printed ∧ rest = after := by
  simp only [columnChars, List.cons_append, List.append_assoc, List.cons.injEq, true_and] at same
  exact DataType.toText_append_injective
    (List.tail_eq_of_cons_eq (List.append_cancel_left same))

/-- All columns up to the closing parenthesis can be told from their text, and how many there are.
A comma goes on where a parenthesis ends. -/
theorem laterColumns_injective {number : Nat} {left right : List DataType}
    {rest after : List Char}
    (same : laterColumns number left ++ ')' :: rest =
      laterColumns number right ++ ')' :: after) :
    left.map DataType.printed = right.map DataType.printed ∧ rest = after := by
  induction left generalizing number right with
  | nil =>
    cases right with
    | nil => exact ⟨rfl, by simpa [laterColumns] using same⟩
    | cons other others => simp [laterColumns] at same
  | cons type types inductionHypothesis =>
    cases right with
    | nil => simp [laterColumns] at same
    | cons other others =>
      simp only [laterColumns, List.cons_append, List.append_assoc, List.cons.injEq,
        true_and] at same
      obtain ⟨sameType, sameLater⟩ := column_append_injective same
      obtain ⟨sameTypes, sameRest⟩ := inductionHypothesis sameLater
      exact ⟨by simp [sameType, sameTypes], sameRest⟩

/-- A list of columns is read from the left. -/
theorem columns_injective {left right : List DataType} {rest after : List Char}
    (same : (", ".intercalate (columnsFrom 1 left)).toList ++ ')' :: rest =
      (", ".intercalate (columnsFrom 1 right)).toList ++ ')' :: after) :
    left.map DataType.printed = right.map DataType.printed ∧ rest = after := by
  cases left with
  | nil =>
    cases right with
    | nil => exact ⟨rfl, by simpa [columnsFrom] using same⟩
    | cons other others =>
      rw [columns_cons_chars] at same
      simp [columnsFrom, columnChars] at same
  | cons type types =>
    cases right with
    | nil =>
      rw [columns_cons_chars] at same
      simp [columnsFrom, columnChars] at same
    | cons other others =>
      rw [columns_cons_chars, columns_cons_chars, List.append_assoc, List.append_assoc] at same
      obtain ⟨sameType, sameLater⟩ := column_append_injective same
      obtain ⟨sameTypes, sameRest⟩ := laterColumns_injective sameLater
      exact ⟨by simp [sameType, sameTypes], sameRest⟩

/-- Whether there are columns, and which, is read from the left.  A statement without columns goes
on with a keyword and not with a parenthesis. -/
theorem columnsText_injective {left right : Option (List DataType)} {rest after : List Char}
    (same : (columnsText left).toList ++ 'F' :: rest =
      (columnsText right).toList ++ 'F' :: after) :
    left.map (·.map DataType.printed) = right.map (·.map DataType.printed) ∧ rest = after := by
  cases left with
  | none =>
    cases right with
    | none => exact ⟨rfl, by simpa [columnsText] using same⟩
    | some others => simp [columnsText] at same
  | some types =>
    cases right with
    | none => simp [columnsText] at same
    | some others =>
      simp only [columnsText, String.toList_append, String.reduceToList, List.cons_append,
        List.nil_append, List.append_assoc, List.cons.injEq, true_and] at same
      obtain ⟨sameTypes, sameRest⟩ := columns_injective same
      exact ⟨by simp [sameTypes], by simpa using sameRest⟩

end LoadStatement

/-! ### Connections -/

/-- The style of a reference to a connection. -/
def ConnectionClause.style : ConnectionClause → ConnectionStyle
  | .named _ => .named
  | .inline _ => .inline

theorem hostString_toList (text : String) :
    (hostString text).toList = QuoteStyle.apostrophes.encodeChars text.toList := by
  simp [hostString, QuoteStyle.encode]

/-- A string of the host is read from the left, if none follows at once.  A second one right behind
it would look like a quote within the first. -/
theorem hostString_append_injective {text other : String} {rest after : List Char}
    (apart : rest.head? ≠ some '\x27') (otherApart : after.head? ≠ some '\x27')
    (same : (hostString text).toList ++ rest = (hostString other).toList ++ after) :
    text = other ∧ rest = after := by
  simp only [hostString_toList, QuoteStyle.encodeChars, List.cons_append, List.append_assoc,
    List.nil_append, List.cons.injEq, true_and] at same
  obtain ⟨sameText, sameRest⟩ :=
    QuoteStyle.apostrophes.body_append_injective apart otherApart same
  exact ⟨String.toList_inj.1 sameText, sameRest⟩

/-- A reference to a connection, up to the end, determines what it refers to, in whichever of the
styles it is made. -/
theorem ConnectionClause.toText_injective {left right : ConnectionClause}
    (sameStyle : left.style = right.style) (same : left.toText.toList = right.toText.toList) :
    left = right := by
  cases left with
  | named name =>
    cases right with
    | named other =>
      simp only [toText, String.toList_append] at same
      rw [String.toList_inj.1 (List.append_cancel_left same)]
    | inline _ => cases sameStyle
  | inline information =>
    cases right with
    | named _ => cases sameStyle
    | inline other =>
      obtain ⟨address, user, password⟩ := information
      obtain ⟨address', user', password'⟩ := other
      simp only [toText, String.toList_append, List.append_assoc] at same
      obtain ⟨rfl, users⟩ := hostString_append_injective (by simp) (by simp)
        (List.append_cancel_left same)
      obtain ⟨rfl, passwords⟩ := hostString_append_injective (by simp) (by simp)
        (List.append_cancel_left users)
      obtain ⟨rfl, _⟩ := @hostString_append_injective password password' [] [] (by simp)
        (by simp) (by simpa using List.append_cancel_left passwords)
      rfl

namespace LoadStatement

/-- What a statement consists of before the SQL. -/
def front (statement : LoadStatement) : List Char :=
  "IMPORT ".toList ++ ((columnsText statement.columns).toList ++
    ("FROM JDBC ".toList ++ statement.connection.toText.toList))

/-- A statement consists of what precedes its SQL and of the SQL as a string of the host. -/
theorem toText_toList (statement : LoadStatement) :
    statement.toText.toList = statement.front ++ (" STATEMENT ".toList ++
      QuoteStyle.apostrophes.encodeChars statement.sql.toList) := by
  unfold toText front
  rw [String.toList_append, String.toList_append, String.toList_append, String.toList_append,
    String.toList_append, hostString_toList]
  simp only [List.append_assoc]

/-- The SQL behind the last keyword is found from the right, whatever stands before it. -/
theorem sql_of_ending {front back payload other : List Char}
    (same : front ++ (" STATEMENT ".toList ++ QuoteStyle.apostrophes.encodeChars payload) =
      back ++ (" STATEMENT ".toList ++ QuoteStyle.apostrophes.encodeChars other)) :
    front = back ∧ payload = other := by
  have nonempty : " STATEMENT ".toList ≠ [] := by simp
  have unmarked : QuoteStyle.apostrophes.closing ∉ " STATEMENT ".toList := by decide
  exact QuoteStyle.ending_injective rfl nonempty unmarked same

/-- A statement is determined by its text and the style of its connection, up to what is not
printed of its types. -/
theorem toText_injective {left right : LoadStatement}
    (sameStyle : left.connection.style = right.connection.style)
    (same : left.toText = right.toText) :
    left.columns.map (·.map DataType.printed) = right.columns.map (·.map DataType.printed) ∧
      left.connection = right.connection ∧ left.sql = right.sql := by
  have chars := congrArg String.toList same
  rw [toText_toList, toText_toList] at chars
  obtain ⟨sameFront, sameSql⟩ := sql_of_ending chars
  unfold front at sameFront
  simp only [String.reduceToList, List.cons_append, List.nil_append, List.cons.injEq,
    true_and] at sameFront
  obtain ⟨sameColumns, later⟩ := columnsText_injective sameFront
  simp only [List.cons.injEq, true_and] at later
  exact ⟨sameColumns, ConnectionClause.toText_injective sameStyle later,
    String.toList_inj.1 sameSql⟩

/-- What is found behind the last keyword is the SQL, and nothing else is.  The keyword may also
occur within the SQL or in the name of the connection, but not with a string behind it that ends the
text. -/
theorem sql_found_iff (statement : LoadStatement) (found : String) :
    (∃ before literal, statement.toText = before ++ " STATEMENT " ++ literal ∧
      QuoteStyle.apostrophes.decode literal = some found) ↔ found = statement.sql := by
  constructor
  · rintro ⟨before, literal, same, decoded⟩
    have quoted : literal = hostString found := QuoteStyle.eq_encode_of_decode rfl decoded
    have chars := congrArg String.toList same
    rw [quoted, toText_toList, String.toList_append, String.toList_append, List.append_assoc,
      hostString_toList] at chars
    exact String.toList_inj.1 (sql_of_ending chars).2.symm
  · rintro rfl
    refine ⟨"IMPORT " ++ columnsText statement.columns ++ "FROM JDBC " ++
      statement.connection.toText, hostString statement.sql, ?_, ?_⟩
    · rw [toText]
    · exact QuoteStyle.apostrophes.decode_encode statement.sql

end LoadStatement

namespace LoadRequest

open Session

/-- How a style refers to a connection, by its name or by where it leads. -/
def clause (style : ConnectionStyle) (name : String) (information : ConnectionInformation) :
    ConnectionClause :=
  match style with
  | .named => .named name
  | .inline => .inline information

/-- A connection clause shows in which style it was made.  So nothing but the text is needed to know
which of the two laws applies. -/
theorem clause_style (style : ConnectionStyle) (name : String)
    (information : ConnectionInformation) : (clause style name information).style = style := by
  cases style <;> rfl

/-- What a load statement is made of: the SQL that is generated, the connection of the request,
and the columns that its strategy finds. -/
theorem statement_eq_ok {request : LoadRequest} {remote : Remote}
    {source : Action ConnectivityError Connection} {before after : Session}
    {result : LoadStatement}
    (made : request.statement remote source before = .ok result after) :
    request.generate = .ok result.sql ∧
      ∃ name information, request.connectionName = .ok name ∧
        remote.resolve before.calls name = .ok information ∧
        result.connection = clause request.style name information := by
  unfold statement at made
  obtain ⟨_, sql, generating, rest⟩ := bind_eq_ok.1 made
  obtain ⟨generated, rfl⟩ := settled_eq_ok.1 generating
  obtain ⟨_, name, naming, rest⟩ := bind_eq_ok.1 rest
  obtain ⟨named, rfl⟩ := settled_eq_ok.1 naming
  obtain ⟨_, information, resolving, rest⟩ := bind_eq_ok.1 rest
  obtain ⟨resolved, rfl⟩ := resolve_eq_ok.1 (relabel_eq_ok.1 resolving)
  obtain ⟨_, columns, _, rest⟩ := bind_eq_ok.1 rest
  obtain ⟨rfl, rfl⟩ := pure_eq_ok.1 rest
  exact ⟨generated, name, information, named, resolved, rfl⟩

/-- Two load statements of one style that are written alike come from alike: they list the same
types, as far as types are printed, they carry the same SQL, and they name the same connection or
lead to the same place.  The SQL is what is found behind the last keyword. -/
theorem statement_determines {left right : LoadRequest} (sameStyle : left.style = right.style)
    {remote otherRemote : Remote} {source otherSource : Action ConnectivityError Connection}
    {before after otherBefore otherAfter : Session} {result other : LoadStatement}
    (made : left.statement remote source before = .ok result after)
    (otherMade : right.statement otherRemote otherSource otherBefore = .ok other otherAfter)
    (sameText : result.toText = other.toText) :
    result.columns.map (·.map DataType.printed) = other.columns.map (·.map DataType.printed) ∧
      (∃ sql, left.generate = .ok sql ∧ right.generate = .ok sql ∧
        ∀ found, (∃ front literal, result.toText = front ++ " STATEMENT " ++ literal ∧
          QuoteStyle.apostrophes.decode literal = some found) ↔ found = sql) ∧
      (left.style = .named → ∃ name, left.connectionName = .ok name ∧
        right.connectionName = .ok name) ∧
      (left.style = .inline → ∃ name otherName information, left.connectionName = .ok name ∧
        right.connectionName = .ok otherName ∧
        remote.resolve before.calls name = .ok information ∧
        otherRemote.resolve otherBefore.calls otherName = .ok information) := by
  -- Equal texts have equal columns, connections and strings; each of the three is told by its own
  -- law.
  obtain ⟨generated, name, information, named, resolved, connection⟩ := statement_eq_ok made
  obtain ⟨otherGenerated, otherName, otherInformation, otherNamed, otherResolved,
    otherConnection⟩ := statement_eq_ok otherMade
  have styles : result.connection.style = other.connection.style := by
    rw [connection, otherConnection, clause_style, clause_style, sameStyle]
  obtain ⟨sameColumns, sameConnection, sameSql⟩ :=
    LoadStatement.toText_injective styles sameText
  rw [connection, otherConnection, ← sameStyle] at sameConnection
  refine ⟨sameColumns, ⟨result.sql, generated, ?_, result.sql_found_iff⟩, ?_, ?_⟩
  · rw [sameSql]
    exact otherGenerated
  · intro isNamed
    rw [isNamed] at sameConnection
    cases sameConnection
    exact ⟨name, named, otherNamed⟩
  · intro isInline
    rw [isInline] at sameConnection
    cases sameConnection
    exact ⟨name, otherName, information, named, otherNamed, resolved, otherResolved⟩

/-- A remote source that tells where its connections lead and nothing else. -/
def silentRemote : Remote where
  resolve _ _ := .ok ⟨"jdbc:remote", "user", "password"⟩
  connect _ _ := .error (.connectFailed "silent")
  provide _ := .error (.connectFailed "silent")
  prepare _ _ _ := .error (.connectFailed "silent")
  conventions _ _ := .error (.connectFailed "silent")
  tables _ _ _ _ _ _ := .error (.connectFailed "silent")
  columns _ _ _ _ _ _ := .error (.connectFailed "silent")

/-- The name of a connection that looks like the end of a load statement. -/
def hostileName : String := "X STATEMENT \x27y\x27\x27"

/-- A request over such a connection, with a type of which the fraction is not printed. -/
def hostileRequest (dialect : Dialect) (fraction : Nat) : LoadRequest where
  dialect := dialect
  strategy := .planned
  style := .named
  context := {}
  properties := .ofList [(Property.connectionName, hostileName)]
  version := .unknown
  planned := some [.interval .yearToMonth 2 fraction]
  node := .column ⟨"it\x27s", none, none⟩

/-- The load statement of the request. -/
def hostileStatement (fraction : Nat) : LoadStatement :=
  ⟨some [.interval .yearToMonth 2 fraction], .named hostileName, "\"it\x27s\""⟩

/-- Two requests for two dialects, with a fraction that is not printed and texts that look like the
words of a statement. -/
theorem statement_determines_hostile :
    (hostileStatement 0).columns.map (·.map DataType.printed) =
        (hostileStatement 3).columns.map (·.map DataType.printed) ∧
      ∃ sql, (hostileRequest .generic 0).generate = .ok sql ∧
        (hostileRequest .oracle 3).generate = .ok sql := by
  have sameStyle : (hostileRequest .generic 0).style = (hostileRequest .oracle 3).style := rfl
  have made : (hostileRequest .generic 0).statement silentRemote (provide silentRemote) .fresh =
      .ok (hostileStatement 0) ⟨[.resolve hostileName], none⟩ := rfl
  have otherMade : (hostileRequest .oracle 3).statement silentRemote (provide silentRemote)
      .fresh = .ok (hostileStatement 3) ⟨[.resolve hostileName], none⟩ := rfl
  have sameText : (hostileStatement 0).toText = (hostileStatement 3).toText := rfl
  obtain ⟨columns, ⟨sql, generated, otherGenerated, _⟩, _⟩ :=
    statement_determines sameStyle made otherMade sameText
  exact ⟨columns, sql, generated, otherGenerated⟩

end LoadRequest

end Pushdown
