/-
Module: Pushdown.Sql.Span
Purpose: Quoted texts, and SQL text as a sequence of spans in which they are kept apart.
Main exports: QuoteStyle, QuoteStyle.encode, QuoteStyle.decode, Span, Sql, Sql.toText,
  Sql.commaSeparated
-/

namespace Pushdown

/-! ## Quoted texts

Every engine puts identifiers and strings between two marks and writes a closing mark inside the
payload twice.  Some engines also read a backslash inside strings as an escape, so there it is
written twice as well.  Since the treatment of a character never depends on its neighbours, the
body of a quoted text is a character-wise image of the payload.
-/

namespace Text

/-- The marks around a quoted text, and whether a backslash escapes inside it. -/
structure QuoteStyle where
  opening : Char
  closing : Char
  backslashEscapes : Bool
deriving Repr, DecidableEq

namespace QuoteStyle

/-- Standard SQL strings. -/
def apostrophes : QuoteStyle := ⟨'\x27', '\x27', false⟩

/-- Strings of engines in which a backslash escapes the next character. -/
def escapedApostrophes : QuoteStyle := ⟨'\x27', '\x27', true⟩

/-- Standard SQL identifiers. -/
def doubleQuotes : QuoteStyle := ⟨'"', '"', false⟩

/-- Identifiers between backticks. -/
def backticks : QuoteStyle := ⟨'\x60', '\x60', false⟩

/-- Identifiers between square brackets. -/
def brackets : QuoteStyle := ⟨'[', ']', false⟩

/-- Whether a character is written twice inside the marks. -/
def doubles (style : QuoteStyle) (c : Char) : Bool :=
  c == style.closing || (style.backslashEscapes && c == '\\')

/-- What stands between the marks for a payload. -/
def body (style : QuoteStyle) (payload : List Char) : List Char :=
  payload.flatMap fun c => if style.doubles c then [c, c] else [c]

/-- The payload between its marks. -/
def encodeChars (style : QuoteStyle) (payload : List Char) : List Char :=
  style.opening :: (style.body payload ++ [style.closing])

/-- The quoted form of a text. -/
def encode (style : QuoteStyle) (payload : String) : String :=
  String.ofList (style.encodeChars payload.toList)

/-- Reads a payload up to its closing mark and returns it with what follows the mark.  A doubled
closing mark stands for one, and an escaping backslash for the character after it. -/
def readBody (style : QuoteStyle) : List Char → Option (List Char × List Char)
  | [] => none
  | c :: rest =>
    if c = style.closing then
      match rest with
      | [] => some ([], [])
      | d :: after =>
        if d = style.closing then
          (style.readBody after).map fun (payload, tail) => (c :: payload, tail)
        else some ([], d :: after)
    else if style.backslashEscapes && c = '\\' then
      match rest with
      | [] => none
      | d :: after => (style.readBody after).map fun (payload, tail) => (d :: payload, tail)
    else (style.readBody rest).map fun (payload, tail) => (c :: payload, tail)

/-- Undoes `encodeChars`; texts that are no quoted form as a whole have no payload. -/
def decodeChars (style : QuoteStyle) : List Char → Option (List Char)
  | [] => none
  | c :: rest =>
    if c = style.opening then
      match style.readBody rest with
      | some (payload, []) => some payload
      | _ => none
    else none

/-- Undoes `encode`. -/
def decode (style : QuoteStyle) (text : String) : Option String :=
  (style.decodeChars text.toList).map String.ofList

end QuoteStyle

end Text

/-! ## Spans

Every character of generated SQL is either written by this library or belongs to the quoted form
of a payload that came with the tree.  Spans keep the two apart until the text is needed, so what
a payload can do to the structure of a statement is settled by how one span is written.
-/

/-- A piece of SQL text: the library's own, or a quoted payload. -/
inductive Span where
  | code (text : String)
  | quoted (style : Text.QuoteStyle) (payload : String)
deriving Repr, DecidableEq

/-- The characters of a span. -/
def Span.chars : Span → List Char
  | .code text => text.toList
  | .quoted style payload => style.encodeChars payload.toList

/-- SQL text in spans. -/
abbrev Sql := List Span

namespace Sql

/-- Text of the library's own. -/
def code (text : String) : Sql := [.code text]

/-- The characters of the text. -/
def chars (sql : Sql) : List Char := sql.flatMap Span.chars

/-- The text. -/
def toText (sql : Sql) : String := String.ofList sql.chars

/-- Several parts with a separator between neighbours. -/
def separated (separator : String) : List Sql → Sql
  | [] => []
  | [part] => part
  | part :: rest => part ++ code separator ++ separated separator rest

/-- Several parts with commas between them. -/
def commaSeparated (parts : List Sql) : Sql := separated ", " parts

end Sql

end Pushdown
