/-
Module: Pushdown.Yaml.Cursor
Purpose: Why a YAML text cannot be read, and places in such texts.
Main exports: Yaml.Error, Yaml.Error.message, Yaml.Cursor, Yaml.isBreak, Yaml.isGap,
  Yaml.endsWord, Yaml.breakText
-/

namespace Pushdown.Yaml

/-! ## Errors

A text fails to be read for one of three reasons: its characters form no tokens, its tokens form
no document, or its document has not the shape that is asked for.
-/

/-- Why a YAML text cannot be read. -/
inductive Error where
  -- no tokens
  | controlCharacter
  | unexpectedCharacter
  | unclosedQuote
  | documentMarkInQuotes
  | unknownEscape
  | invalidEscape
  | unexpectedColon
  | tabInIndentation
  | zeroIndentation
  | unfinishedLine
  | malformedName
  | malformedTag
  | malformedDirective
  | missingColon
  | entryNotAllowed
  | keyNotAllowed
  | valueNotAllowed
  -- no document
  | missingDocumentStart
  | severalDocuments
  | repeatedDirective
  | incompatibleVersion
  | undeclaredTagHandle
  | undefinedAlias
  | missingNode
  | missingEntry
  | missingKey
  | unclosedSequence
  | unclosedMapping
  -- another shape
  | expectedText
  | expectedSequence
  | expectedMapping
  | missingField (name : String)
  | repeatedField (name : String)
  | superfluousElements
  | tooManyAliases
deriving Repr, DecidableEq, Inhabited

namespace Error

/-- What is said about an error.  These words stand for those of the library that reads documents,
which also say where the error is. -/
def message : Error → String
  | .controlCharacter => "control characters are not allowed"
  | .unexpectedCharacter => "a character that cannot start any token"
  | .unclosedQuote => "a quoted text without an end"
  | .documentMarkInQuotes => "a document mark inside a quoted text"
  | .unknownEscape => "an unknown escape"
  | .invalidEscape => "an escape that denotes no character"
  | .unexpectedColon => "a colon at an unexpected place"
  | .tabInIndentation => "a tab in an indentation"
  | .zeroIndentation => "an indentation of zero"
  | .unfinishedLine => "something other than a comment before the end of the line"
  | .malformedName => "a malformed name of an anchor"
  | .malformedTag => "a malformed tag"
  | .malformedDirective => "a malformed directive"
  | .missingColon => "a key without a colon"
  | .entryNotAllowed => "sequence entries are not allowed here"
  | .keyNotAllowed => "mapping keys are not allowed here"
  | .valueNotAllowed => "mapping values are not allowed here"
  | .missingDocumentStart => "the start of a document is missing"
  | .severalDocuments => "more than one document"
  | .repeatedDirective => "a repeated directive"
  | .incompatibleVersion => "an incompatible version"
  | .undeclaredTagHandle => "an undeclared tag handle"
  | .undefinedAlias => "an undefined alias"
  | .missingNode => "a value is missing"
  | .missingEntry => "a sequence entry is missing"
  | .missingKey => "a key is missing"
  | .unclosedSequence => "a sequence without its closing bracket"
  | .unclosedMapping => "a mapping without its closing brace"
  | .expectedText => "a text is expected"
  | .expectedSequence => "a sequence is expected"
  | .expectedMapping => "a mapping is expected"
  | .missingField name => "missing field " ++ name
  | .repeatedField name => "repeated field " ++ name
  | .superfluousElements => "more elements than fields"
  | .tooManyAliases => "too many uses of aliases"

end Error

/-! ## Cursors

The meaning of a YAML text depends on columns and lines, so what is left of a text is kept
together with the place where it starts.  A place only ever moves forward, over characters of a
line or over a line break.
-/

/-- Whether a character breaks a line. -/
def isBreak (c : Char) : Bool :=
  c == '\n' || c == '\r' || c == '\u0085' || c == '\u2028' || c == '\u2029'

/-- Whether a character is a gap between words of a line. -/
def isGap (c : Char) : Bool := c == ' ' || c == '\t'

/-- Whether a text starts with the end of a word: a gap, a line break or nothing at all. -/
def endsWord : List Char → Bool
  | [] => true
  | c :: _ => isGap c || isBreak c

/-- What the line break at the start of a text stands for: a line feed, unless it is one of the
two separators of Unicode, which stand for themselves. -/
def breakText : List Char → List Char
  | [] => []
  | c :: _ =>
    if c == '\u2028' || c == '\u2029' then [c] else if isBreak c then ['\n'] else []

/-- A place in a text, with the text from there on. -/
structure Cursor where
  rest : List Char
  /-- The number of characters before the place. -/
  index : Nat
  line : Nat
  column : Nat
deriving Repr, Inhabited

namespace Cursor

/-- The beginning of a text. -/
def start (characters : List Char) : Cursor := ⟨characters, 0, 0, 0⟩

/-- The place some characters of the same line further. -/
def skip (cursor : Cursor) (count : Nat) : Cursor :=
  ⟨cursor.rest.drop count, cursor.index + count, cursor.line, cursor.column + count⟩

/-- The place behind the line break at this one. -/
def skipBreak (cursor : Cursor) : Cursor :=
  match cursor.rest with
  | '\r' :: '\n' :: rest => ⟨rest, cursor.index + 2, cursor.line + 1, 0⟩
  | _ :: rest => ⟨rest, cursor.index + 1, cursor.line + 1, 0⟩
  | [] => cursor

/-- The place behind all characters that pass a test; none of them may break a line. -/
def skipWhile (cursor : Cursor) (test : Char → Bool) : Cursor :=
  cursor.skip (cursor.rest.takeWhile test).length

/-- The place at the end of the line. -/
def skipLine (cursor : Cursor) : Cursor := cursor.skipWhile fun c => !isBreak c

/-- Whether a line starts here with a document mark: three times the same character, and the end
of a word. -/
def isAtMark (cursor : Cursor) (mark : Char) : Bool :=
  cursor.column == 0 && cursor.rest.take 3 == [mark, mark, mark] && endsWord (cursor.rest.drop 3)

/-- Whether a line starts here with the mark of a start or an end of a document. -/
def isAtDocumentMark (cursor : Cursor) : Bool := cursor.isAtMark '-' || cursor.isAtMark '.'

/-- Skips the rest of a line, which may hold nothing but a comment, and its end. -/
def skipLineEnd? (cursor : Cursor) : Option Cursor :=
  let cursor := cursor.skipWhile isGap
  let cursor := if cursor.rest.head? = some '#' then cursor.skipLine else cursor
  match cursor.rest with
  | [] => some cursor
  | c :: _ => if isBreak c then some cursor.skipBreak else none

end Cursor

end Pushdown.Yaml
