/-
Module: Pushdown.Yaml.Token
Purpose: The tokens of YAML texts, and how they are found.
Main exports: Yaml.Token, Yaml.Layout, Yaml.Layout.emit, Yaml.Layout.openBlock,
  Yaml.Layout.closeDeeper, Yaml.Layout.propose, Yaml.Layout.expire, Yaml.Token.ofText
-/
import Pushdown.Yaml.Cursor
import Pushdown.Yaml.Scalar

namespace Pushdown.Yaml

/-! ## Tokens

Indentation becomes tokens of its own: one where a block collection starts and one where it ends.
So the structure of a document can be read off its tokens without looking at columns again.
-/

/-- A token of a YAML text. -/
inductive Token where
  | version (major minor : Nat)
  | tagDirective (handle : String)
  | documentStart
  | documentEnd
  /-- A collection of indented lines starts. -/
  | blockSequence
  | blockMapping
  /-- The innermost collection of indented lines ends. -/
  | blockEnd
  /-- A collection between brackets starts or ends. -/
  | flowSequence
  | flowSequenceEnd
  | flowMapping
  | flowMappingEnd
  /-- A hyphen before an element. -/
  | entry
  /-- A comma between brackets. -/
  | comma
  | key
  | value
  | reference (name : String)
  | anchor (name : String)
  | tag (handle : String)
  /-- A text, and whether it stands without quotes and is no block. -/
  | scalar (isPlain : Bool) (text : String)
deriving Repr, DecidableEq, Inhabited

/-! ## Layout

Two things make tokens depend on their surroundings.  Block collections are open as long as lines
are indented as deeply as they are.  And a key is recognised only by the colon behind it: where a
key may start, its place is remembered as a candidate, one for each open bracket and one outside
of all brackets.  A candidate expires at the end of its line and 1024 characters further.  A
candidate that stands at the indentation of the innermost block has to become a key.
-/

/-- A place where a key may have started. -/
structure Candidate where
  isRequired : Bool
  /-- The number of tokens before the place. -/
  position : Nat
  index : Nat
  line : Nat
  column : Nat

/-- How far a text has been cut into tokens. -/
structure Layout where
  cursor : Cursor
  /-- The tokens so far, the last one first. -/
  tokens : List Token := []
  /-- The columns of the open block collections, the innermost first. -/
  columns : List Nat := []
  candidate : Option Candidate := none
  /-- The candidates outside of the open brackets, the innermost first. -/
  outer : List (Option Candidate) := []
  /-- Whether a key may start here. -/
  allowsKey : Bool := true

namespace Layout

/-- The greatest distance between the start of a key and the colon behind it. -/
def greatestKeyLength : Nat := 1024

/-- Whether the place lies between brackets. -/
def inFlow (layout : Layout) : Bool := !layout.outer.isEmpty

/-- The least column that is deeper than the innermost block collection. -/
def margin (layout : Layout) : Nat :=
  match layout.columns with
  | [] => 0
  | column :: _ => column + 1

/-- Adds a token. -/
def emit (layout : Layout) (token : Token) : Layout :=
  { layout with tokens := token :: layout.tokens }

/-- Adds a token behind a given number of tokens. -/
def insertAt (layout : Layout) (position : Nat) (token : Token) : Layout :=
  let later := layout.tokens.length - position
  { layout with tokens := layout.tokens.take later ++ token :: layout.tokens.drop later }

/-- Opens a block collection, unless one is open at the column already. -/
def openBlock (layout : Layout) (position column : Nat) (token : Token) : Layout :=
  if !layout.inFlow && decide (layout.margin ≤ column) then
    { layout.insertAt position token with columns := column :: layout.columns }
  else layout

/-- Opens a block collection at the present place, unless one is open there already. -/
def openHere (layout : Layout) (token : Token) : Layout :=
  layout.openBlock layout.tokens.length layout.cursor.column token

/-- Closes the block collections that pass a test, from the innermost one. -/
def closeWhile (layout : Layout) (test : Nat → Bool) : Layout :=
  if layout.inFlow then layout
  else
    { layout with
      tokens := (layout.columns.takeWhile test).map (fun _ => Token.blockEnd) ++ layout.tokens
      columns := layout.columns.dropWhile test }

/-- Closes the block collections that are indented more deeply than the present place. -/
def closeDeeper (layout : Layout) : Layout :=
  layout.closeWhile fun column => decide (layout.cursor.column < column)

/-- Closes all block collections. -/
def closeAll (layout : Layout) : Layout := layout.closeWhile fun _ => true

/-- Whether some candidate has to become a key. -/
def isRequired : Option Candidate → Bool
  | some candidate => candidate.isRequired
  | none => false

/-- Gives up the innermost candidate. -/
def withdraw (layout : Layout) : Except Error Layout :=
  if isRequired layout.candidate then .error .missingColon
  else .ok { layout with candidate := none }

/-- Makes the present place a candidate, if a key may start here. -/
def propose (layout : Layout) : Except Error Layout :=
  if layout.allowsKey then
    let cursor := layout.cursor
    let candidate : Candidate :=
      { isRequired := !layout.inFlow && layout.columns.head? == some cursor.column
        position := layout.tokens.length
        index := cursor.index
        line := cursor.line
        column := cursor.column }
    layout.withdraw.map fun layout => { layout with candidate := some candidate }
  else .ok layout

/-- Whether a candidate is too far behind a place. -/
def isStale (cursor : Cursor) (candidate : Candidate) : Bool :=
  decide (candidate.line < cursor.line) ||
    decide (candidate.index + greatestKeyLength < cursor.index)

/-- A candidate, unless it is too far behind a place. -/
def fresh (cursor : Cursor) : Option Candidate → Except Error (Option Candidate)
  | none => .ok none
  | some candidate =>
    if isStale cursor candidate then
      if candidate.isRequired then .error .missingColon else .ok none
    else .ok (some candidate)

/-- Gives up the candidates that are too far behind the present place. -/
def expire (layout : Layout) : Except Error Layout := do
  let outer ← layout.outer.mapM (fresh layout.cursor)
  let candidate ← fresh layout.cursor layout.candidate
  pure { layout with outer := outer, candidate := candidate }

/-- Moves to another place. -/
def moveTo (layout : Layout) (cursor : Cursor) : Layout := { layout with cursor := cursor }

/-- Adds the token of an indicator and moves behind it. -/
def take (layout : Layout) (token : Token) (length : Nat) (allowsKey : Bool) : Layout :=
  { layout.emit token with cursor := layout.cursor.skip length, allowsKey := allowsKey }

end Layout

/-! ## Reading

The first character of a token, the character behind it and the column decide which token it is.
Each token takes at least one character, so the length of the text bounds their number.
-/

/-- Whether a character may stand in a YAML text. -/
def isAllowed (c : Char) : Bool :=
  let code := c.toNat
  code == 0x09 || code == 0x0A || code == 0x0D || (0x20 ≤ code && code ≤ 0x7E) ||
    code == 0x85 || (0xA0 ≤ code && code ≤ 0xFFFD) || 0x10000 ≤ code

/-- Whether a character may stand in the name of an anchor. -/
def isNameCharacter (c : Char) : Bool := c.isAlphanum || c == '-' || c == '_'

namespace Layout

/-- The mark that may open a text to tell its encoding. -/
def encodingMark : Char := '\uFEFF'

/-- Whether a blank may stand before the next token: a tab only where no key may start. -/
def skipsBlank (layout : Layout) (c : Char) : Bool :=
  c == ' ' || (c == '\t' && (layout.inFlow || !layout.allowsKey))

/-- Skips blanks, comments and line breaks before the next token. -/
def skipToToken (layout : Layout) : (fuel : Nat) → Layout
  | 0 => layout
  | fuel + 1 =>
    let cursor := layout.cursor
    let cursor :=
      if cursor.index = 0 && cursor.rest.head? = some encodingMark then cursor.skip 1 else cursor
    let cursor := cursor.skipWhile layout.skipsBlank
    let cursor := if cursor.rest.head? = some '#' then cursor.skipLine else cursor
    if cursor.rest.head?.any isBreak then
      skipToToken
        { layout with cursor := cursor.skipBreak, allowsKey := layout.allowsKey || !layout.inFlow }
        fuel
    else layout.moveTo cursor

/-! ### Directives -/

/-- Reads the number of a version: at most nine digits. -/
def readVersionNumber (cursor : Cursor) : Except Error (Nat × Cursor) :=
  let digits := cursor.rest.takeWhile Char.isDigit
  if digits = [] || 9 < digits.length then .error .malformedDirective
  else .ok (Text.digitsValue digits, cursor.skip digits.length)

/-- Reads the two numbers of a version. -/
def readVersion (cursor : Cursor) : Except Error (Token × Cursor) := do
  let (major, cursor) ← readVersionNumber (cursor.skipWhile isGap)
  if cursor.rest.head? = some '.' then
    let (minor, cursor) ← readVersionNumber (cursor.skip 1)
    pure (.version major minor, cursor)
  else .error .malformedDirective

/-- The handle at the start of a text: an exclamation mark, name characters, and a second mark
where there is one. -/
def handleAt : List Char → List Char
  | '!' :: rest =>
    let name := rest.takeWhile isNameCharacter
    '!' :: name ++ ((rest.drop name.length).take 1).filter (· == '!')
  | _ => []

/-- Whether a handle can be declared: the single mark, or a name between two. -/
def isDeclarable (handle : List Char) : Bool :=
  handle == ['!'] || (decide (1 < handle.length) && handle.getLast? == some '!')

/-- Whether a character may stand in a tag; inside angle brackets some more may. -/
def isTagCharacter (inBrackets : Bool) (c : Char) : Bool :=
  isNameCharacter c || ";/?:@&=+$.!~*\x27()%".toList.contains c ||
    (inBrackets && (c == ',' || c == '[' || c == ']'))

/-- The number of octets that an octet starts, itself included. -/
def octetsFrom (octet : Nat) : Option Nat :=
  if octet < 0x80 then some 1
  else if 0xC0 ≤ octet && octet < 0xE0 then some 2
  else if 0xE0 ≤ octet && octet < 0xF0 then some 3
  else if 0xF0 ≤ octet && octet < 0xF8 then some 4
  else none

/-- Whether percent signs are all followed by two digits, and the octets that they give form
characters.  `missing` octets of a character are still to come. -/
def hasSoundEscapes : (missing : Nat) → List Char → Bool
  | missing, '%' :: high :: low :: rest =>
    match Text.hexValue? high, Text.hexValue? low with
    | some high, some low =>
      let octet := 16 * high + low
      if missing = 0 then
        match octetsFrom octet with
        | some octets => hasSoundEscapes (octets - 1) rest
        | none => false
      else octet / 0x40 == 2 && hasSoundEscapes (missing - 1) rest
    | _, _ => false
  | missing, c :: rest => missing == 0 && c != '%' && hasSoundEscapes missing rest
  | missing, [] => missing == 0

/-- Reads the characters of a tag. -/
def readTagCharacters (inBrackets : Bool) (cursor : Cursor) : Except Error (Nat × Cursor) :=
  let characters := cursor.rest.takeWhile (isTagCharacter inBrackets)
  if hasSoundEscapes 0 characters then
    .ok (characters.length, cursor.skip characters.length)
  else .error .malformedTag

/-- Reads the declaration of a handle. -/
def readTagDirective (cursor : Cursor) : Except Error (Token × Cursor) := do
  let cursor := cursor.skipWhile isGap
  let handle := handleAt cursor.rest
  let cursor := cursor.skip handle.length
  if isDeclarable handle && cursor.rest.head?.any isGap then
    let (length, cursor) ← readTagCharacters true (cursor.skipWhile isGap)
    if length = 0 || !endsWord cursor.rest then .error .malformedDirective
    else pure (.tagDirective (String.ofList handle), cursor)
  else .error .malformedDirective

/-- Reads a directive. -/
def directive (layout : Layout) : Except Error Layout := do
  let layout ← layout.closeAll.withdraw
  let cursor := layout.cursor.skip 1
  let name := cursor.rest.takeWhile isNameCharacter
  let cursor := cursor.skip name.length
  if !endsWord cursor.rest then .error .malformedDirective
  else
    let (token, cursor) ←
      if name = ['Y', 'A', 'M', 'L'] then readVersion cursor
      else if name = ['T', 'A', 'G'] then readTagDirective cursor
      else .error .malformedDirective
    match cursor.skipLineEnd? with
    | some cursor => pure { layout.emit token with cursor := cursor, allowsKey := false }
    | none => .error .unfinishedLine

/-! ### Indicators -/

/-- Reads a document mark. -/
def documentMark (layout : Layout) (token : Token) : Except Error Layout := do
  let layout ← layout.closeAll.withdraw
  pure (layout.take token 3 false)

/-- Reads an opening bracket. -/
def openFlow (layout : Layout) (token : Token) : Except Error Layout := do
  let layout ← layout.propose
  let layout := layout.take token 1 true
  pure { layout with outer := layout.candidate :: layout.outer, candidate := none }

/-- Reads a closing bracket. -/
def closeFlow (layout : Layout) (token : Token) : Except Error Layout := do
  let layout ← layout.withdraw
  let layout := layout.take token 1 false
  match layout.outer with
  | [] => pure layout
  | candidate :: outer => pure { layout with candidate := candidate, outer := outer }

/-- Reads a comma. -/
def comma (layout : Layout) : Except Error Layout := do
  let layout ← layout.withdraw
  pure (layout.take .comma 1 true)

/-- Reads a hyphen before an element. -/
def entry (layout : Layout) : Except Error Layout := do
  if !layout.inFlow && !layout.allowsKey then .error .entryNotAllowed
  else
    let layout ← (layout.openHere .blockSequence).withdraw
    pure (layout.take .entry 1 true)

/-- Reads a question mark before a key. -/
def key (layout : Layout) : Except Error Layout := do
  if !layout.inFlow && !layout.allowsKey then .error .keyNotAllowed
  else
    let layout ← (layout.openHere .blockMapping).withdraw
    pure (layout.take .key 1 (!layout.inFlow))

/-- Reads a colon before a value.  A candidate becomes the key of the value. -/
def value (layout : Layout) : Except Error Layout :=
  match layout.candidate with
  | some candidate =>
    let layout :=
      (layout.insertAt candidate.position .key).openBlock candidate.position candidate.column
        .blockMapping
    .ok ({ layout with candidate := none }.take .value 1 false)
  | none =>
    if !layout.inFlow && !layout.allowsKey then .error .valueNotAllowed
    else .ok ((layout.openHere .blockMapping).take .value 1 (!layout.inFlow))

/-- Reads the name behind the indicator of an anchor or an alias. -/
def name (layout : Layout) (token : String → Token) : Except Error Layout := do
  let layout ← layout.propose
  let cursor := layout.cursor.skip 1
  let characters := cursor.rest.takeWhile isNameCharacter
  let cursor := cursor.skip characters.length
  let isEnded := endsWord cursor.rest || (cursor.rest.head?.any "?:,]\x7d%@\x60".toList.contains)
  if characters = [] || !isEnded then .error .malformedName
  else
    pure
      { layout.emit (token (String.ofList characters)) with
        cursor := cursor
        allowsKey := false }

/-- Reads a tag between angle brackets; it has no handle. -/
def readVerbatimTag (cursor : Cursor) : Except Error (String × Cursor) := do
  let (length, cursor) ← readTagCharacters true (cursor.skip 2)
  if length ≠ 0 && cursor.rest.head? = some '>' then pure ("", cursor.skip 1)
  else .error .malformedTag

/-- Reads a tag with a handle.  A single mark is the handle of all tags without another one, and
a tag of its own, without a handle, where nothing follows it. -/
def readShortTag (cursor : Cursor) : Except Error (String × Cursor) := do
  let handle := handleAt cursor.rest
  let (length, after) ← readTagCharacters false (cursor.skip handle.length)
  if decide (1 < handle.length) && handle.getLast? == some '!' then
    if length = 0 then .error .malformedTag else pure (String.ofList handle, after)
  else if handle.length + length = 1 then pure ("", after)
  else pure ("!", after)

/-- Reads a tag. -/
def tag (layout : Layout) : Except Error Layout := do
  let layout ← layout.propose
  let (handle, cursor) ←
    if (layout.cursor.rest.drop 1).head? = some '<' then readVerbatimTag layout.cursor
    else readShortTag layout.cursor
  if endsWord cursor.rest || (layout.inFlow && cursor.rest.head? = some ',') then
    pure { layout.emit (.tag handle) with cursor := cursor, allowsKey := false }
  else .error .malformedTag

/-! ### Scalars -/

/-- Adds a scalar and moves behind it. -/
def takeScalar (layout : Layout) (isPlain : Bool) (text : List Char) (cursor : Cursor)
    (allowsKey : Bool) : Layout :=
  { layout.emit (.scalar isPlain (String.ofList text)) with
    cursor := cursor
    allowsKey := allowsKey }

/-- Reads a block scalar. -/
def blockScalar (layout : Layout) (style : BlockStyle) : Except Error Layout := do
  let layout ← layout.withdraw
  let (text, cursor) ← style.read layout.margin layout.cursor
  pure (layout.takeScalar false text cursor true)

/-- Reads a quoted scalar. -/
def quotedScalar (layout : Layout) (quotes : Quotes) : Except Error Layout := do
  let layout ← layout.propose
  let (text, cursor) ← quotes.read layout.cursor
  pure (layout.takeScalar false text cursor false)

/-- Reads a plain scalar. -/
def plainScalar (layout : Layout) : Except Error Layout := do
  let layout ← layout.propose
  let scalar ← PlainScalar.read layout.inFlow layout.margin layout.cursor
  pure (layout.takeScalar true scalar.text scalar.after scalar.endsLine)

/-- The characters that a plain scalar cannot start with. -/
def indicators : List Char := "-?:,[]\x7b\x7d#&*!|>\x27\"%@\x60".toList

/-- Whether a plain scalar starts with a character before a text.  A hyphen may start one before
anything but a gap, a question mark or a colon only in blocks and inside a word. -/
def startsPlain (layout : Layout) (c : Char) (rest : List Char) : Bool :=
  (!isGap c && !isBreak c && !indicators.contains c) ||
    (c == '-' && !rest.head?.any isGap) ||
    (!layout.inFlow && (c == '?' || c == ':') && !endsWord rest)

/-- Reads the token that starts with a character before a text. -/
def token (layout : Layout) (c : Char) (rest : List Char) : Except Error Layout :=
  let cursor := layout.cursor
  if cursor.column = 0 && c = '%' then layout.directive
  else if cursor.isAtMark '-' then layout.documentMark .documentStart
  else if cursor.isAtMark '.' then layout.documentMark .documentEnd
  else if c = '[' then layout.openFlow .flowSequence
  else if c = '{' then layout.openFlow .flowMapping
  else if c = ']' then layout.closeFlow .flowSequenceEnd
  else if c = '}' then layout.closeFlow .flowMappingEnd
  else if c = ',' then layout.comma
  else if c = '-' && endsWord rest then layout.entry
  else if c = '?' && (layout.inFlow || endsWord rest) then layout.key
  else if c = ':' && (layout.inFlow || endsWord rest) then layout.value
  else if c = '*' then layout.name .reference
  else if c = '&' then layout.name .anchor
  else if c = '!' then layout.tag
  else if c = '|' && !layout.inFlow then layout.blockScalar .literal
  else if c = '>' && !layout.inFlow then layout.blockScalar .folded
  else if c = '\x27' then layout.quotedScalar .single
  else if c = '"' then layout.quotedScalar .double
  else if layout.startsPlain c rest then layout.plainScalar
  else .error .unexpectedCharacter

/-- Reads all further tokens. -/
def run : (fuel : Nat) → Layout → Except Error (List Token)
  | 0, _ => .error .unexpectedCharacter
  | fuel + 1, layout => do
    let layout ← (layout.skipToToken (layout.cursor.rest.length + 1)).expire
    let layout := layout.closeDeeper
    match layout.cursor.rest with
    | [] =>
      let layout ← layout.closeAll.withdraw
      pure layout.tokens.reverse
    | c :: rest =>
      let layout ← layout.token c rest
      run fuel layout

end Layout

/-- The tokens of a text. -/
def Token.ofText (text : String) : Except Error (List Token) :=
  let characters := text.toList
  if characters.all isAllowed then
    Layout.run (characters.length + 1) { cursor := .start characters }
  else .error .controlCharacter

end Pushdown.Yaml
