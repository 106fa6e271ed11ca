/-
Module: Pushdown.Yaml.Scalar
Purpose: Texts in YAML documents: plain, quoted, or as blocks of lines.
Main exports: Yaml.Gap, Yaml.Gap.text, Yaml.Gap.read, Yaml.PlainScalar, Yaml.PlainScalar.read,
  Yaml.Quotes, Yaml.Quotes.read, Yaml.BlockStyle, Yaml.BlockStyle.read
-/
import Pushdown.Text.Value
import Pushdown.Yaml.Cursor

namespace Pushdown.Yaml

/-! ## White space

Plain and quoted scalars may go on over several lines.  Within a line white space stands for
itself.  Where a line ends, the blanks around its end do not count; a single line feed stands for
a blank, and of several the first is left out.
-/

/-- White space between words: blanks of one line or, once a line has ended, its line break and
the further ones. -/
structure Gap where
  blanks : List Char := []
  breaks : Option (List Char × List Char) := none
deriving Repr, DecidableEq

namespace Gap

/-- Whether a line ends in the gap. -/
def endsLine (gap : Gap) : Bool := gap.breaks.isSome

/-- The gap with one more blank. -/
def addBlank (gap : Gap) (c : Char) : Gap :=
  match gap.breaks with
  | none => { gap with blanks := gap.blanks ++ [c] }
  | some _ => gap

/-- The gap with one more line break. -/
def addBreak (gap : Gap) (lineBreak : List Char) : Gap :=
  match gap.breaks with
  | none => ⟨[], some (lineBreak, [])⟩
  | some (first, further) => ⟨[], some (first, further ++ lineBreak)⟩

/-- What line breaks stand for. -/
def folded (first further : List Char) : List Char :=
  if first = ['\n'] then if further = [] then [' '] else further
  else first ++ further

/-- The text that the gap stands for. -/
def text (gap : Gap) : List Char :=
  match gap.breaks with
  | none => gap.blanks
  | some (first, further) => folded first further

/-- Reads on in a gap.  At the start of a further line no tab may stand before the margin. -/
def readOn (margin : Nat) : (fuel : Nat) → Gap → Cursor → Except Error (Gap × Cursor)
  | 0, gap, cursor => .ok (gap, cursor)
  | fuel + 1, gap, cursor =>
    match cursor.rest with
    | [] => .ok (gap, cursor)
    | c :: _ =>
      if isBreak c then
        readOn margin fuel (gap.addBreak (breakText cursor.rest)) cursor.skipBreak
      else if isGap c then
        if c == '\t' && gap.endsLine && decide (cursor.column < margin) then
          .error .tabInIndentation
        else readOn margin fuel (gap.addBlank c) (cursor.skip 1)
      else .ok (gap, cursor)

/-- Reads a gap, of which a beginning may have been read already. -/
def read (margin : Nat) (begun : Gap) (cursor : Cursor) : Except Error (Gap × Cursor) :=
  readOn margin cursor.rest.length begun cursor

end Gap

/-! ## Plain texts

A plain scalar ends before a colon at the end of a word, before a comment, before a document mark
and, between brackets, before any bracket or comma.  In blocks it also ends where a line starts
before the margin.  The white space behind it is read with it.
-/

/-- A plain scalar and what is left behind it. -/
structure PlainScalar where
  text : List Char
  /-- Whether a line has ended behind the scalar. -/
  endsLine : Bool
  after : Cursor

/-- Whether a character structures collections between brackets. -/
def isFlowIndicator (c : Char) : Bool :=
  c == ',' || c == '[' || c == ']' || c == '{' || c == '}'

namespace PlainScalar

/-- Whether a text starts with a character that may not follow a colon between brackets. -/
def refusesColon : List Char → Bool
  | [] => false
  | c :: _ => isFlowIndicator c || c == '?'

/-- The characters up to the end of a word. -/
def word (inFlow : Bool) : List Char → Except Error (List Char)
  | [] => .ok []
  | c :: rest =>
    if isGap c || isBreak c then .ok []
    else if inFlow && c == ':' && refusesColon rest then .error .unexpectedColon
    else if (c == ':' && endsWord rest) || (inFlow && isFlowIndicator c) then .ok []
    else (word inFlow rest).map (c :: ·)

/-- Reads on behind a gap. -/
def readOn (inFlow : Bool) (margin : Nat) :
    (fuel : Nat) → List Char → Gap → Cursor → Except Error PlainScalar
  | 0, text, gap, cursor => .ok ⟨text, gap.endsLine, cursor⟩
  | fuel + 1, text, gap, cursor =>
    if cursor.isAtDocumentMark || cursor.rest.head? == some '#' then
      .ok ⟨text, gap.endsLine, cursor⟩
    else
      match word inFlow cursor.rest with
      | .error error => .error error
      | .ok [] => .ok ⟨text, gap.endsLine, cursor⟩
      | .ok characters =>
        match Gap.read margin {} (cursor.skip characters.length) with
        | .error error => .error error
        | .ok (next, cursor) =>
          let text := text ++ gap.text ++ characters
          if !inFlow && decide (cursor.column < margin) then .ok ⟨text, next.endsLine, cursor⟩
          else readOn inFlow margin fuel text next cursor

/-- Reads a plain scalar. -/
def read (inFlow : Bool) (margin : Nat) (cursor : Cursor) : Except Error PlainScalar :=
  readOn inFlow margin (cursor.rest.length + 1) [] {} cursor

end PlainScalar

/-! ## Quoted texts

Between single quotes a quote is written twice, and nothing else is special.  Between double
quotes a backslash starts an escape; one at the end of a line takes the line break away.  In both
forms lines are folded, and no line may start with a document mark.
-/

/-- The two kinds of quotes. -/
inductive Quotes where
  | single
  | double
deriving Repr, DecidableEq

namespace Quotes

/-- The quote itself. -/
def mark : Quotes → Char
  | .single => '\x27'
  | .double => '"'

/-- The character that a one-letter escape stands for. -/
def escape? : Char → Option Char
  | '0' => some '\x00'
  | 'a' => some '\x07'
  | 'b' => some '\x08'
  | 't' | '\t' => some '\t'
  | 'n' => some '\n'
  | 'v' => some '\x0b'
  | 'f' => some '\x0c'
  | 'r' => some '\r'
  | 'e' => some '\x1b'
  | ' ' => some ' '
  | '"' => some '"'
  | '/' => some '/'
  | '\\' => some '\\'
  | 'N' => some '\u0085'
  | '_' => some '\u00a0'
  | 'L' => some '\u2028'
  | 'P' => some '\u2029'
  | _ => none

/-- The number of digits of an escape by number. -/
def escapeLength? : Char → Option Nat
  | 'x' => some 2
  | 'u' => some 4
  | 'U' => some 8
  | _ => none

/-- The character that an escape by number denotes. -/
def numbered? (digits : List Char) (length : Nat) : Option Char :=
  if digits.length < length then none
  else
    match digits.mapM Text.hexValue? with
    | none => none
    | some values =>
      let code := values.foldl (fun sum value => sum * 16 + value) 0
      if code.isValidChar then some (Char.ofNat code) else none

/-- Reads the escape behind a backslash: its character and its length. -/
def readEscape : List Char → Except Error (Char × Nat)
  | [] => .error .unclosedQuote
  | letter :: rest =>
    match escape? letter, escapeLength? letter with
    | some c, _ => .ok (c, 1)
    | none, some length =>
      match numbered? (rest.take length) length with
      | some c => .ok (c, length + 1)
      | none => .error .invalidEscape
    | none, none => .error .unknownEscape

/-- Reads on inside quotes.  The text so far is kept backwards. -/
def readOn (quotes : Quotes) :
    (fuel : Nat) → List Char → Cursor → Except Error (List Char × Cursor)
  | 0, _, _ => .error .unclosedQuote
  | fuel + 1, text, cursor =>
    if cursor.isAtDocumentMark then .error .documentMarkInQuotes
    else
      match cursor.rest with
      | [] => .error .unclosedQuote
      | c :: rest =>
        if isGap c || isBreak c then
          match Gap.read 0 {} cursor with
          | .error error => .error error
          | .ok (gap, cursor) => readOn quotes fuel (gap.text.reverse ++ text) cursor
        else if c == quotes.mark then
          if quotes == .single && rest.head? == some c then
            readOn quotes fuel (c :: text) (cursor.skip 2)
          else .ok (text.reverse, cursor.skip 1)
        else if quotes == .double && c == '\\' then
          if rest.head?.any isBreak then
            match Gap.read 0 ⟨[], some ([], [])⟩ (cursor.skip 1).skipBreak with
            | .error error => .error error
            | .ok (gap, cursor) => readOn quotes fuel (gap.text.reverse ++ text) cursor
          else
            match readEscape rest with
            | .error error => .error error
            | .ok (escaped, length) =>
              readOn quotes fuel (escaped :: text) (cursor.skip (1 + length))
        else readOn quotes fuel (c :: text) (cursor.skip 1)

/-- Reads a quoted scalar from its opening quote on. -/
def read (quotes : Quotes) (cursor : Cursor) : Except Error (List Char × Cursor) :=
  readOn quotes cursor.rest.length [] (cursor.skip 1)

end Quotes

/-! ## Blocks

A block scalar consists of the lines after its header that are indented deeply enough: as deeply
as the header says, or else as the first line with text is.  A literal block keeps its line
breaks; a folded one joins lines of text that neither start with a blank.  The header also says
what becomes of the line breaks at the end.
-/

/-- The two kinds of block scalars. -/
inductive BlockStyle where
  | literal
  | folded
deriving Repr, DecidableEq

/-- What becomes of line breaks at the end: none is kept, the first is kept, all are kept. -/
inductive Chomping where
  | strip
  | clip
  | keep
deriving Repr, DecidableEq

/-- What the header of a block scalar says. -/
structure BlockHeader where
  chomping : Chomping := .clip
  /-- How much deeper the lines are indented than the block around them. -/
  increment : Option Nat := none

/-- What has been read of a block scalar: the text up to its last line, the break that ends that
line, the empty lines behind it, and whether it starts with a blank. -/
structure BlockText where
  text : List Char := []
  lineBreak : List Char := []
  empties : List Char := []
  startsBlank : Bool := false

namespace BlockStyle

/-- Reads a sign of chomping. -/
def readChomping (header : BlockHeader) (cursor : Cursor) : BlockHeader × Cursor :=
  match cursor.rest with
  | '+' :: _ => ({ header with chomping := .keep }, cursor.skip 1)
  | '-' :: _ => ({ header with chomping := .strip }, cursor.skip 1)
  | _ => (header, cursor)

/-- Reads a digit of indentation. -/
def readIncrement (header : BlockHeader) (cursor : Cursor) : Except Error (BlockHeader × Cursor) :=
  match cursor.rest with
  | '0' :: _ => .error .zeroIndentation
  | c :: _ =>
    if c.isDigit then .ok ({ header with increment := some (Text.digitValue c) }, cursor.skip 1)
    else .ok (header, cursor)
  | [] => .ok (header, cursor)

/-- Reads a header: a sign and a digit in any order, either of which may be missing. -/
def readHeader (cursor : Cursor) : Except Error (BlockHeader × Cursor) :=
  let (header, afterSign) := readChomping {} cursor
  match readIncrement header afterSign with
  | .error error => .error error
  | .ok (header, afterDigit) =>
    let (header, cursor) :=
      if afterSign.index = cursor.index then readChomping header afterDigit
      else (header, afterDigit)
    match cursor.skipLineEnd? with
    | some cursor => .ok (header, cursor)
    | none => .error .unfinishedLine

/-- The blanks at the start of a line, at most as many as the indentation still lacks. -/
def missingBlanks (indentation : Option Nat) (cursor : Cursor) : Nat :=
  let blanks := (cursor.rest.takeWhile (· == ' ')).length
  match indentation with
  | some depth => min blanks (depth - cursor.column)
  | none => blanks

/-- Reads empty lines and the indentation behind them: their line breaks, the deepest column
reached, and the place. -/
def readEmpties (indentation : Option Nat) :
    (fuel : Nat) → (breaks : List Char) → (deepest : Nat) → Cursor →
      Except Error (List Char × Nat × Cursor)
  | 0, breaks, deepest, cursor => .ok (breaks, deepest, cursor)
  | fuel + 1, breaks, deepest, cursor =>
    let cursor := cursor.skip (missingBlanks indentation cursor)
    let deepest := max deepest cursor.column
    match cursor.rest with
    | [] => .ok (breaks, deepest, cursor)
    | c :: _ =>
      if c == '\t' && indentation.all fun depth => decide (cursor.column < depth) then
        .error .tabInIndentation
      else if isBreak c then
        readEmpties indentation fuel (breaks ++ breakText cursor.rest) deepest cursor.skipBreak
      else .ok (breaks, deepest, cursor)

/-- What stands before the next line: the line break before it, unless the two lines are to be
joined, and the empty lines. -/
def joint (style : BlockStyle) (block : BlockText) (startsBlank : Bool) : List Char :=
  if style == .folded && block.lineBreak == ['\n'] && !block.startsBlank && !startsBlank then
    if block.empties = [] then [' '] else block.empties
  else block.lineBreak ++ block.empties

/-- Reads the lines of a block. -/
def readLines (style : BlockStyle) (depth : Nat) :
    (fuel : Nat) → BlockText → Cursor → Except Error (BlockText × Cursor)
  | 0, block, cursor => .ok (block, cursor)
  | fuel + 1, block, cursor =>
    match cursor.rest with
    | [] => .ok (block, cursor)
    | c :: _ =>
      if cursor.column = depth then
        let after := cursor.skipLine
        let line := cursor.rest.takeWhile fun c => !isBreak c
        match readEmpties (some depth) (after.rest.length + 1) [] 0 after.skipBreak with
        | .error error => .error error
        | .ok (empties, _, next) =>
          readLines style depth fuel
            ⟨block.text ++ joint style block (isGap c) ++ line, breakText after.rest, empties,
              isGap c⟩ next
      else .ok (block, cursor)

/-- The text of a block after chomping. -/
def chomped (chomping : Chomping) (block : BlockText) : List Char :=
  match chomping with
  | .strip => block.text
  | .clip => block.text ++ block.lineBreak
  | .keep => block.text ++ block.lineBreak ++ block.empties

/-- Reads a block scalar from its indicator on.  The margin is the least column that is deeper
than the block around it. -/
def read (style : BlockStyle) (margin : Nat) (cursor : Cursor) :
    Except Error (List Char × Cursor) :=
  match readHeader (cursor.skip 1) with
  | .error error => .error error
  | .ok (header, cursor) =>
    let stated := header.increment.map fun increment => margin - 1 + increment
    match readEmpties stated (cursor.rest.length + 1) [] 0 cursor with
    | .error error => .error error
    | .ok (empties, deepest, cursor) =>
      let depth := stated.getD (max deepest (max margin 1))
      match readLines style depth (cursor.rest.length + 1) { empties := empties } cursor with
      | .error error => .error error
      | .ok (block, cursor) => .ok (chomped header.chomping block, cursor)

end BlockStyle

end Pushdown.Yaml
