/-
Module: Pushdown.Proofs.Sql.Scan
Purpose: Reading SQL text from left to right, by quoting rules alone.
Main exports: Lexeme, scan, Sql.lexemes, Sql.Legible, scan_chars
-/
import Pushdown.Proofs.Text.Quoted
import Pushdown.Sql.Span

namespace Pushdown

/-!
A server that reads a statement knows nothing of the spans it was written in: it goes from left
to right, and a mark that opens a quoted text decides how the characters after it are read.
`scan` is that reader.  It finds the spans again where the library's own text has no marks and
two quoted texts never touch; this is `Sql.Legible`, and it is kept by the ways in which SQL is
put together.
-/

/-- What a reader makes of SQL text: single characters, and payloads of quoted texts. -/
inductive Lexeme where
  | plain (c : Char)
  | quoted (style : Text.QuoteStyle) (payload : String)
deriving Repr, DecidableEq

/-- The style that a mark opens. -/
def styleOpenedBy? (styles : List Text.QuoteStyle) (c : Char) : Option Text.QuoteStyle :=
  styles.find? fun style => style.opening == c

/-- Reads a text under several styles of quotes.  There is no reading of a text that ends between
two marks. -/
def scan (styles : List Text.QuoteStyle) : List Char → Option (List Lexeme)
  | [] => some []
  | c :: rest =>
    match styleOpenedBy? styles c with
    | none => (scan styles rest).map (.plain c :: ·)
    | some style =>
      match _read : style.readBody rest with
      | none => none
      | some (payload, after) =>
        (scan styles after).map (.quoted style (String.ofList payload) :: ·)
termination_by text => text.length
decreasing_by
  · simp
  · have := Text.QuoteStyle.length_lt_of_readBody _read
    simp only [List.length_cons]
    omega

/-- The characters that open or close a quoted text in some dialect. -/
def Text.isMark (c : Char) : Bool := ['\x27', '"', '\x60', '[', ']'].contains c

/-- Whether a text is without marks. -/
def Text.Unmarked (text : String) : Prop := ∀ c ∈ text.toList, Text.isMark c = false

instance (text : String) : Decidable (Text.Unmarked text) :=
  List.decidableBAll (fun c => Text.isMark c = false) text.toList

@[simp]
theorem Text.unmarked_append (left right : String) :
    Text.Unmarked (left ++ right) ↔ Text.Unmarked left ∧ Text.Unmarked right := by
  simp [Text.Unmarked, or_imp, forall_and]

/-- Whether the marks of styles are marks, and the opening ones tell the styles apart. -/
def Distinct (styles : List Text.QuoteStyle) : Prop :=
  ∀ style ∈ styles, styleOpenedBy? styles style.opening = some style ∧
    Text.isMark style.opening ∧ Text.isMark style.closing

instance (styles : List Text.QuoteStyle) : Decidable (Distinct styles) :=
  inferInstanceAs (Decidable (∀ style ∈ styles, _))

/-- The characters of a lexeme. -/
def Lexeme.chars : Lexeme → List Char
  | .plain c => [c]
  | .quoted style payload => style.encodeChars payload.toList

/-- The lexemes that a span stands for. -/
def Span.lexemes : Span → List Lexeme
  | .code text => text.toList.map .plain
  | .quoted style payload => [.quoted style payload]

namespace Sql

/-- The lexemes that SQL stands for. -/
def lexemes (sql : Sql) : List Lexeme := sql.flatMap Span.lexemes

/-- The lexemes have the characters of the text. -/
theorem lexemes_chars (sql : Sql) : sql.lexemes.flatMap Lexeme.chars = sql.chars := by
  simp only [lexemes, chars, List.flatMap_assoc]
  congr 1
  funext span
  cases span with
  | code text => simp [Span.lexemes, Span.chars, Lexeme.chars, List.flatMap_map]
  | quoted style payload => simp [Span.lexemes, Span.chars, Lexeme.chars]

/-- Whether SQL does not start with a mark. -/
def Detached (sql : Sql) : Prop := ∀ c ∈ sql.chars.head?, Text.isMark c = false

/-- Whether the library's own text has no marks, quoted texts are of given styles, and no mark
follows a quoted text. -/
def Legible (styles : List Text.QuoteStyle) : Sql → Prop
  | [] => True
  | .code text :: rest => Text.Unmarked text ∧ Legible styles rest
  | .quoted style _ :: rest => style ∈ styles ∧ Detached rest ∧ Legible styles rest

end Sql

theorem scan_plain {styles : List Text.QuoteStyle} {c : Char}
    (plain : styleOpenedBy? styles c = none) (rest : List Char) :
    scan styles (c :: rest) = (scan styles rest).map (.plain c :: ·) := by
  rw [scan]
  simp [plain]

/-- An opening quote starts a quoted text, which is read to its end before anything else. -/
theorem scan_quoted {styles : List Text.QuoteStyle} {style : Text.QuoteStyle}
    {text payload rest : List Char} (opened : styleOpenedBy? styles style.opening = some style)
    (read : style.readBody text = some (payload, rest)) :
    scan styles (style.opening :: text) =
      (scan styles rest).map (.quoted style (String.ofList payload) :: ·) := by
  rw [scan]
  simp only [opened]
  split
  next failed => simp [read] at failed
  next payload' rest' same =>
    simp only [read, Option.some.injEq, Prod.mk.injEq] at same
    obtain ⟨rfl, rfl⟩ := same
    rfl

theorem styleOpenedBy_unmarked {styles : List Text.QuoteStyle} (distinct : Distinct styles)
    {c : Char} (unmarked : Text.isMark c = false) : styleOpenedBy? styles c = none := by
  simp only [styleOpenedBy?, List.find?_eq_none, beq_iff_eq]
  rintro style member rfl
  simp [(distinct style member).2.1] at unmarked

/-- A text without marks is read character by character, whatever follows it.  Most of a statement
is such text. -/
theorem scan_unmarked {styles : List Text.QuoteStyle} (distinct : Distinct styles)
    {text : List Char} (unmarked : ∀ c ∈ text, Text.isMark c = false) (rest : List Char) :
    scan styles (text ++ rest) = (scan styles rest).map (text.map .plain ++ ·) := by
  induction text with
  | nil => simp
  | cons c text inductionHypothesis =>
    rw [List.forall_mem_cons] at unmarked
    rw [List.cons_append, scan_plain (styleOpenedBy_unmarked distinct unmarked.1),
      inductionHypothesis unmarked.2]
    simp [Function.comp_def]

/-- Legible SQL is read as it was written: the scan of its text gives back its lexemes. -/
theorem scan_chars {styles : List Text.QuoteStyle} (distinct : Distinct styles) {sql : Sql}
    (legible : sql.Legible styles) : scan styles sql.chars = some sql.lexemes := by
  induction sql with
  | nil => simp [Sql.chars, Sql.lexemes, scan]
  | cons span rest inductionHypothesis =>
    simp only [Sql.chars, Sql.lexemes, List.flatMap_cons] at inductionHypothesis ⊢
    cases span with
    | code text =>
      obtain ⟨unmarked, restLegible⟩ := legible
      simp only [Span.chars, Span.lexemes]
      rw [scan_unmarked distinct unmarked, inductionHypothesis restLegible]
      rfl
    | quoted style payload =>
      obtain ⟨member, detached, restLegible⟩ := legible
      obtain ⟨opened, -, closing⟩ := distinct style member
      have apart : (rest.flatMap Span.chars).head? ≠ some style.closing := fun next => by
        simpa [closing] using detached style.closing next
      have read := style.readBody_body payload.toList apart
      simp only [Span.chars, Span.lexemes, Text.QuoteStyle.encodeChars, List.cons_append,
        List.append_assoc, List.nil_append]
      rw [scan_quoted opened read, inductionHypothesis restLegible]
      simp

namespace Sql

@[simp]
theorem chars_append (left right : Sql) : (left ++ right).chars = left.chars ++ right.chars := by
  simp [chars]

@[simp]
theorem lexemes_append (left right : Sql) :
    (left ++ right).lexemes = left.lexemes ++ right.lexemes := by
  simp [lexemes]

@[simp]
theorem lexemes_code (text : String) : (code text).lexemes = text.toList.map .plain := by
  simp [code, lexemes, Span.lexemes]

/-- Two pieces of SQL together start like the first one, or like the second if the first is
empty. -/
theorem Detached.append {left right : Sql} (leftDetached : left.Detached)
    (rightDetached : right.Detached) : (left ++ right).Detached := by
  intro c first
  rw [chars_append, List.head?_append] at first
  cases start : left.chars.head? with
  | none => exact rightDetached c (by simpa [start] using first)
  | some d => exact leftDetached c (by simpa [start] using first)

theorem detached_code {text : String} (unmarked : Text.Unmarked text) :
    (code text).Detached := by
  intro c first
  refine unmarked c (List.mem_of_head? ?_)
  simpa [code, chars, Span.chars] using first

/-- Legible SQL that may follow a quoted text. -/
structure Trailing (styles : List Text.QuoteStyle) (sql : Sql) : Prop where
  legible : sql.Legible styles
  detached : sql.Detached

variable {styles : List Text.QuoteStyle}

/-- Two legible pieces are legible side by side if the second one may follow a quoted text. -/
theorem Legible.append {left right : Sql} (leftLegible : left.Legible styles)
    (trailing : right.Trailing styles) : (left ++ right).Legible styles := by
  induction left with
  | nil => exact trailing.legible
  | cons span rest inductionHypothesis =>
    cases span with
    | code text => exact ⟨leftLegible.1, inductionHypothesis leftLegible.2⟩
    | quoted style payload =>
      obtain ⟨member, detached, restLegible⟩ := leftLegible
      exact ⟨member, detached.append trailing.detached, inductionHypothesis restLegible⟩

theorem Legible.quoted {style : Text.QuoteStyle} (member : style ∈ styles) (payload : String) :
    Legible styles [.quoted style payload] :=
  ⟨member, fun _ first => by simp [chars] at first, trivial⟩

/-- Text of the library's own can stand before anything. -/
theorem Legible.after {text : String} (unmarked : Text.Unmarked text) {rest : Sql}
    (legible : rest.Legible styles) : (code text ++ rest).Legible styles :=
  ⟨unmarked, legible⟩

namespace Trailing

theorem nil : Trailing styles [] := ⟨trivial, fun _ first => by simp [chars] at first⟩

/-- Text of the library's own keeps what follows from what came before. -/
theorem cons {text : String} (unmarked : Text.Unmarked text) (nonempty : text ≠ "") {rest : Sql}
    (legible : rest.Legible styles) : Trailing styles (.code text :: rest) where
  legible := ⟨unmarked, legible⟩
  detached := by
    intro c first
    refine unmarked c (List.mem_of_head? ?_)
    have filled : text.toList ≠ [] := by simpa using nonempty
    obtain ⟨d, ds, same⟩ := List.exists_cons_of_ne_nil filled
    simpa [chars, Span.chars, same] using first

theorem after {text : String} (unmarked : Text.Unmarked text) (nonempty : text ≠ "") {rest : Sql}
    (legible : rest.Legible styles) : (Sql.code text ++ rest).Trailing styles :=
  cons unmarked nonempty legible

end Trailing

theorem separated_cons_cons (separator : String) (first second : Sql) (rest : List Sql) :
    separated separator (first :: second :: rest) =
      first ++ code separator ++ separated separator (second :: rest) := rfl

end Sql

end Pushdown
