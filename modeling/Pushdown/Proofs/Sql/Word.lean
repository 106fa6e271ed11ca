/-
Module: Pushdown.Proofs.Sql.Word
Purpose: The words in SQL that is put together from parts, and the text of parts among tokens.
Main exports: wordTexts, Sql.wordTexts, Sql.Apart, Sql.wordTexts_append, Sql.Trimmed,
  Sql.Trimmed.onto_eq, Sql.Trimmed.sourceText_onto
-/
import Pushdown.Proofs.Sql.Formula

namespace Pushdown

/-!
What follows a part of a statement can change how its end is read: two words become one, and white
space at the end belongs to the next token.  Neither happens where one of two neighbours ends or
starts with something else than a word, and no part ends with white space.  The words of a whole
are then those of its parts, and the tokens of a part stand unchanged before those that follow.
-/

/-! ### Words -/

/-- The words among tokens. -/
def wordTexts (tokens : List Token) : List (List Char) :=
  tokens.filterMap fun token =>
    match token.kind with
    | .word text => some text
    | _ => none

/-- The word that tokens start with, if no white space is before it. -/
def leadingWord? : List Token → Option (List Char)
  | ⟨[], .word text⟩ :: _ => some text
  | _ => none

/-- Whether a lexeme belongs to words. -/
def Lexeme.isWord : Lexeme → Bool
  | .plain c => !c.isWhitespace && isWordChar c
  | .quoted _ _ => false

/-- Whether a lexeme is white space. -/
def Lexeme.isBlank : Lexeme → Bool
  | .plain c => c.isWhitespace
  | .quoted _ _ => false

/-- The words of tokens are those of its word tokens. -/
theorem mem_wordTexts {tokens : List Token} {text : List Char} :
    text ∈ wordTexts tokens ↔ ∃ token ∈ tokens, token.kind = .word text := by
  unfold wordTexts
  rw [List.mem_filterMap]
  constructor
  · rintro ⟨token, member, isWord⟩
    refine ⟨token, member, ?_⟩
    split at isWord
    next kind =>
      obtain rfl := Option.some.inj isWord
      exact kind
    next => cases isWord
  · rintro ⟨token, member, kind⟩
    refine ⟨token, member, ?_⟩
    rw [kind]

theorem wordTexts_of_leadingWord? {tokens : List Token} {text : List Char}
    (leading : leadingWord? tokens = some text) :
    wordTexts tokens = text :: (wordTexts tokens).tail := by
  unfold leadingWord? at leading
  split at leading
  · cases leading
    rfl
  · cases leading

/-- A wider gap adds no word. -/
theorem wordTexts_widen (c : Char) (tokens : List Token) :
    wordTexts (widen c tokens) = wordTexts tokens := by
  cases tokens <;> rfl

theorem leadingWord?_widen (c : Char) (tokens : List Token) :
    leadingWord? (widen c tokens) = none := by
  cases tokens <;> rfl

/-- What is not in a word ends the words before it.  Quoted texts, signs and blanks are such. -/
theorem push_notWord {lexeme : Lexeme} (notWord : lexeme.isWord = false) (tokens : List Token) :
    leadingWord? (push lexeme tokens) = none ∧
      wordTexts (push lexeme tokens) = wordTexts tokens := by
  cases lexeme with
  | quoted style payload => exact ⟨rfl, rfl⟩
  | plain c =>
    by_cases blank : c.isWhitespace = true
    · simp only [push, blank, if_true]
      exact ⟨leadingWord?_widen c tokens, wordTexts_widen c tokens⟩
    · have sign : isWordChar c = false := by simpa [Lexeme.isWord, blank] using notWord
      simp only [push, blank, sign, Bool.false_eq_true, if_false]
      split
      · split
        · exact ⟨rfl, rfl⟩
        · exact ⟨rfl, rfl⟩
      · exact ⟨rfl, rfl⟩

/-- A character of a word is put before the word that follows, or starts one. -/
theorem push_word {c : Char} (isWord : (Lexeme.plain c).isWord = true) (tokens : List Token) :
    leadingWord? (push (.plain c) tokens) = some (c :: (leadingWord? tokens).getD []) ∧
      wordTexts (push (.plain c) tokens) =
        match leadingWord? tokens with
        | some text => (c :: text) :: (wordTexts tokens).tail
        | none => [c] :: wordTexts tokens := by
  obtain ⟨notBlank, wordChar⟩ : c.isWhitespace = false ∧ isWordChar c = true := by
    simpa [Lexeme.isWord] using isWord
  simp only [push, notBlank, wordChar, Bool.false_eq_true, if_false, if_true]
  split
  next => exact ⟨rfl, rfl⟩
  next other =>
    have nothing : leadingWord? tokens = none := by
      unfold leadingWord?
      split
      next text rest => exact absurd rfl (other text rest)
      next => rfl
    rw [nothing]
    exact ⟨rfl, rfl⟩

/-- Tokens that are put before others keep their words, unless two words join.  They join only if
the last of the former and the first of the latter are words without a gap. -/
theorem wordTexts_foldr_push (lexemes : List Lexeme) (rest : List Token)
    (apart : (∃ last ∈ lexemes.getLast?, last.isWord = false) ∨ leadingWord? rest = none) :
    leadingWord? (lexemes.foldr push rest) = leadingWord? (lexemes.foldr push []) ∧
      wordTexts (lexemes.foldr push rest) =
        wordTexts (lexemes.foldr push []) ++ wordTexts rest := by
  induction lexemes with
  | nil =>
    rcases apart with ⟨last, member, _⟩ | nothing
    · cases member
    · exact ⟨nothing, rfl⟩
  | cons lexeme lexemes inductionHypothesis =>
    simp only [List.foldr_cons]
    -- The last lexeme stays the last one as long as there are others, or if this one is no word.
    have later : lexemes ≠ [] ∨ lexeme.isWord = true →
        leadingWord? (lexemes.foldr push rest) = leadingWord? (lexemes.foldr push []) ∧
          wordTexts (lexemes.foldr push rest) =
            wordTexts (lexemes.foldr push []) ++ wordTexts rest := by
      intro continues
      apply inductionHypothesis
      rcases apart with ⟨last, member, notWord⟩ | nothing
      · cases lexemes with
        | nil =>
          obtain rfl : lexeme = last := by simpa using member
          rcases continues with filled | isWord
          · exact absurd rfl filled
          · rw [notWord] at isWord
            cases isWord
        | cons next more => exact .inl ⟨last, by simpa using member, notWord⟩
      · exact .inr nothing
    cases isWord : lexeme.isWord with
    | false =>
      obtain ⟨leading, same⟩ := push_notWord isWord (lexemes.foldr push rest)
      obtain ⟨leadingAlone, alone⟩ := push_notWord isWord (lexemes.foldr push [])
      rw [leading, leadingAlone, same, alone]
      refine ⟨rfl, ?_⟩
      by_cases last : lexemes = []
      · rw [last]
        rfl
      · exact (later (.inl last)).2
    | true =>
      obtain ⟨sameLeading, sameWords⟩ := later (.inr isWord)
      match lexeme, isWord with
      | .plain c, isWord =>
        obtain ⟨leading, same⟩ := push_word isWord (lexemes.foldr push rest)
        obtain ⟨leadingAlone, alone⟩ := push_word isWord (lexemes.foldr push [])
        rw [leading, leadingAlone, same, alone, sameLeading, sameWords]
        refine ⟨rfl, ?_⟩
        cases first : leadingWord? (lexemes.foldr push []) with
        | none => rfl
        | some text =>
          rw [wordTexts_of_leadingWord? first]
          rfl

/-- Words consist of characters that are in no quoted text.  A name in quotes is therefore never
taken for a keyword. -/
theorem plain_of_mem_wordTexts {lexemes : List Lexeme} {text : List Char}
    (member : text ∈ wordTexts (lexemes.foldr push [])) {c : Char} (part : c ∈ text) :
    .plain c ∈ lexemes := by
  induction lexemes generalizing text with
  | nil => cases member
  | cons lexeme lexemes inductionHypothesis =>
    rw [List.foldr_cons] at member
    cases isWord : lexeme.isWord with
    | false =>
      rw [(push_notWord isWord _).2] at member
      exact List.mem_cons_of_mem _ (inductionHypothesis member part)
    | true =>
      match lexeme, isWord with
      | .plain d, isWord =>
        rw [(push_word isWord _).2] at member
        split at member
        next following leading =>
          have whole := wordTexts_of_leadingWord? leading
          rcases List.mem_cons.1 member with rfl | member
          · rcases List.mem_cons.1 part with rfl | part
            · exact List.mem_cons_self
            · refine List.mem_cons_of_mem _ (inductionHypothesis ?_ part)
              rw [whole]
              exact List.mem_cons_self
          · exact List.mem_cons_of_mem _ (inductionHypothesis (List.mem_of_mem_tail member) part)
        next =>
          rcases List.mem_cons.1 member with rfl | member
          · obtain rfl := List.mem_singleton.1 part
            exact List.mem_cons_self
          · exact List.mem_cons_of_mem _ (inductionHypothesis member part)

namespace Sql

/-- The words of SQL. -/
def wordTexts (sql : Sql) : List (List Char) := Pushdown.wordTexts (sql.onto [])

/-- Whether no word is made of the end of one SQL and the start of another. -/
def Apart (left right : Sql) : Prop :=
  (∃ last ∈ left.lexemes.getLast?, last.isWord = false) ∨
    ∀ first ∈ right.lexemes.head?, first.isWord = false

/-- Two pieces of SQL have the words of both, unless a word runs on over the seam.  Words of a
statement can be looked up piece by piece. -/
theorem wordTexts_append {left right : Sql} (apart : left.Apart right) :
    (left ++ right).wordTexts = left.wordTexts ++ right.wordTexts := by
  unfold wordTexts
  rw [onto_append]
  refine (wordTexts_foldr_push left.lexemes (right.onto []) ?_).2
  rcases apart with last | first
  · exact .inl last
  · refine .inr ?_
    unfold onto
    cases start : right.lexemes with
    | nil => rfl
    | cons lexeme lexemes => exact (push_notWord (first lexeme (by simp [start])) _).1

/-! ### Parts among other tokens -/

/-- Whether SQL neither starts nor ends with white space. -/
structure Trimmed (sql : Sql) : Prop where
  first : ∃ first ∈ sql.lexemes.head?, first.isBlank = false
  last : ∃ last ∈ sql.lexemes.getLast?, last.isBlank = false

end Sql

/-- Whether the first token does not join what is put before it: there is white space before it,
or it is the end. -/
def Separate (tokens : List Token) : Prop :=
  ∀ token ∈ tokens.head?, token.gap ≠ [] ∨ token.kind = .finish

/-- Reading does not look beyond the first token behind. -/
theorem push_append (lexeme : Lexeme) {front : List Token} (filled : front ≠ [])
    (rest : List Token) :
    push lexeme front ≠ [] ∧ push lexeme (front ++ rest) = push lexeme front ++ rest := by
  obtain ⟨⟨gap, kind⟩, more, rfl⟩ := List.exists_cons_of_ne_nil filled
  cases lexeme with
  | quoted style payload => exact ⟨List.cons_ne_nil _ _, rfl⟩
  | plain c =>
    simp only [push, List.cons_append]
    split
    · exact ⟨List.cons_ne_nil _ _, rfl⟩
    · split
      · cases gap <;> cases kind <;> exact ⟨List.cons_ne_nil _ _, rfl⟩
      · cases gap with
        | cons => exact ⟨List.cons_ne_nil _ _, rfl⟩
        | nil =>
          cases kind with
          | sign text =>
            dsimp only
            split <;> exact ⟨List.cons_ne_nil _ _, rfl⟩
          | _ => exact ⟨List.cons_ne_nil _ _, rfl⟩

/-- What is no blank does not become part of a gap, so it is a token of its own before what stands
separate. -/
theorem push_separate {lexeme : Lexeme} (notBlank : lexeme.isBlank = false) {rest : List Token}
    (separate : Separate rest) :
    push lexeme [] ≠ [] ∧ push lexeme rest = push lexeme [] ++ rest := by
  cases lexeme with
  | quoted style payload => exact ⟨List.cons_ne_nil _ _, rfl⟩
  | plain c =>
    change c.isWhitespace = false at notBlank
    simp only [push, notBlank, Bool.false_eq_true, if_false]
    cases rest with
    | nil => split <;> exact ⟨List.cons_ne_nil _ _, rfl⟩
    | cons token rest =>
      have apart := separate token (by simp)
      obtain ⟨gap, kind⟩ := token
      cases gap with
      | cons => split <;> exact ⟨List.cons_ne_nil _ _, rfl⟩
      | nil =>
        obtain rfl : kind = .finish := apart.resolve_left fun filled => filled rfl
        split <;> exact ⟨List.cons_ne_nil _ _, rfl⟩

/-- What is no blank has no gap before it yet. -/
theorem gap_push {lexeme : Lexeme} (notBlank : lexeme.isBlank = false) (tokens : List Token) :
    ∃ kind rest, push lexeme tokens = ⟨[], kind⟩ :: rest := by
  cases lexeme with
  | quoted style payload => exact ⟨_, _, rfl⟩
  | plain c =>
    change c.isWhitespace = false at notBlank
    simp only [push, notBlank, Bool.false_eq_true, if_false]
    split
    · split <;> exact ⟨_, _, rfl⟩
    · split
      · split <;> exact ⟨_, _, rfl⟩
      · exact ⟨_, _, rfl⟩

namespace Sql.Trimmed

variable {sql : Sql}

/-- The tokens of a part stand unchanged before those that follow, unless a word or a sign would run
on. -/
theorem onto_eq (trimmed : sql.Trimmed) {rest : List Token} (separate : Separate rest) :
    sql.onto rest = sql.onto [] ++ rest := by
  obtain ⟨last, member, notBlank⟩ := trimmed.last
  unfold onto
  obtain ⟨front, split⟩ := List.getLast?_eq_some_iff.1 member
  have filled : ∀ lexemes : List Lexeme,
      (lexemes ++ [last]).foldr push [] ≠ [] ∧
        (lexemes ++ [last]).foldr push rest = (lexemes ++ [last]).foldr push [] ++ rest := by
    intro lexemes
    induction lexemes with
    | nil => exact push_separate notBlank separate
    | cons lexeme lexemes inductionHypothesis =>
      obtain ⟨some, same⟩ := inductionHypothesis
      rw [List.cons_append, List.foldr_cons, List.foldr_cons, same]
      exact push_append lexeme some rest
  rw [split]
  exact (filled front).2

/-- The tokens of a part have its text, without the gap before the first of them.  What the reader
returns as a text is thereby what was written. -/
theorem sourceText_onto (trimmed : sql.Trimmed) : sourceText (sql.onto []) = sql.toText := by
  have chars := sql.chars_onto (List.cons_ne_nil Token.finish [])
  have separate : Separate [Token.finish] := by
    intro token member
    obtain rfl : Token.finish = token := by simpa using member
    exact .inr rfl
  rw [trimmed.onto_eq separate, spacedChars_append] at chars
  have same := List.append_cancel_right chars
  obtain ⟨first, member, notBlank⟩ := trimmed.first
  obtain ⟨more, split⟩ := List.head?_eq_some_iff.1 member
  obtain ⟨kind, rest, start⟩ := gap_push notBlank (more.foldr push [])
  have tokens : sql.onto [] = ⟨[], kind⟩ :: rest := by
    unfold onto
    rw [split]
    exact start
  rw [tokens, spacedChars_cons] at same
  rw [tokens, Sql.toText, ← same]
  rfl

end Sql.Trimmed

end Pushdown
