/-
Module: Pushdown.Proofs.Text.Quoted
Purpose: Reading quoted texts undoes writing them, whatever follows and whatever the payload.
Main exports: QuoteStyle.readBody_body, QuoteStyle.decode_encode, QuoteStyle.eq_body_of_readBody,
  QuoteStyle.ending_injective
-/
import Pushdown.Sql.Span

namespace Pushdown.Text.QuoteStyle

/-!
A body is read up to the first closing mark that is not doubled.  So it is read back whole as
long as no closing mark follows the one that ends it: two quoted texts of one style must never
touch.  Where no backslash escapes, the way back holds as well: what can be read as a body was
written as the body of its payload.
-/

/-- A closing quote is doubled in the body of a quoted text, and in some styles the escape is
too. -/
theorem body_cons (style : QuoteStyle) (c : Char) (payload : List Char) :
    style.body (c :: payload) =
      (if style.doubles c then [c, c] else [c]) ++ style.body payload := by
  simp [body]

/-- A body and its closing mark are read back, unless one more closing mark follows, which would be
taken as a doubled one. -/
theorem readBody_body (style : QuoteStyle) (payload : List Char) {rest : List Char}
    (apart : rest.head? ≠ some style.closing) :
    style.readBody (style.body payload ++ style.closing :: rest) = some (payload, rest) := by
  induction payload with
  | nil =>
    cases rest with
    | nil => simp [body, readBody]
    | cons next after =>
      have different : next ≠ style.closing := by simpa using apart
      simp [body, readBody, different]
  | cons c payload inductionHypothesis =>
    rw [body_cons]
    by_cases closes : c = style.closing
    · simp [doubles, readBody, closes, inductionHypothesis]
    · by_cases escapes : style.backslashEscapes ∧ c = '\\'
      · have doubled : style.doubles c := by simp [doubles, escapes]
        simp only [doubled, if_true, List.cons_append, List.nil_append]
        rw [readBody]
        simp [escapes, inductionHypothesis]
      · have single : style.doubles c = false := by
          simpa [doubles, closes] using escapes
        simp only [single, Bool.false_eq_true, if_false, List.cons_append, List.nil_append]
        rw [readBody.eq_def]
        simp [closes, escapes, inductionHypothesis]

/-- Quoting is undone by reading.  The rest of the text is read on from behind the closing mark. -/
theorem decodeChars_encodeChars (style : QuoteStyle) (payload : List Char) :
    style.decodeChars (style.encodeChars payload) = some payload := by
  have read := @readBody_body style payload [] (by simp)
  simp [encodeChars, decodeChars, read]

/-- A payload is read back from its quoted text, whatever it is: doubling is undone mark by mark. -/
theorem decode_encode (style : QuoteStyle) (payload : String) :
    style.decode (style.encode payload) = some payload := by
  simp [decode, encode, decodeChars_encodeChars]

/-- Reading a body uses up at least its closing mark. -/
theorem length_lt_of_readBody {style : QuoteStyle} {text payload rest : List Char}
    (read : style.readBody text = some (payload, rest)) : rest.length < text.length := by
  fun_induction readBody style text generalizing payload rest with
  | case1 => cases read
  | case2 =>
    cases read
    simp
  | case3 after inductionHypothesis =>
    obtain ⟨⟨payload', rest'⟩, inner, same⟩ := Option.map_eq_some_iff.1 read
    cases same
    have := inductionHypothesis inner
    simp only [List.length_cons]
    omega
  | case4 d after different =>
    cases read
    simp
  | case5 => cases read
  | case6 c closes escapes d after inductionHypothesis =>
    obtain ⟨⟨payload', rest'⟩, inner, same⟩ := Option.map_eq_some_iff.1 read
    cases same
    have := inductionHypothesis inner
    simp only [List.length_cons]
    omega
  | case7 c after closes escapes inductionHypothesis =>
    obtain ⟨⟨payload', rest'⟩, inner, same⟩ := Option.map_eq_some_iff.1 read
    cases same
    have := inductionHypothesis inner
    simp only [List.length_cons]
    omega

/-- Where no backslash escapes, what is read as a body is the body of its payload, so quoting is the
only way to write it. -/
theorem eq_body_of_readBody {style : QuoteStyle} (unescaped : style.backslashEscapes = false)
    {text payload rest : List Char} (read : style.readBody text = some (payload, rest)) :
    text = style.body payload ++ style.closing :: rest := by
  fun_induction readBody style text generalizing payload rest with
  | case1 => cases read
  | case2 =>
    cases read
    simp [body]
  | case3 after inductionHypothesis =>
    obtain ⟨⟨payload', rest'⟩, inner, same⟩ := Option.map_eq_some_iff.1 read
    cases same
    simp [body_cons, doubles, inductionHypothesis inner]
  | case4 d after different =>
    cases read
    simp [body]
  | case5 c closes escapes => simp [unescaped] at escapes
  | case6 c closes escapes d after => simp [unescaped] at escapes
  | case7 c after closes escapes inductionHypothesis =>
    obtain ⟨⟨payload', rest'⟩, inner, same⟩ := Option.map_eq_some_iff.1 read
    cases same
    simp [body_cons, doubles, closes, unescaped, inductionHypothesis inner]

/-- Where no backslash escapes, only quoted forms can be read.  With backslashes several forms can
be read as one text. -/
theorem eq_encode_of_decode {style : QuoteStyle} (unescaped : style.backslashEscapes = false)
    {text payload : String} (read : style.decode text = some payload) :
    text = style.encode payload := by
  obtain ⟨chars, decoded, rfl⟩ := Option.map_eq_some_iff.1 read
  rw [encode, String.toList_ofList]
  refine String.toList_inj.1 ?_
  rw [String.toList_ofList]
  unfold decodeChars at decoded
  split at decoded
  case h_1 => cases decoded
  case h_2 c rest same =>
    split at decoded
    case isTrue opened =>
      split at decoded
      case h_1 payload' found =>
        cases decoded
        rw [same, opened, eq_body_of_readBody unescaped found]
        rfl
      case h_2 => cases decoded
    case isFalse => cases decoded

/-- A text that starts with a body is read from the left. -/
theorem body_append_injective (style : QuoteStyle) {payload other rest after : List Char}
    (apart : rest.head? ≠ some style.closing) (otherApart : after.head? ≠ some style.closing)
    (same : style.body payload ++ style.closing :: rest =
      style.body other ++ style.closing :: after) : payload = other ∧ rest = after := by
  have read := style.readBody_body payload apart
  rw [same, style.readBody_body other otherApart] at read
  cases read
  exact ⟨rfl, rfl⟩

/-! ### Reading from the right

A quoted text at the end of a larger one can also be found from the right, whatever stands before
it.  Inside a body closing marks come in pairs, so up to any place in it that is not just behind a
closing mark there is an even number of them.
-/

/-- The closing marks that a character is written with are none or two. -/
theorem even_closing_of_char (style : QuoteStyle) (c : Char) :
    (if style.doubles c then [c, c] else [c]).count style.closing % 2 = 0 := by
  by_cases closes : c = style.closing
  · simp [doubles, closes]
  · have other : ¬ (c == style.closing) = true := by simpa using closes
    split <;> simp [List.count_cons, other]

/-- Closing quotes stand in pairs in a body, so a single one ends it.  The parity is what tells the
end of the text from its inside. -/
theorem even_closing_of_body (style : QuoteStyle) (payload : List Char) :
    (style.body payload).count style.closing % 2 = 0 := by
  induction payload with
  | nil => rfl
  | cons c payload inductionHypothesis =>
    have first := style.even_closing_of_char c
    rw [body_cons, List.count_append]
    omega

/-- Up to a place behind another character, a body has an even number of closing marks. -/
theorem even_closing_of_split (style : QuoteStyle) {payload front back : List Char}
    (split : style.body payload = front ++ back) (apart : front.getLast? ≠ some style.closing) :
    front.count style.closing % 2 = 0 := by
  induction payload generalizing front with
  | nil =>
    obtain ⟨rfl, _⟩ := List.nil_eq_append_iff.1 split
    rfl
  | cons c payload inductionHypothesis =>
    have first := style.even_closing_of_char c
    rw [body_cons] at split
    rcases List.append_eq_append_iff.1 split with ⟨front', rfl, later⟩ | ⟨back', within, _⟩
    · have apart' : front'.getLast? ≠ some style.closing := by
        intro last
        exact apart (by simp [List.getLast?_append, last])
      have inner := inductionHypothesis later apart'
      rw [List.count_append]
      omega
    · -- The place is within what the first character is written with.
      by_cases closes : c = style.closing
      · subst closes
        match front with
        | [] => rfl
        | [d] => simp_all [doubles]
        | [d, e] => simp_all [doubles]
        | d :: e :: f :: rest => simp [doubles] at within
      · have absent : style.closing ∉ (if style.doubles c then [c, c] else [c]) := by
          split <;> simp [Ne.symm closes]
        rw [within, List.mem_append, not_or] at absent
        rw [List.count_eq_zero_of_not_mem absent.1]

/-- Two lists that are split at the first place of a mark are split alike. -/
theorem split_at_mark {mark : Char} {left right rest after : List Char} (notLeft : mark ∉ left)
    (notRight : mark ∉ right) (same : left ++ mark :: rest = right ++ mark :: after) :
    left = right := by
  have other : ∀ {part : List Char}, mark ∉ part → ∀ c ∈ part, (c != mark) = true :=
    fun absent c member => by
      rw [bne_iff_ne]
      rintro rfl
      exact absent member
  have taken := congrArg (List.takeWhile (· != mark)) same
  rw [List.takeWhile_append_of_pos (other notLeft),
    List.takeWhile_append_of_pos (other notRight)] at taken
  simpa using taken

section Ending

variable {style : QuoteStyle} {word : List Char}

/-- A body holds no quoted text behind a word. -/
theorem body_ne_of_ending (nonempty : word ≠ []) (unmarked : style.closing ∉ word)
    (payload before other : List Char) :
    style.body payload ≠ before ++ (word ++ style.closing :: style.body other) := by
  intro same
  have apart : (before ++ word).getLast? ≠ some style.closing := by
    rw [List.getLast?_append]
    intro last
    cases ending : word.getLast? with
    | none => exact nonempty (List.getLast?_eq_none_iff.1 ending)
    | some c =>
      simp only [ending, Option.some_or, Option.some.injEq] at last
      exact unmarked (last ▸ List.mem_of_getLast? ending)
  have front := style.even_closing_of_split
    (same.trans (List.append_assoc before word _).symm) apart
  have whole := style.even_closing_of_body payload
  have inner := style.even_closing_of_body other
  rw [same, ← List.append_assoc, List.count_append, List.count_cons_self] at whole
  omega

/-- A quoted text at the end, behind a word, is not found further to the right.  What looks like one
there begins within the text itself. -/
theorem nil_of_ending (symmetric : style.opening = style.closing) (nonempty : word ≠ [])
    (unmarked : style.closing ∉ word) {shift payload other : List Char}
    (same : word ++ style.encodeChars payload =
      shift ++ (word ++ style.encodeChars other)) : shift = [] := by
  simp only [encodeChars, symmetric] at same
  have regrouped : (word ++ [style.closing]) ++ (style.body payload ++ [style.closing]) =
      shift ++ (word ++ style.closing :: (style.body other ++ [style.closing])) := by
    simpa using same
  have impossible : ∀ before, style.body payload ++ [style.closing] ≠
      before ++ (word ++ style.closing :: (style.body other ++ [style.closing])) := by
    intro before within
    refine body_ne_of_ending nonempty unmarked payload before other ?_
    exact List.append_cancel_right (within.trans (by simp))
  rcases List.append_eq_append_iff.1 regrouped with ⟨before, _, within⟩ | ⟨back, shorter, later⟩
  · exact absurd within (impossible before)
  · rcases List.eq_nil_or_concat back with rfl | ⟨front, last, rfl⟩
    · exact absurd later.symm (by simpa using impossible [])
    · rw [List.concat_eq_append, ← List.append_assoc] at shorter
      obtain ⟨sameWord, sameLast⟩ := List.append_inj' shorter rfl
      obtain rfl : style.closing = last := by simpa using sameLast
      have notFront : style.closing ∉ front := fun member =>
        unmarked (sameWord ▸ List.mem_append_right _ member)
      rw [List.concat_eq_append, List.append_assoc] at later
      have sameFront : word = front := split_at_mark unmarked notFront later
      rw [sameFront] at sameWord
      exact List.self_eq_append_left.1 sameWord

/-- A quoted text at the end, behind a word, is found from the right whatever stands before the
word: where opening and closing mark are one, and the word is not empty and without the mark. -/
theorem ending_injective (symmetric : style.opening = style.closing) (nonempty : word ≠ [])
    (unmarked : style.closing ∉ word) {front back payload other : List Char}
    (same : front ++ (word ++ style.encodeChars payload) =
      back ++ (word ++ style.encodeChars other)) : front = back ∧ payload = other := by
  have sameFront : front = back := by
    rcases List.append_eq_append_iff.1 same with ⟨shift, rfl, later⟩ | ⟨shift, rfl, later⟩
    · rw [nil_of_ending symmetric nonempty unmarked later, List.append_nil]
    · rw [nil_of_ending symmetric nonempty unmarked later, List.append_nil]
  subst sameFront
  have sameQuoted := List.append_cancel_left (List.append_cancel_left same)
  have decoded := style.decodeChars_encodeChars payload
  rw [sameQuoted, decodeChars_encodeChars] at decoded
  exact ⟨rfl, (Option.some.inj decoded).symm⟩

end Ending

end Pushdown.Text.QuoteStyle
