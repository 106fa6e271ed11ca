/-
Module: Pushdown.Proofs.Json.ReadBack
Purpose: A value that is written on one line is read back in its written form.
Main exports: Json.spelled, Json.readString?_spelled, Json.textValue?_spelled, Json.written?,
  Json.read?_compact
-/
import Pushdown.Json.Basic
import Pushdown.Json.Value
import Pushdown.Proofs.Text.Value

namespace Pushdown.Json

/-!
Reading what was written goes along the grammar.  A string is read character by character, each
from its own escape; a value is read with enough fuel if what follows cannot go on with it, which
the brackets and commas around it see to.  Doubles are left out: their written form is the business
of their printer.
-/

/-! ### Strings -/

/-- How a character of a text stands in a written string: control characters that have no letter
of their own as escapes by number. -/
def Character.ofChar (c : Char) : Character :=
  if c.toNat < 0x20 ∧ c ∉ ['\n', '\r', '\t', '\x08', '\x0c'] then .unit c.toNat else .plain c

/-- The characters by which a text is written. -/
def spelled (text : String) : List Character := text.toList.map Character.ofChar

/-- A control character is written with the two hexadecimal digits of its number. -/
theorem unitValue?_hexDigit {n : Nat} (control : n < 0x20) :
    Written.unitValue? '0' '0' (hexDigit (n / 16)) (hexDigit (n % 16)) = some n := by
  have each : ∀ n : Fin 0x20,
      Written.unitValue? '0' '0' (hexDigit (n.val / 16)) (hexDigit (n.val % 16)) =
        some n.val := by decide
  exact each ⟨n, control⟩

/-- A character that is written as a letter behind a backslash is read back. -/
theorem readString?_of_letter {letter c : Char} (escape : Written.simpleEscape? letter = some c)
    (rest : List Char) :
    Written.readString? ('\\' :: letter :: rest) =
      (Written.readString? rest).map fun (characters, rest) => (.plain c :: characters, rest) := by
  rw [Written.readString?, escape]
  · cases Written.readString? rest <;> rfl
  · intro first second third fourth rest same
    cases same
    cases escape

/-- A character that is written by its number is read back. -/
theorem readString?_of_number {n : Nat} (control : n < 0x20) (rest : List Char) :
    Written.readString? ('\\' :: 'u' :: '0' :: '0' :: hexDigit (n / 16) :: hexDigit (n % 16) ::
        rest) =
      (Written.readString? rest).map fun (characters, rest) => (.unit n :: characters, rest) := by
  rw [Written.readString?, unitValue?_hexDigit control]
  cases Written.readString? rest <;> rfl

/-- Every other character stands for itself. -/
theorem readString?_of_plain {c : Char} (quote : c ≠ '"') (backslash : c ≠ '\\')
    (printed : ¬ c.toNat < 0x20) (rest : List Char) :
    Written.readString? (c :: rest) =
      (Written.readString? rest).map fun (characters, rest) => (.plain c :: characters, rest) := by
  have shown : ¬ (c = '\\' || c.toNat < 0x20) = true := by
    simp only [Bool.or_eq_true, decide_eq_true_eq, not_or]
    exact ⟨backslash, printed⟩
  rw [Written.readString?, if_neg shown]
  · cases Written.readString? rest <;> rfl
  · exact quote
  · intro first second third fourth rest escape
    exact absurd escape backslash
  · intro letter rest escape
    exact absurd escape backslash

/-- A character is read from its escape.  There are three kinds: letters behind a backslash, numbers
behind `\u`, and characters that stand for themselves. -/
theorem readString?_escaped (c : Char) (rest : List Char) :
    Written.readString? (escaped c ++ rest) =
      (Written.readString? rest).map fun (characters, rest) =>
        (Character.ofChar c :: characters, rest) := by
  unfold escaped
  split
  case h_8 quote backslash newline carriage tab backspace feed =>
    split
    next control =>
      have byNumber : Character.ofChar c = .unit c.toNat :=
        if_pos ⟨control, by simpa using ⟨newline, carriage, tab, backspace, feed⟩⟩
      rw [byNumber]
      exact readString?_of_number control rest
    next printed =>
      have itself : Character.ofChar c = .plain c := if_neg fun byNumber => printed byNumber.1
      rw [itself]
      exact readString?_of_plain quote backslash printed rest
  -- The other characters have letters.
  all_goals exact readString?_of_letter rfl rest

/-- A text between quotes is read up to the closing quote, character by character: what is escaped
comes back from its escape, and all else stands for itself. -/
theorem readString?_spelled (text : String) (rest : List Char) :
    Written.readString? (text.toList.flatMap escaped ++ '"' :: rest) =
      some (spelled text, rest) := by
  unfold spelled
  induction text.toList with
  | nil => simp [Written.readString?]
  | cons c cs inductionHypothesis =>
    rw [List.flatMap_cons, List.append_assoc, readString?_escaped, inductionHypothesis]
    rfl

/-- The characters of a text denote the text. -/
@[simp] theorem textValue?_spelled (text : String) : textValue? (spelled text) = some text := by
  have each (cs : List Char) : charactersValue? (cs.map Character.ofChar) = some cs := by
    induction cs with
    | nil => rfl
    | cons c cs inductionHypothesis =>
      rw [List.map_cons, Character.ofChar]
      split
      next control =>
        have whole : (decide (c.toNat < 0xD800) || decide (0xDFFF < c.toNat)) = true := by
          simp only [Bool.or_eq_true, decide_eq_true_eq]
          omega
        rw [charactersValue?.eq_def]
        dsimp only
        rw [if_pos whole, inductionHypothesis, Char.ofNat_toNat]
        rfl
      next =>
        rw [charactersValue?, inductionHypothesis]
        rfl
  rw [textValue?, spelled, each, Option.map_some, String.ofList_toList]

/-! ### Numbers -/

/-- A whole number as written. -/
def Numeral.ofInt (value : Int) : Numeral :=
  ⟨decide (value < 0), Nat.toDigits 10 value.natAbs, [], false, none⟩

/-- What may follow a value: nothing, or what separates it from the next or ends its container. -/
def Ends (rest : List Char) : Prop := ∀ c ∈ rest.head?, c ∈ [',', ']', '}']

/-- The digits of a number are read up to what ends it. -/
theorem readDigits_toDigits (n : Nat) {rest : List Char} (ends : Ends rest) :
    Written.readDigits (Nat.toDigits 10 n ++ rest) = (Nat.toDigits 10 n, rest) := by
  have digits : ∀ c ∈ Nat.toDigits 10 n, c.isDigit = true :=
    fun c member => Nat.isDigit_of_mem_toDigits (by omega) (by omega) member
  have stops : ∀ c ∈ rest.head?, c.isDigit = false := by
    intro c member
    have separates := ends c member
    simp only [List.mem_cons, List.not_mem_nil, or_false] at separates
    rcases separates with rfl | rfl | rfl <;> rfl
  obtain ⟨taken, left⟩ := Text.longestRun_iff.1 ⟨rfl, digits, stops⟩
  rw [Written.readDigits, taken, left]

/-- A number begins with a digit, and with a zero only if it is zero. -/
theorem toDigits_eq_cons (n : Nat) :
    ∃ first digits, Nat.toDigits 10 n = first :: digits ∧ first.isDigit = true ∧
      (0 < n → first ≠ '0') := by
  induction n using Nat.strongRecOn with
  | ind n inductionHypothesis =>
    by_cases single : n < 10
    · have digit : ∀ n : Fin 10, n.val.digitChar.isDigit = true ∧
          (0 < n.val → n.val.digitChar ≠ '0') := by decide
      exact ⟨_, [], Nat.toDigits_of_lt_base single, digit ⟨n, single⟩⟩
    · obtain ⟨first, digits, split, isDigit, notZero⟩ := inductionHypothesis (n / 10) (by omega)
      refine ⟨first, digits ++ [Nat.digitChar (n % 10)], ?_, isDigit, ?_⟩
      · rw [Nat.toDigits_of_base_le (by omega) (by omega), split, List.cons_append]
      · exact fun positive => notZero (by omega)

/-- A number without leading zeros is read up to what ends it.  A zero is read by itself, so digits
behind it would be left over. -/
theorem readWhole?_toDigits (n : Nat) {rest : List Char} (ends : Ends rest) :
    Written.readWhole? (Nat.toDigits 10 n ++ rest) = some (Nat.toDigits 10 n, rest) := by
  rw [Written.readWhole?, readDigits_toDigits n ends]
  rcases Nat.eq_zero_or_pos n with rfl | positive
  · rfl
  · obtain ⟨first, digits, split, -, notZero⟩ := toDigits_eq_cons n
    rw [split]
    cases digits <;> simp [notZero positive]

/-- Digits without a fraction or an exponent are read as a whole number. -/
theorem readUnsigned?_toDigits (negative : Bool) (n : Nat) {rest : List Char} (ends : Ends rest) :
    Written.readUnsigned? negative (Nat.toDigits 10 n ++ rest) =
      some (⟨negative, Nat.toDigits 10 n, [], false, none⟩, rest) := by
  have noFraction : Written.readFraction? rest = some (none, rest) := by
    unfold Written.readFraction?
    split
    next => exact absurd (ends _ rfl) (by decide)
    next => rfl
  have noExponent : Written.readExponent? rest = some (none, rest) := by
    unfold Written.readExponent?
    split
    next => exact absurd (ends _ rfl) (by decide)
    next => exact absurd (ends _ rfl) (by decide)
    next => rfl
  rw [Written.readUnsigned?, readWhole?_toDigits n ends]
  dsimp only
  rw [noFraction]
  dsimp only
  rw [noExponent]
  rfl

/-- A whole number is written with a sign, if it is negative, and with its digits. -/
theorem toText_whole (value : Int) :
    (Number.whole value).toText.toList =
      (if value < 0 then ['-'] else []) ++ Nat.toDigits 10 value.natAbs := by
  change (Int.repr value).toList = _
  cases value with
  | ofNat n => exact Nat.toList_repr
  | negSucc n =>
    rw [Int.repr, String.toList_append, Nat.toList_repr, if_pos (Int.negSucc_lt_zero n)]
    rfl

/-- A whole number begins with its sign or a digit. -/
theorem toText_whole_eq_cons (value : Int) :
    ∃ c rest, (Number.whole value).toText.toList = c :: rest ∧ (c = '-' ∨ c.isDigit = true) := by
  rw [toText_whole]
  split
  · exact ⟨'-', _, rfl, .inl rfl⟩
  · obtain ⟨first, digits, split, isDigit, -⟩ := toDigits_eq_cons value.natAbs
    exact ⟨first, digits, split, .inr isDigit⟩

/-- A whole number is read back. -/
theorem readNumeral?_whole (value : Int) {rest : List Char} (ends : Ends rest) :
    Written.readNumeral? ((Number.whole value).toText.toList ++ rest) =
      some (.ofInt value, rest) := by
  rw [toText_whole, Numeral.ofInt]
  by_cases negative : value < 0
  · rw [if_pos negative, decide_eq_true negative]
    exact readUnsigned?_toDigits true _ ends
  · rw [if_neg negative, decide_eq_false negative, List.nil_append, Written.readNumeral?]
    · exact readUnsigned?_toDigits false _ ends
    · intro others same
      obtain ⟨first, digits, split, isDigit, -⟩ := toDigits_eq_cons value.natAbs
      rw [split] at same
      cases same
      exact absurd isDigit (by decide)

/-! ### Values -/

/-- A number as written, if it is a whole one. -/
def Number.numeral? : Number → Option Numeral
  | .whole value => some (.ofInt value)
  | .real _ => none

mutual

/-- A value as written, if all its numbers are whole. -/
def written? : Json → Option Written
  | .null => some .null
  | .bool value => some (.bool value)
  | .number value => value.numeral?.map .number
  | .text value => some (.text (spelled value))
  | .array elements => (writtenElements? elements).map .array
  | .object members => (writtenMembers? members).map .object

/-- The elements of an array as written. -/
def writtenElements? : List Json → Option (List Written)
  | [] => some []
  | element :: rest =>
    match element.written?, writtenElements? rest with
    | some first, some others => some (first :: others)
    | _, _ => none

/-- The members of an object as written. -/
def writtenMembers? : List (String × Json) → Option (List (List Character × Written))
  | [] => some []
  | (key, value) :: rest =>
    match value.written?, writtenMembers? rest with
    | some first, some others => some ((spelled key, first) :: others)
    | _, _ => none

end

/-- Texts in a row, with commas between them. -/
def joined (texts : List String) : List Char := (",".intercalate texts).toList

theorem joined_singleton (text : String) : joined [text] = text.toList := by
  rw [joined, String.intercalate_singleton]

theorem joined_cons_cons (text next : String) (rest : List String) :
    joined (text :: next :: rest) = text.toList ++ ',' :: joined (next :: rest) := by
  rw [joined, String.intercalate_cons_cons, String.toList_append, String.toList_append,
    List.append_assoc]
  rfl

theorem compact_text (value : String) :
    (Json.text value).compact.toList = '"' :: (value.toList.flatMap escaped ++ ['"']) :=
  String.toList_ofList

theorem compact_array (elements : List Json) :
    (Json.array elements).compact.toList = '[' :: (joined (compactElements elements) ++ [']']) := by
  rw [compact, String.toList_append, String.toList_append]
  rfl

theorem compact_object (members : List (String × Json)) :
    (Json.object members).compact.toList = '{' :: (joined (compactMembers members) ++ ['}']) := by
  rw [compact, String.toList_append, String.toList_append]
  rfl

theorem member_toList (key : String) (value : Json) :
    (quoted key ++ ":" ++ value.compact).toList =
      '"' :: (key.toList.flatMap escaped ++ '"' :: ':' :: value.compact.toList) := by
  rw [String.toList_append, String.toList_append, quoted, String.toList_ofList]
  simp

/-- A value does not begin like a blank or the end of a container.  The reader can tell an empty
container from one with values by the first character. -/
theorem compact_eq_cons {value : Json} {form : Written} (written : value.written? = some form) :
    ∃ c rest, value.compact.toList = c :: rest ∧ Written.isGap c = false ∧ c ≠ ']' := by
  cases value with
  | null => exact ⟨'n', _, rfl, by decide⟩
  | bool value =>
    cases value with
    | true => exact ⟨'t', _, rfl, by decide⟩
    | false => exact ⟨'f', _, rfl, by decide⟩
  | number value =>
    cases value with
    | real value => cases written
    | whole value =>
      obtain ⟨c, rest, split, begins⟩ := toText_whole_eq_cons value
      refine ⟨c, rest, split, ?_⟩
      rcases begins with rfl | isDigit
      · decide
      · constructor
        · rw [← Bool.not_eq_true, Written.isGap]
          intro gap
          simp only [Bool.or_eq_true, beq_iff_eq] at gap
          rcases gap with ((rfl | rfl) | rfl) | rfl <;> exact absurd isDigit (by decide)
        · rintro rfl
          exact absurd isDigit (by decide)
  | text value => exact ⟨'"', _, compact_text value, by decide⟩
  | array elements => exact ⟨'[', _, compact_array elements, by decide⟩
  | object members => exact ⟨'{', _, compact_object members, by decide⟩

theorem skipGap_cons {c : Char} (solid : Written.isGap c = false) (rest : List Char) :
    Written.skipGap (c :: rest) = c :: rest :=
  List.dropWhile_cons_of_neg (by simp [solid])

/-- A value begins with no blank, so nothing is skipped before it. -/
theorem skipGap_compact {value : Json} {form : Written} (written : value.written? = some form)
    (after : List Char) : Written.skipGap (value.compact.toList ++ after) =
      value.compact.toList ++ after := by
  obtain ⟨c, rest, split, solid, -⟩ := compact_eq_cons written
  rw [split, List.cons_append, skipGap_cons solid]

/-- A text that begins with a digit or a sign is read as a number. -/
theorem readValue?_whole (value : Int) {fuel : Nat} {rest : List Char} (ends : Ends rest) :
    Written.readValue? (fuel + 1) ((Number.whole value).toText.toList ++ rest) =
      some (.number (.ofInt value), rest) := by
  obtain ⟨first, digits, split, begins⟩ := toText_whole_eq_cons value
  have read := readNumeral?_whole value ends
  rw [split] at read ⊢
  rw [List.cons_append, Written.readValue?, ← List.cons_append, read]
  · rfl
  -- Other values begin with a letter, a quote or a bracket.
  all_goals
    intro others same
    cases same
    rcases begins with sign | isDigit
    · exact absurd sign (by decide)
    · exact absurd isDigit (by decide)

/-! What is written of a list is written of its first entry and of the others. -/

theorem writtenElements?_cons {first : Json} {others : List Json} {forms : List Written}
    (written : writtenElements? (first :: others) = some forms) :
    ∃ form later, first.written? = some form ∧ writtenElements? others = some later ∧
      forms = form :: later := by
  rw [writtenElements?] at written
  split at written
  next form later writtenFirst writtenOthers =>
    exact ⟨form, later, writtenFirst, writtenOthers, (Option.some.inj written).symm⟩
  next => cases written

theorem writtenMembers?_cons {key : String} {value : Json} {others : List (String × Json)}
    {forms : List (List Character × Written)}
    (written : writtenMembers? ((key, value) :: others) = some forms) :
    ∃ form later, value.written? = some form ∧ writtenMembers? others = some later ∧
      forms = (spelled key, form) :: later := by
  rw [writtenMembers?] at written
  split at written
  next form later writtenFirst writtenOthers =>
    exact ⟨form, later, writtenFirst, writtenOthers, (Option.some.inj written).symm⟩
  next => cases written

theorem ends_cons {c : Char} (separates : c ∈ [',', ']', '}']) (rest : List Char) :
    Ends (c :: rest) := by
  intro other member
  cases member
  exact separates

/-- Elements begin with neither a blank nor the end of their array. -/
theorem joined_elements_eq_cons {first : Json} {form : Written}
    (written : first.written? = some form) (others : List Json) :
    ∃ c rest, joined (compactElements (first :: others)) = c :: rest ∧
      Written.isGap c = false ∧ c ≠ ']' := by
  obtain ⟨c, rest, split, begins⟩ := compact_eq_cons written
  cases others with
  | nil =>
    refine ⟨c, rest, ?_, begins⟩
    rw [compactElements, compactElements, joined_singleton, split]
  | cons next others =>
    refine ⟨c, rest ++ ',' :: joined (compactElements (next :: others)), ?_, begins⟩
    rw [compactElements, compactElements, joined_cons_cons, split]
    rfl

/-- Where the first member of an object ends, either the object does or the next member follows. -/
theorem joined_members_cons (key : String) (value : Json) (others : List (String × Json)) :
    joined (compactMembers ((key, value) :: others)) =
      '"' :: (key.toList.flatMap escaped ++ '"' :: ':' :: (value.compact.toList ++
        match others with
        | [] => []
        | next :: others => ',' :: joined (compactMembers (next :: others)))) := by
  cases others with
  | nil => rw [compactMembers, compactMembers, joined_singleton, member_toList, List.append_nil]
  | cons next others =>
    rw [compactMembers, compactMembers, joined_cons_cons, member_toList]
    simp [compactMembers]

/-- Induction over what the containers of a value hold.  Elements and members are given as such, so
that no proof has to recurse over their lists. -/
theorem inductionOnParts {motive : Json → Prop} (null : motive .null)
    (bool : ∀ value, motive (.bool value)) (number : ∀ value, motive (.number value))
    (text : ∀ value, motive (.text value))
    (array : ∀ elements, (∀ element ∈ elements, motive element) → motive (.array elements))
    (object : ∀ members, (∀ member ∈ members, motive member.2) → motive (.object members)) :
    ∀ value, motive value
  | .null => null
  | .bool value => bool value
  | .number value => number value
  | .text value => text value
  | .array elements =>
    array elements fun element _ => inductionOnParts null bool number text array object element
  | .object members =>
    object members fun member within =>
      have smaller : sizeOf member.2 < sizeOf members := by
        have below := List.sizeOf_lt_of_mem within
        have part : sizeOf member = 1 + sizeOf member.1 + sizeOf member.2 := rfl
        omega
      inductionOnParts null bool number text array object member.2

/-- Whether a value is read back from its text.  The fuel has to cover the text, and what follows
must not go on with the value. -/
def ReadsBack (value : Json) : Prop :=
  ∀ form, value.written? = some form → ∀ fuel rest, value.compact.toList.length < fuel →
    Ends rest → Written.readValue? fuel (value.compact.toList ++ rest) = some (form, rest)

/-- Fuel that covers a text lets one step be taken at least.  It is counted by characters, and every
step leaves a shorter text. -/
theorem readsBack_of_step {value : Json}
    (step : ∀ form, value.written? = some form → ∀ fuel rest,
      value.compact.toList.length < fuel + 1 → Ends rest →
      Written.readValue? (fuel + 1) (value.compact.toList ++ rest) = some (form, rest)) :
    ReadsBack value := by
  intro form written fuel rest enough ends
  cases fuel with
  | zero => cases enough
  | succ fuel => exact step form written fuel rest enough ends

/-- The elements of an array are read back up to its end, if each of them is.  The induction is on
the list behind the first element, since the first one has no comma before it. -/
theorem readElements?_compact {elements : List Json}
    (each : ∀ element ∈ elements, ReadsBack element) (filled : elements ≠ [])
    {forms : List Written} (written : writtenElements? elements = some forms) (fuel : Nat)
    (enough : (joined (compactElements elements)).length + 1 < fuel)
    (rest : List Char) :
    Written.readElements? fuel (joined (compactElements elements) ++ ']' :: rest) =
      some (forms, rest) := by
  induction elements generalizing forms fuel with
  | nil => exact absurd rfl filled
  | cons first others inductionHypothesis =>
    obtain ⟨eachFirst, eachOther⟩ := List.forall_mem_cons.1 each
    obtain ⟨form, later, writtenFirst, writtenLater, rfl⟩ := writtenElements?_cons written
    obtain ⟨fuel, rfl⟩ := Nat.exists_eq_add_one_of_ne_zero (Nat.ne_zero_of_lt enough)
    cases others with
    | nil =>
      cases writtenLater
      rw [compactElements, compactElements, joined_singleton] at enough ⊢
      have read := eachFirst form writtenFirst fuel (']' :: rest) (by omega)
        (ends_cons (by decide) rest)
      rw [Written.readElements?, read]
      rfl
    | cons next others =>
      -- The comma ends the first element, and the next one begins with no blank.
      obtain ⟨_, _, writtenNext, -, -⟩ := writtenElements?_cons writtenLater
      obtain ⟨c, text, split, solid, -⟩ := joined_elements_eq_cons writtenNext others
      have apart : joined (compactElements (first :: next :: others)) =
          first.compact.toList ++ ',' :: joined (compactElements (next :: others)) :=
        joined_cons_cons _ _ _
      rw [apart, List.length_append, List.length_cons] at enough
      have readFirst := eachFirst form writtenFirst fuel
        (',' :: (joined (compactElements (next :: others)) ++ ']' :: rest))
        (by omega) (ends_cons (by decide) _)
      have readLater := inductionHypothesis eachOther (List.cons_ne_nil _ _) writtenLater
        fuel (by omega)
      rw [apart, List.append_assoc, List.cons_append, Written.readElements?, readFirst]
      rw [split, List.cons_append] at readLater ⊢
      dsimp only
      rw [skipGap_cons (by decide)]
      change (Written.readElements? fuel (Written.skipGap (c :: _))).map _ = _
      rw [skipGap_cons solid, readLater]
      rfl

/-- The members of an object are read back up to its end, if the value of each of them is. -/
theorem readMembers?_compact {members : List (String × Json)}
    (each : ∀ member ∈ members, ReadsBack member.2) (filled : members ≠ [])
    {forms : List (List Character × Written)} (written : writtenMembers? members = some forms)
    (fuel : Nat) (enough : (joined (compactMembers members)).length + 1 < fuel)
    (rest : List Char) :
    Written.readMembers? fuel (joined (compactMembers members) ++ '}' :: rest) =
      some (forms, rest) := by
  induction members generalizing forms fuel with
  | nil => exact absurd rfl filled
  | cons first others inductionHypothesis =>
    obtain ⟨key, value⟩ := first
    obtain ⟨eachFirst, eachOther⟩ := List.forall_mem_cons.1 each
    change value.ReadsBack at eachFirst
    obtain ⟨form, later, writtenFirst, writtenLater, rfl⟩ := writtenMembers?_cons written
    obtain ⟨fuel, rfl⟩ := Nat.exists_eq_add_one_of_ne_zero (Nat.ne_zero_of_lt enough)
    rw [joined_members_cons] at enough ⊢
    simp only [List.length_cons, List.length_append] at enough
    simp only [List.cons_append, List.append_assoc, Written.readMembers?, readString?_spelled]
    rw [skipGap_cons (by decide)]
    simp only [skipGap_compact writtenFirst]
    -- The key and its colon are read; the value ends with the object or at a comma.
    cases others with
    | nil =>
      cases writtenLater
      have read := eachFirst form writtenFirst fuel ('}' :: rest) (by omega)
        (ends_cons (by decide) rest)
      rw [List.nil_append, read]
      rfl
    | cons next others =>
      simp only [List.length_cons] at enough
      have readFirst := eachFirst form writtenFirst fuel
        (',' :: (joined (compactMembers (next :: others)) ++ '}' :: rest))
        (by omega) (ends_cons (by decide) _)
      have readLater := inductionHypothesis eachOther (List.cons_ne_nil _ _) writtenLater
        fuel (by omega)
      rw [List.cons_append, readFirst]
      rw [joined_members_cons, List.cons_append] at readLater ⊢
      dsimp only
      rw [skipGap_cons (by decide)]
      change (Written.readMembers? fuel (Written.skipGap ('"' :: _))).map _ = _
      rw [skipGap_cons (by decide), readLater]
      rfl

/-- An array is read back if its elements are. -/
theorem readsBack_array {elements : List Json} (each : ∀ element ∈ elements, ReadsBack element) :
    ReadsBack (.array elements) := by
  refine readsBack_of_step fun form written fuel rest enough ends => ?_
  rw [written?, Option.map_eq_some_iff] at written
  obtain ⟨forms, written, rfl⟩ := written
  cases elements with
  | nil =>
    cases written
    rfl
  | cons first others =>
    rw [compact_array, List.length_cons, List.length_append, List.length_singleton] at enough
    have read := readElements?_compact each (List.cons_ne_nil _ _) written fuel (by omega) rest
    obtain ⟨_, _, writtenFirst, -, -⟩ := writtenElements?_cons written
    obtain ⟨c, text, split, solid, notEnd⟩ := joined_elements_eq_cons writtenFirst others
    rw [compact_array, List.cons_append, List.append_assoc, List.singleton_append,
      Written.readValue?]
    rw [split, List.cons_append] at read ⊢
    rw [skipGap_cons solid]
    split
    next same => exact absurd (List.head_eq_of_cons_eq same) notEnd
    next =>
      rw [read]
      rfl

/-- An object is read back if the values of its members are.  Its keys are strings, which are read
back in any case. -/
theorem readsBack_object {members : List (String × Json)}
    (each : ∀ member ∈ members, ReadsBack member.2) : ReadsBack (.object members) := by
  refine readsBack_of_step fun form written fuel rest enough ends => ?_
  rw [written?, Option.map_eq_some_iff] at written
  obtain ⟨forms, written, rfl⟩ := written
  cases members with
  | nil =>
    cases written
    rfl
  | cons first others =>
    rw [compact_object, List.length_cons, List.length_append, List.length_singleton] at enough
    have read := readMembers?_compact each (List.cons_ne_nil _ _) written fuel (by omega) rest
    rw [compact_object, List.cons_append, List.append_assoc, List.singleton_append,
      Written.readValue?]
    rw [joined_members_cons, List.cons_append] at read ⊢
    rw [skipGap_cons (by decide)]
    split
    next same => exact absurd (List.head_eq_of_cons_eq same) (by decide)
    next =>
      rw [read]
      rfl

/-- Every value is read back from its text, whatever follows it.  The induction is over what the
containers of the value hold. -/
theorem readsBack (value : Json) : ReadsBack value := by
  induction value using inductionOnParts with
  | null =>
    refine readsBack_of_step fun form written fuel rest enough ends => ?_
    cases written
    rfl
  | bool value =>
    refine readsBack_of_step fun form written fuel rest enough ends => ?_
    cases written
    cases value <;> rfl
  | number value =>
    refine readsBack_of_step fun form written fuel rest enough ends => ?_
    cases value with
    | whole value =>
      cases written
      exact readValue?_whole value ends
    | real value => cases written
  | text value =>
    refine readsBack_of_step fun form written fuel rest enough ends => ?_
    cases written
    rw [compact_text, List.cons_append, List.append_assoc, Written.readValue?,
      List.singleton_append, readString?_spelled]
    rfl
  | array elements each => exact readsBack_array each
  | object members each => exact readsBack_object each

/-- A value that is written on one line is read back in its written form, and nothing is left
over. -/
theorem read?_compact {value : Json} {form : Written} (written : value.written? = some form) :
    Written.read? value.compact = some form := by
  have read := value.readsBack form written (value.compact.toList.length + 1) [] (by omega) nofun
  rw [← skipGap_compact written, List.append_nil] at read
  rw [Written.read?, read]
  rfl

end Pushdown.Json
