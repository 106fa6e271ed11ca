/-
Module: Pushdown.Proofs.Text.Value
Purpose: Runs of characters, codes without common beginnings, and the entries of lists.
Main exports: Text.LongestRun, Text.longestRun_iff, PrefixFree, PrefixFree.eq_of_append_eq,
  PrefixFree.flatMap_injective, Text.Trims, Text.trims_iff, Text.Lists, Text.lists_iff
-/
import Mathlib.Data.List.Forall2
import Pushdown.Text.Value

namespace Pushdown

/-! ## Runs

Blanks, digits and the digits of versions are read as long as there are any.  Where such a run ends
can be told without reading it: it holds characters of its kind only, and the rest begins with none
of them.
-/

namespace Text

variable {kind : Char → Bool} {cs run rest : List Char}

/-- Whether a text is a run of characters of one kind and a rest that cannot go on with it. -/
structure LongestRun (kind : Char → Bool) (cs run rest : List Char) : Prop where
  split : cs = run ++ rest
  each : ∀ c ∈ run, kind c = true
  edge : ∀ c ∈ rest.head?, kind c = false

/-- Every text starts with a longest run, which may be empty. -/
theorem longestRun_while (kind : Char → Bool) (cs : List Char) :
    LongestRun kind cs (cs.takeWhile kind) (cs.dropWhile kind) where
  split := List.takeWhile_append_dropWhile.symm
  each := List.all_eq_true.1 List.all_takeWhile
  edge c first := by
    have edge := List.head?_dropWhile_not kind cs
    rw [Option.mem_def.1 first] at edge
    exact edge

/-- What is behind the longest run is found by dropping it.  A run is described by where it ends, so
that it can be spoken of without a program. -/
theorem LongestRun.dropWhile_eq (longest : LongestRun kind cs run rest) :
    cs.dropWhile kind = rest := by
  obtain ⟨rfl, each, edge⟩ := longest
  rw [List.dropWhile_append_of_pos each]
  cases rest with
  | nil => rfl
  | cons c rest => exact List.dropWhile_cons_of_neg (by simp [edge c rfl])

/-- The longest run is found by taking it. -/
theorem LongestRun.takeWhile_eq (longest : LongestRun kind cs run rest) :
    cs.takeWhile kind = run := by
  have whole : cs.takeWhile kind ++ cs.dropWhile kind = run ++ rest := by
    rw [List.takeWhile_append_dropWhile, longest.split]
  rw [longest.dropWhile_eq] at whole
  exact List.append_cancel_right whole

/-- There is one longest run of each kind at the start of a text, and it is the one that is
taken. -/
theorem longestRun_iff :
    LongestRun kind cs run rest ↔ cs.takeWhile kind = run ∧ cs.dropWhile kind = rest := by
  constructor
  · exact fun longest => ⟨longest.takeWhile_eq, longest.dropWhile_eq⟩
  · rintro ⟨rfl, rfl⟩
    exact longestRun_while kind cs

end Text

/-! ## Codes

Several texts of the library start with one of a few fixed words, or consist of nothing else.  If
no word begins another, a reader finds the first word without knowing what follows it.
-/

section

variable {κ α β : Type}

/-- Whether no word of a code begins another. -/
def PrefixFree (word : κ → List α) : Prop :=
  ∀ key other, word key <+: word other → key = other

namespace PrefixFree

variable {word : κ → List α}

/-- A finite code is looked through word by word. -/
theorem of_table [BEq α] [LawfulBEq α] {all : List κ} (complete : ∀ key, key ∈ all)
    (apart : ∀ key ∈ all, ∀ other ∈ all, (word key).isPrefixOf (word other) → key = other) :
    PrefixFree word :=
  fun key other start =>
    apart key (complete key) other (complete other) (List.isPrefixOf_iff_prefix.2 start)

/-- A prefix-free code stays one if its letters are replaced by other ones, each by its own. -/
theorem map (code : PrefixFree word) {f : α → β} (injective : Function.Injective f) :
    PrefixFree fun key => (word key).map f :=
  fun key other start => code key other ((List.prefix_map_iff_of_injective injective).1 start)

/-- The first word of a text is the only one it starts with, if no word of the code begins like
another. -/
theorem eq_of_append_eq (code : PrefixFree word) {key other : κ} {rest remainder : List α}
    (same : word key ++ rest = word other ++ remainder) : key = other ∧ rest = remainder := by
  have equal : key = other := by
    rcases List.append_eq_append_iff.1 same with ⟨more, longer, -⟩ | ⟨more, longer, -⟩
    · exact code key other ⟨more, longer.symm⟩
    · exact (code other key ⟨more, longer.symm⟩).symm
  subst equal
  exact ⟨rfl, List.append_cancel_left same⟩

/-- Rows of words with one text are one row, so a text in a prefix-free code can be read from the
left. -/
theorem flatMap_injective (code : PrefixFree word) (filled : ∀ key, word key ≠ []) :
    Function.Injective fun row : List κ => row.flatMap word := by
  intro row other same
  induction row generalizing other with
  | nil =>
    cases other with
    | nil => rfl
    | cons key more => simp [filled key] at same
  | cons key more inductionHypothesis =>
    cases other with
    | nil => simp [filled key] at same
    | cons otherKey otherMore =>
      simp only [List.flatMap_cons] at same
      obtain ⟨rfl, rests⟩ := code.eq_of_append_eq same
      rw [inductionHypothesis rests]

end PrefixFree

end

/-! ## Lists

The entries of a list are described in three steps: the text is split at its commas, the blanks
around each piece are taken off, and what is empty then is left out.  Each step has one result, so
the description leaves no choice, and entries have no more blanks to lose.
-/

namespace Text

/-! ### Trimming -/

/-- What is left of characters without the blanks around them. -/
structure Trims (cs trimmed : List Char) : Prop where
  around : ∃ before after, cs = before ++ (trimmed ++ after) ∧
    (∀ c ∈ before, isBlank c) ∧ ∀ c ∈ after, isBlank c
  first : ∀ c ∈ trimmed.head?, isBlank c = false
  last : ∀ c ∈ trimmed.getLast?, isBlank c = false

/-- Every text can be trimmed. -/
theorem trims_trimChars (cs : List Char) : Trims cs (trimChars cs) := by
  -- Trimming goes over the front first, and over the back of what is left.
  have front : cs.takeWhile isBlank ++ cs.dropWhile isBlank = cs := List.takeWhile_append_dropWhile
  have back : trimChars cs ++ ((cs.dropWhile isBlank).reverse.takeWhile isBlank).reverse =
      cs.dropWhile isBlank := by
    rw [trimChars, ← List.reverse_append, List.takeWhile_append_dropWhile, List.reverse_reverse]
  refine ⟨⟨cs.takeWhile isBlank, ((cs.dropWhile isBlank).reverse.takeWhile isBlank).reverse, ?_,
    (longestRun_while isBlank cs).each, ?_⟩, ?_, ?_⟩
  · rw [back, front]
  · intro c member
    exact (longestRun_while isBlank _).each c (List.mem_reverse.1 member)
  · intro c member
    apply (longestRun_while isBlank cs).edge
    rw [← back, List.head?_append, Option.mem_def.1 member]
    rfl
  · intro c member
    rw [trimChars, List.getLast?_reverse] at member
    exact (longestRun_while isBlank _).edge c member

/-- There is one way to trim a text. -/
theorem Trims.eq_trimChars {cs trimmed : List Char} (trims : Trims cs trimmed) :
    trimmed = trimChars cs := by
  obtain ⟨before, after, rfl, blankBefore, blankAfter⟩ := trims.around
  cases trimmed with
  | nil =>
    have blank : ∀ c ∈ before ++ after, isBlank c := List.forall_mem_append.2
      ⟨blankBefore, blankAfter⟩
    have run : LongestRun isBlank (before ++ after) (before ++ after) [] :=
      ⟨(List.append_nil _).symm, blank, nofun⟩
    rw [trimChars, List.nil_append, run.dropWhile_eq]
    rfl
  | cons c rest =>
    have front : LongestRun isBlank (before ++ (c :: rest ++ after)) before (c :: rest ++ after) :=
      ⟨rfl, blankBefore, trims.first⟩
    have back :
        LongestRun isBlank (c :: rest ++ after).reverse after.reverse (c :: rest).reverse := by
      refine ⟨List.reverse_append, ?_, ?_⟩
      · exact fun other member => blankAfter other (List.mem_reverse.1 member)
      · rw [List.head?_reverse]
        exact trims.last
    rw [trimChars, front.dropWhile_eq, back.dropWhile_eq, List.reverse_reverse]

/-- There is one way to trim a text, and it is the one that is computed.  The relation has no
direction, so it also tells which texts are trimmed to a given one. -/
theorem trims_iff {cs trimmed : List Char} : Trims cs trimmed ↔ trimmed = trimChars cs := by
  constructor
  · exact Trims.eq_trimChars
  · rintro rfl
    exact trims_trimChars cs

theorem trimChars_trimChars (cs : List Char) : trimChars (trimChars cs) = trimChars cs := by
  have trims := trims_trimChars cs
  exact (Trims.eq_trimChars ⟨⟨[], [], by simp, nofun, nofun⟩, trims.first, trims.last⟩).symm

/-- A text without blanks is left as it is. -/
theorem trim_of_solid {text : String} (solid : ∀ c ∈ text.toList, isBlank c = false) :
    trim text = text := by
  have trims : Trims text.toList text.toList :=
    ⟨⟨[], [], by simp, nofun, nofun⟩, fun c member => solid c (List.mem_of_mem_head? member),
      fun c member => solid c (List.mem_of_mem_getLast? member)⟩
  rw [trim, ← trims.eq_trimChars, String.ofList_toList]

/-! ### Lists -/

/-- A text has one piece at least. -/
theorem pieces_ne_nil (separator : Char) (cs : List Char) : pieces separator cs ≠ [] := by
  cases cs with
  | nil => exact List.cons_ne_nil _ _
  | cons c rest =>
    unfold pieces
    split
    · exact List.cons_ne_nil _ _
    · split <;> exact List.cons_ne_nil _ _

/-- Pieces are those that splitting a list gives.  The specification of lists can use the library,
and not the function that it is about. -/
theorem pieces_eq_splitOn (separator : Char) (cs : List Char) :
    pieces separator cs = cs.splitOn separator := by
  induction cs with
  | nil => rfl
  | cons c rest inductionHypothesis =>
    rw [pieces, List.splitOn, List.splitOnP_cons_eq_if_modifyHead, ← List.splitOn,
      ← inductionHypothesis]
    by_cases same : c = separator
    · simp [same]
    · obtain ⟨piece, others, split⟩ := List.exists_cons_of_ne_nil (pieces_ne_nil separator rest)
      simp [same, split]

/-- The entries of a text: what is left of the pieces between its commas without the blanks around
them, if anything is left. -/
def Lists (text : String) (entries : List String) : Prop :=
  ∃ trimmed, List.Forall₂ Trims (text.toList.splitOn ',') trimmed ∧
    entries = (trimmed.filter (· ≠ [])).map String.ofList

/-- Every text lists one row of entries, the one that is computed from its pieces.  Blank pieces are
no entries. -/
theorem lists_iff {text : String} {listed : List String} :
    Lists text listed ↔ listed = entries text := by
  have trims : Trims = fun cs trimmed => trimChars cs = trimmed := by
    funext cs trimmed
    rw [trims_iff]
    exact propext eq_comm
  have each (trimmed : List (List Char)) : List.Forall₂ Trims (text.toList.splitOn ',') trimmed ↔
      (text.toList.splitOn ',').map trimChars = trimmed := by
    rw [trims, ← List.forall₂_map_left_iff, List.forall₂_eq_eq_eq]
  simp only [Lists, each, entries, pieces_eq_splitOn, exists_eq_left']

/-- Entries have been trimmed already. -/
theorem trim_of_mem_entries {text entry : String} (member : entry ∈ entries text) :
    trim entry = entry := by
  obtain ⟨trimmed, kept, rfl⟩ := List.mem_map.1 member
  obtain ⟨piece, -, rfl⟩ := List.mem_map.1 (List.mem_filter.1 kept).1
  rw [trim, String.toList_ofList, trimChars_trimChars]

end Text

end Pushdown
