/-
Module: Pushdown.Proofs.Text.Case
Purpose: Which texts come back when their upper-case form is put in lower case again.
Main exports: Text.Returns, Text.toLower_toUpper_iff, Text.returns_iff_of_ascii
-/
import Pushdown.Text.Case

namespace Pushdown.Text

open CaseTable

/-!
Both mappings make something of every character and neither takes characters away, so a text comes
back as a whole only if each of its characters does.  A sigma has two small forms for one capital,
and which of them comes back depends on the capitals around it; any other character stands for
itself.
-/

/-! ### Images of characters -/

theorem mapped_ne_nil {specials : List (Nat × List Nat)} (filled : ∀ entry ∈ specials, entry.2 ≠ [])
    (runs : List Run) (c : Char) : mapped specials runs c ≠ [] := by
  unfold mapped
  split
  next codes found =>
    obtain ⟨before, after, rfl, _⟩ := List.lookup_eq_some_iff.1 found
    have nonempty := filled (c.toNat, codes) (by simp)
    simpa using nonempty
  · split <;> exact List.cons_ne_nil _ _

theorem upperChar_ne_nil (c : Char) : upperChar c ≠ [] := mapped_ne_nil (by decide) _ c

theorem lowerChar_ne_nil (c : Char) : lowerChar c ≠ [] := mapped_ne_nil (by decide) _ c

/-- A capital sigma is the whole of an upper-case form or no part of it.  It is the one letter whose
lower case depends on its surroundings. -/
theorem upperChar_of_sigma {c : Char} (member : 'Σ' ∈ upperChar c) : upperChar c = ['Σ'] := by
  have absent : ∀ entry ∈ upperSpecials, 'Σ' ∉ entry.2.map Char.ofNat := by decide
  unfold upperChar mapped at member ⊢
  split
  next codes found =>
    obtain ⟨before, after, entries, _⟩ := List.lookup_eq_some_iff.1 found
    simp only [found] at member
    exact absurd member (absent (c.toNat, codes) (by simp [entries]))
  next notSpecial =>
    simp only [notSpecial] at member
    split at member <;> exact congrArg (· :: []) (List.mem_singleton.1 member).symm

/-! ### Texts -/

theorem upperChars_cons (c : Char) (rest : List Char) :
    upperChars (c :: rest) = upperChar c ++ upperChars rest := rfl

/-- Without a capital sigma, characters are put in lower case one by one. -/
theorem lowerAfter_append {front : List Char} (plain : 'Σ' ∉ front) (before back : List Char) :
    lowerAfter before (front ++ back) =
      front.flatMap lowerChar ++ lowerAfter (front.reverse ++ before) back := by
  induction front generalizing before with
  | nil => rfl
  | cons c front inductionHypothesis =>
    rw [List.mem_cons, not_or] at plain
    rw [List.cons_append, lowerAfter, if_neg (Ne.symm plain.1), inductionHypothesis plain.2]
    simp

/-- A text does not get shorter in lower case.  Where it comes back from upper case, no letter can
have become two on the way. -/
theorem length_le_lowerAfter (before text : List Char) :
    text.length ≤ (lowerAfter before text).length := by
  induction text generalizing before with
  | nil => exact Nat.zero_le _
  | cons c rest inductionHypothesis =>
    have image : 0 < (if c = 'Σ' then
        if casedFollows before && !casedFollows rest then ['ς'] else ['σ']
        else lowerChar c).length := by
      split
      · split <;> exact Nat.one_pos
      · exact List.length_pos_iff.2 (lowerChar_ne_nil c)
    have later := inductionHypothesis (c :: before)
    rw [lowerAfter, List.length_append, List.length_cons]
    omega

theorem length_le_upperChars (text : List Char) : text.length ≤ (upperChars text).length := by
  induction text with
  | nil => exact Nat.zero_le _
  | cons c rest inductionHypothesis =>
    have image := List.length_pos_iff.2 (upperChar_ne_nil c)
    rw [upperChars_cons, List.length_append, List.length_cons]
    omega

/-- The small form of a capital sigma between other characters, those before it in reverse. -/
def smallSigma (before after : List Char) : Char :=
  if casedFollows before && !casedFollows after then 'ς' else 'σ'

/-- What becomes of a character in upper case and then in lower case, between capitals. -/
def refolded (before : List Char) (c : Char) (after : List Char) : List Char :=
  if upperChar c = ['Σ'] then [smallSigma before after] else (upperChar c).flatMap lowerChar

/-- A character does not vanish in upper case and back. -/
theorem refolded_ne_nil (before : List Char) (c : Char) (after : List Char) :
    refolded before c after ≠ [] := by
  unfold refolded
  split
  · exact List.cons_ne_nil _ _
  · obtain ⟨d, rest, same⟩ := List.exists_cons_of_ne_nil (upperChar_ne_nil c)
    rw [same, List.flatMap_cons]
    exact List.append_ne_nil_of_left_ne_nil (lowerChar_ne_nil d) _

/-- What becomes of a character in upper case and back depends on what stands around it, because of
the final sigma. -/
theorem lowerAfter_upperChar (before : List Char) (c : Char) (after : List Char) :
    lowerAfter before (upperChar c ++ after) =
      refolded before c after ++ lowerAfter ((upperChar c).reverse ++ before) after := by
  unfold refolded
  split
  next sigma =>
    rw [sigma, List.singleton_append, lowerAfter, if_pos rfl, smallSigma]
    split <;> rfl
  next other => exact lowerAfter_append (fun member => other (upperChar_of_sigma member)) _ _

/-- Whether each character comes back, after characters of which the capitals are given in
reverse. -/
def ReturnsAfter (before : List Char) : List Char → Prop
  | [] => True
  | c :: rest =>
    refolded before c (upperChars rest) = [c] ∧ ReturnsAfter ((upperChar c).reverse ++ before) rest

instance decidableReturnsAfter : (before text : List Char) → Decidable (ReturnsAfter before text)
  | _, [] => isTrue trivial
  | before, c :: rest =>
    have := decidableReturnsAfter ((upperChar c).reverse ++ before) rest
    inferInstanceAs (Decidable (refolded before c (upperChars rest) = [c] ∧ _))

/-- Whether each character of a text comes back from the upper-case form of the text. -/
def Returns (text : String) : Prop := ReturnsAfter [] text.toList

instance (text : String) : Decidable (Returns text) :=
  inferInstanceAs (Decidable (ReturnsAfter [] text.toList))

/-- An image that is as long as its character leaves as much for the others. -/
theorem append_eq_cons_iff {α : Type} {image tail rest : List α} {c : α} (filled : image ≠ [])
    (long : rest.length ≤ tail.length) :
    image ++ tail = c :: rest ↔ image = [c] ∧ tail = rest := by
  constructor
  · intro same
    have positive := List.length_pos_iff.2 filled
    have lengths := congrArg List.length same
    rw [List.length_append, List.length_cons] at lengths
    exact List.append_inj same (by rw [List.length_singleton]; omega)
  · rintro ⟨rfl, rfl⟩
    rfl

/-- Characters that come back together come back one by one.  What is asked of a text can therefore
be asked of its letters. -/
theorem lowerAfter_upperChars_iff (before text : List Char) :
    lowerAfter before (upperChars text) = text ↔ ReturnsAfter before text := by
  induction text generalizing before with
  | nil => exact iff_of_true rfl trivial
  | cons c rest inductionHypothesis =>
    have long : rest.length ≤
        (lowerAfter ((upperChar c).reverse ++ before) (upperChars rest)).length :=
      Nat.le_trans (length_le_upperChars rest) (length_le_lowerAfter _ _)
    rw [upperChars_cons, lowerAfter_upperChar, append_eq_cons_iff (refolded_ne_nil _ _ _) long,
      inductionHypothesis, ReturnsAfter]

/-- A text is the lower-case form of its upper-case form if each of its characters comes back where
it stands. -/
theorem toLower_toUpper_iff (text : String) : toLower (toUpper text) = text ↔ Returns text := by
  rw [toLower, toUpper, String.toList_ofList, lowerChars, Returns, ← lowerAfter_upperChars_iff]
  constructor
  · intro same
    simpa using congrArg String.toList same
  · intro same
    rw [same, String.ofList_toList]

-- Small letters alone are not enough: this one has a capital form of two letters.
example : ¬ Returns "straße" := by decide +kernel

/-! ### ASCII -/

/-- In ASCII exactly the capitals do not come back. -/
theorem refolded_of_ascii (before after : List Char) {c : Char} (ascii : c.toNat < 128) :
    refolded before c after = [c] ↔ isUppercase c = false := by
  have table : ∀ n < 128, upperChar (Char.ofNat n) ≠ ['Σ'] ∧
      ((upperChar (Char.ofNat n)).flatMap lowerChar = [Char.ofNat n] ↔
        isUppercase (Char.ofNat n) = false) := by
    decide +kernel
  obtain ⟨other, returns⟩ := table c.toNat ascii
  rw [Char.ofNat_toNat] at other returns
  rw [refolded, if_neg other]
  exact returns

/-- A text in ASCII comes back exactly if it has no capitals, whatever stands before it. -/
theorem returnsAfter_iff_of_ascii {text : List Char} (ascii : ∀ c ∈ text, c.toNat < 128)
    (before : List Char) : ReturnsAfter before text ↔ text.any isUppercase = false := by
  induction text generalizing before with
  | nil => exact iff_of_true trivial rfl
  | cons c rest inductionHypothesis =>
    rw [List.forall_mem_cons] at ascii
    rw [ReturnsAfter, refolded_of_ascii _ _ ascii.1, inductionHypothesis ascii.2, List.any_cons,
      Bool.or_eq_false_iff]

/-- Whether a text has ASCII characters only. -/
def Ascii (text : String) : Prop := ∀ c ∈ text.toList, c.toNat < 128

instance (text : String) : Decidable (Ascii text) :=
  List.decidableBAll (fun c : Char => c.toNat < 128) text.toList

/-- An ASCII text comes back from upper case exactly if it has no capital.  For other scripts there
are letters that come back although they are no small ones. -/
theorem returns_iff_of_ascii {text : String} (ascii : Ascii text) :
    Returns text ↔ text.toList.any isUppercase = false :=
  returnsAfter_iff_of_ascii ascii []

end Pushdown.Text
