/-
Module: Pushdown.Proofs.Text.Distance
Purpose: The distance of texts is the least number of edits, and a suggestion is the closest
  option.
Main exports: Text.closer_cases, Text.mem_of_closest?, Text.Edit, Text.Edits, Text.gap,
  Text.IsClosest, Text.suggestion_closest
-/
import Mathlib.Data.List.Induction
import Mathlib.Order.Bounds.Basic
import Pushdown.Text.Distance

namespace Pushdown.Text

/-! ## Options

The search for the closest option goes along the options and keeps the best one so far.  An option
takes its place or is passed over, so what is kept at last was one of the options.
-/

section

variable {target option : String} {options : List String}

/-- One step of the search keeps the best option so far or takes the next one.  Facts on what is
found are proved along the search with it. -/
theorem closer_cases (target : String) (best : Option (String × Nat)) (option : String) :
    closer target best option = best ∨
      closer target best option = some (option, distance target option) := by
  unfold closer
  dsimp only
  split
  · split
    · exact .inr rfl
    · exact .inl rfl
  · split
    · exact .inr rfl
    · exact .inl rfl

/-- The best option after a search was the best before it, or is one of the options. -/
theorem best_or_mem_of_foldl_closer {best : Option (String × Nat)} {gap : Nat}
    (found : options.foldl (closer target) best = some (option, gap)) :
    best = some (option, gap) ∨ option ∈ options := by
  induction options generalizing best with
  | nil => exact .inl found
  | cons first rest inductionHypothesis =>
    rcases inductionHypothesis found with kept | later
    · rcases closer_cases target best first with passed | taken
      · exact .inl (passed.symm.trans kept)
      · rw [taken] at kept
        cases kept
        exact .inr List.mem_cons_self
    · exact .inr (List.mem_cons_of_mem first later)

/-- What is suggested is one of the options.  A suggested key is therefore a supported one, and a
suggested capability exists. -/
theorem mem_of_closest? (found : closest? target options = some option) : option ∈ options := by
  obtain ⟨⟨_, gap⟩, best, rfl⟩ := Option.map_eq_some_iff.1 found
  rcases best_or_mem_of_foldl_closer best with start | member
  · cases start
  · exact member

end

/-! ## Edits

An edit inserts, deletes or replaces one character anywhere in a text.  Any number of them may
turn one text into another, in any order and also in detours, so the least number is a minimum
over all sequences of edits and says nothing about how to find it.

`gap` finds it by the first characters of both texts.  It is reached by a sequence of edits, and
no edit brings a text nearer to another one by more than one, so no sequence is shorter.  The table
of `distance` grows at the ends of its prefixes; it holds the gaps of the texts read backwards,
and reading backwards does not change how many edits are needed.
-/

section

/-- An edit of one character. -/
inductive Edit : List Char → List Char → Prop
  | insertion (front back : List Char) (c : Char) : Edit (front ++ back) (front ++ c :: back)
  | deletion (front back : List Char) (c : Char) : Edit (front ++ c :: back) (front ++ back)
  | substitution (front back : List Char) (c d : Char) :
      Edit (front ++ c :: back) (front ++ d :: back)

/-- Edits one after the other, as many as are counted. -/
inductive Edits : Nat → List Char → List Char → Prop
  | nil (text : List Char) : Edits 0 text text
  | cons {count : Nat} {source between target : List Char} (first : Edit source between)
      (others : Edits count between target) : Edits (count + 1) source target

variable {count : Nat} {source target : List Char}

theorem Edit.cons (c : Char) (edit : Edit source target) : Edit (c :: source) (c :: target) := by
  cases edit with
  | insertion front back d => exact .insertion (c :: front) back d
  | deletion front back d => exact .deletion (c :: front) back d
  | substitution front back d e => exact .substitution (c :: front) back d e

/-- Edits behind a character. -/
theorem Edits.behind (c : Char) (edits : Edits count source target) :
    Edits count (c :: source) (c :: target) := by
  induction edits with
  | nil text => exact .nil (c :: text)
  | cons first _ inductionHypothesis => exact .cons (first.cons c) inductionHypothesis

theorem Edit.reverse (edit : Edit source target) : Edit source.reverse target.reverse := by
  cases edit with
  | insertion front back c => simpa using Edit.insertion back.reverse front.reverse c
  | deletion front back c => simpa using Edit.deletion back.reverse front.reverse c
  | substitution front back c d =>
    simpa using Edit.substitution back.reverse front.reverse c d

theorem Edits.reverse (edits : Edits count source target) :
    Edits count source.reverse target.reverse := by
  induction edits with
  | nil text => exact .nil text.reverse
  | cons first _ inductionHypothesis => exact .cons first.reverse inductionHypothesis

/-! ### The gap between two texts -/

/-- What it costs to put one character in the place of another. -/
def exchange (c d : Char) : Nat := if c = d then 0 else 1

theorem exchange_le_one (c d : Char) : exchange c d ≤ 1 := by
  unfold exchange
  split <;> decide

/-- How many edits are needed, by the first characters of both texts. -/
def gap : List Char → List Char → Nat
  | [], target => target.length
  | c :: source, [] => source.length + 1
  | c :: source, d :: target =>
    min (min (gap source (d :: target) + 1) (gap (c :: source) target + 1))
      (gap source target + exchange c d)
termination_by source target => source.length + target.length

theorem gap_nil (target : List Char) : gap [] target = target.length := by
  rw [gap]

theorem gap_to_nil (source : List Char) : gap source [] = source.length := by
  cases source with
  | nil => exact gap_nil []
  | cons c source => rw [gap, List.length_cons]

/-- The gap between two texts is found from those between their tails: the first character is
deleted, inserted, or exchanged. -/
theorem gap_cons_cons (c d : Char) (source target : List Char) :
    gap (c :: source) (d :: target) =
      min (min (gap source (d :: target) + 1) (gap (c :: source) target + 1))
        (gap source target + exchange c d) := by
  rw [gap]

/-! ### As many edits as the gap are enough -/

theorem edits_from_nil (target : List Char) : Edits target.length [] target := by
  induction target with
  | nil => exact .nil []
  | cons c target inductionHypothesis =>
    exact .cons (.insertion [] [] c) (inductionHypothesis.behind c)

theorem edits_to_nil (source : List Char) : Edits source.length source [] := by
  induction source with
  | nil => exact .nil []
  | cons c source inductionHypothesis => exact .cons (.deletion [] source c) inductionHypothesis

/-- Replacing a character, or leaving it, before edits behind it. -/
theorem edits_exchange (c d : Char) (edits : Edits count source target) :
    Edits (count + exchange c d) (c :: source) (d :: target) := by
  by_cases same : c = d
  · subst same
    simpa [exchange] using edits.behind c
  · simp only [exchange, same, if_false]
    exact .cons (.substitution [] source c d) (edits.behind d)

/-- One text can be turned into another by as many edits as the gap between them.  The recursion
that defines the gap tells which edits these are. -/
theorem edits_gap (source target : List Char) : Edits (gap source target) source target := by
  fun_induction gap source target with
  | case1 target => exact edits_from_nil target
  | case2 c source => exact edits_to_nil (c :: source)
  | case3 c source d target deleted inserted exchanged =>
    have deletion : Edits (gap source (d :: target) + 1) (c :: source) (d :: target) :=
      .cons (.deletion [] source c) deleted
    have insertion : Edits (gap (c :: source) target + 1) (c :: source) (d :: target) :=
      .cons (.insertion [] (c :: source) d) (inserted.behind d)
    have substitution := edits_exchange c d exchanged
    have either := min_rec' (Edits · (c :: source) (d :: target)) deletion insertion
    exact min_rec' (Edits · (c :: source) (d :: target)) either substitution

/-! ### Fewer edits are not -/

/-- A further character at the start of the first text takes one more edit at most. -/
theorem gap_cons_le (c : Char) (source target : List Char) :
    gap (c :: source) target ≤ gap source target + 1 := by
  cases target with
  | nil => rw [gap_to_nil, gap_to_nil, List.length_cons]
  | cons d target =>
    rw [gap_cons_cons]
    omega

/-- A further character at the start of the second text takes one more edit at most. -/
theorem gap_to_cons_le (d : Char) (source target : List Char) :
    gap source (d :: target) ≤ gap source target + 1 := by
  cases source with
  | nil => rw [gap_nil, gap_nil, List.length_cons]
  | cons c source =>
    rw [gap_cons_cons]
    omega

/-- Deleting the first character brings a text nearer by one at most. -/
theorem gap_le_gap_cons (c : Char) (source target : List Char) :
    gap source target ≤ gap (c :: source) target + 1 := by
  induction target with
  | nil =>
    rw [gap_to_nil, gap_to_nil, List.length_cons]
    omega
  | cons d target inductionHypothesis =>
    have longer := gap_to_cons_le d source target
    rw [gap_cons_cons]
    omega

/-- Replacing the first character brings a text nearer by one at most. -/
theorem gap_cons_le_gap_cons (c d : Char) (source target : List Char) :
    gap (c :: source) target ≤ gap (d :: source) target + 1 := by
  induction target with
  | nil =>
    rw [gap_to_nil, gap_to_nil, List.length_cons, List.length_cons]
    omega
  | cons e target inductionHypothesis =>
    have removed := gap_cons_le c source (e :: target)
    have longer := gap_to_cons_le e (c :: source) target
    have shorter := gap_cons_le c source target
    have replaced := exchange_le_one c e
    rw [gap_cons_cons c, gap_cons_cons d]
    rw [gap_cons_cons c] at removed longer
    omega

/-- What brings a text nearer by one at most, does so behind another character, too. -/
theorem gap_cons_le_of_forall {between : List Char}
    (near : ∀ target, gap source target ≤ gap between target + 1) (c : Char)
    (target : List Char) : gap (c :: source) target ≤ gap (c :: between) target + 1 := by
  induction target with
  | nil =>
    have lengths := near []
    rw [gap_to_nil, gap_to_nil] at lengths
    rw [gap_to_nil, gap_to_nil, List.length_cons, List.length_cons]
    omega
  | cons d target inductionHypothesis =>
    have kept := near (d :: target)
    have exchanged := near target
    rw [gap_cons_cons, gap_cons_cons]
    omega

/-- What brings a text nearer by one at most, does so behind any characters. -/
theorem gap_append_le_of_forall {between : List Char}
    (near : ∀ target, gap source target ≤ gap between target + 1) (front : List Char)
    (target : List Char) : gap (front ++ source) target ≤ gap (front ++ between) target + 1 := by
  induction front generalizing target with
  | nil => exact near target
  | cons c front inductionHypothesis => exact gap_cons_le_of_forall inductionHypothesis c target

/-- An edit brings a text nearer to any other by one at most.  The recursion looks at first
characters only, so edits further inside are reached behind common ones. -/
theorem gap_le_of_edit {between : List Char} (edit : Edit source between) (target : List Char) :
    gap source target ≤ gap between target + 1 := by
  cases edit with
  | insertion front back c =>
    exact gap_append_le_of_forall (gap_le_gap_cons c back) front target
  | deletion front back c => exact gap_append_le_of_forall (gap_cons_le c back) front target
  | substitution front back c d =>
    exact gap_append_le_of_forall (gap_cons_le_gap_cons c d back) front target

theorem gap_self (text : List Char) : gap text text = 0 := by
  induction text with
  | nil => exact gap_nil []
  | cons c text inductionHypothesis =>
    rw [gap_cons_cons, inductionHypothesis]
    simp [exchange]

/-- No sequence of edits is shorter than the gap.  With the edits that reach it, the gap is the
least number. -/
theorem gap_le_of_edits (edits : Edits count source target) : gap source target ≤ count := by
  induction edits with
  | nil text => exact Nat.le_of_eq (gap_self text)
  | cons first _ inductionHypothesis =>
    exact Nat.le_trans (gap_le_of_edit first _) (Nat.succ_le_succ inductionHypothesis)

/-! ### The table -/

/-- The gaps between a text and a walked one to which more and more characters are added. -/
def gapsAfter (source walked : List Char) : List Char → List Nat
  | [] => []
  | d :: target => gap source (d :: walked) :: gapsAfter source (d :: walked) target

/-- The first row counts the characters of the prefixes. -/
theorem gapsAfter_nil (walked target : List Char) :
    gapsAfter [] walked target = List.range' (walked.length + 1) target.length := by
  induction target generalizing walked with
  | nil => rfl
  | cons d target inductionHypothesis =>
    rw [gapsAfter, gap_nil, inductionHypothesis]
    rfl

/-- A row of gaps is followed by a row of gaps. -/
theorem rowAfter_gapsAfter (c : Char) (source walked target : List Char) :
    rowAfter c (gap source walked) (gap (c :: source) walked) target
        (gapsAfter source walked target) =
      gapsAfter (c :: source) walked target := by
  induction target generalizing walked with
  | nil => rfl
  | cons d target inductionHypothesis =>
    have entry : min (min (gap source (d :: walked) + 1) (gap (c :: source) walked + 1))
        (gap source walked + if c = d then 0 else 1) = gap (c :: source) (d :: walked) :=
      (gap_cons_cons c d source walked).symm
    simp only [gapsAfter, rowAfter, entry, inductionHypothesis]

/-- The table has a column for the empty prefix, which the step fills before all others. -/
theorem nextRow_gaps (c : Char) (source target : List Char) :
    nextRow c target (gap source [] :: gapsAfter source [] target) =
      gap (c :: source) [] :: gapsAfter (c :: source) [] target := by
  have corner : gap source [] + 1 = gap (c :: source) [] := by
    rw [gap_to_nil, gap_to_nil, List.length_cons]
  rw [nextRow, corner, rowAfter_gapsAfter]

/-- From the row of one prefix, the characters behind it lead to the row of the whole text. -/
theorem foldl_nextRow_gaps (source walked target : List Char) :
    source.foldl (fun row c => nextRow c target row)
        (gap walked [] :: gapsAfter walked [] target) =
      gap (source.reverse ++ walked) [] :: gapsAfter (source.reverse ++ walked) [] target := by
  induction source generalizing walked with
  | nil => rfl
  | cons c source inductionHypothesis =>
    rw [List.foldl_cons, nextRow_gaps, inductionHypothesis, List.reverse_cons, List.append_assoc]
    rfl

/-- After all characters, the row holds the gaps to every prefix of the other text.  Rows are all
that is kept of the table at any time. -/
theorem lastRow_eq (source target : List Char) :
    lastRow source target = gap source.reverse [] :: gapsAfter source.reverse [] target := by
  have start : List.range (target.length + 1) = gap [] [] :: gapsAfter [] [] target := by
    rw [gap_nil, gapsAfter_nil, List.range_eq_range']
    rfl
  rw [lastRow, start, foldl_nextRow_gaps, List.append_nil]

/-- The last entry of a row is the gap to the whole text. -/
theorem getLastD_gaps (source walked target : List Char) (other : Nat) :
    (gap source walked :: gapsAfter source walked target).getLastD other =
      gap source (target.reverse ++ walked) := by
  induction target generalizing walked other with
  | nil => rfl
  | cons d target inductionHypothesis =>
    rw [gapsAfter, List.getLastD_cons, inductionHypothesis, List.reverse_cons, List.append_assoc]
    rfl

/-- The last entry of the table is the gap between the two texts read backwards.  The rows take
characters from the left, the recursion from the right. -/
theorem distance_eq_gap (source target : String) :
    distance source target = gap source.toList.reverse target.toList.reverse := by
  rw [distance, lastRow_eq, getLastD_gaps, List.append_nil]

/-- The distance between two texts is the least number of edits that turn one into the other. -/
theorem distance_isLeast (source target : String) :
    IsLeast { count | Edits count source.toList target.toList } (distance source target) := by
  rw [distance_eq_gap]
  constructor
  · have edits := (edits_gap source.toList.reverse target.toList.reverse).reverse
    rwa [List.reverse_reverse, List.reverse_reverse] at edits
  · intro count edits
    exact gap_le_of_edits edits.reverse

end

/-! ## The closest option

The search goes along the options once.  What it keeps is at every moment the answer for the
options behind it: the first of the nearest, or nothing while all of them are too far away.  One
more option changes the answer only if it is nearer than all before it, so ties go to the earlier.
-/

section

/-- Whether an option is near enough to be suggested, nearer than all before it, and at least as
near as all behind it. -/
def IsClosest (target : String) (options : List String) (option : String) : Prop :=
  distance target option ≤ suggestionRadius ∧
    ∃ before after, options = before ++ option :: after ∧
      (∀ earlier ∈ before, distance target option < distance target earlier) ∧
      ∀ later ∈ after, distance target option ≤ distance target later

variable {target : String} {options : List String}

/-- No option is nearer than the closest one. -/
theorem IsClosest.le {option other : String} (closest : IsClosest target options option)
    (member : other ∈ options) : distance target option ≤ distance target other := by
  obtain ⟨_, before, after, rfl, nearer, near⟩ := closest
  rcases List.mem_append.1 member with earlier | later
  · exact Nat.le_of_lt (nearer other earlier)
  · rcases List.mem_cons.1 later with rfl | later
    · exact Nat.le_refl _
    · exact near other later

theorem IsClosest.mem {option : String} (closest : IsClosest target options option) :
    option ∈ options := by
  obtain ⟨_, before, after, rfl, _⟩ := closest
  simp

/-- There is one closest option at most.  Of several that are equally near, the first is meant. -/
theorem IsClosest.unique {option other : String} (closest : IsClosest target options option)
    (otherClosest : IsClosest target options other) : option = other := by
  have least := closest.le otherClosest.mem
  have otherLeast := otherClosest.le closest.mem
  obtain ⟨_, before, after, rfl, nearer, _⟩ := closest
  obtain ⟨_, otherBefore, otherAfter, same, otherNearer, _⟩ := otherClosest
  rcases List.append_eq_append_iff.1 same with ⟨between, rfl, rests⟩ | ⟨between, rfl, rests⟩
  · cases between with
    | nil => exact (List.cons.inj rests).1
    | cons first rest =>
      -- The option would stand before the other one and be nearer than itself.
      obtain ⟨rfl, _⟩ := List.cons.inj rests
      have closer := otherNearer option (by simp)
      omega
  · cases between with
    | nil => exact (List.cons.inj rests).1.symm
    | cons first rest =>
      obtain ⟨rfl, _⟩ := List.cons.inj rests
      have closer := nearer other (by simp)
      omega

/-- What a search has found among the options that it has seen. -/
inductive Found (target : String) (seen : List String) : Option (String × Nat) → Prop
  | nothing (far : ∀ option ∈ seen, suggestionRadius < distance target option) :
      Found target seen none
  | closest {option : String} (closest : IsClosest target seen option) :
      Found target seen (some (option, distance target option))

/-- What has been found is right for one more option as well.  This is the step of the search. -/
theorem Found.closer {seen : List String} {best : Option (String × Nat)}
    (found : Found target seen best) (option : String) :
    Found target (seen ++ [option]) (closer target best option) := by
  cases found with
  | nothing far =>
    -- Nothing was near enough so far, so the option is taken as soon as it is.
    by_cases near : distance target option ≤ suggestionRadius
    · have taken : Text.closer target none option = some (option, distance target option) := by
        simp only [Text.closer, near, if_true]
      rw [taken]
      refine .closest ⟨near, seen, [], rfl, ?_, ?_⟩
      · intro earlier member
        exact Nat.lt_of_le_of_lt near (far earlier member)
      · intro later member
        cases member
    · have passed : Text.closer target none option = none := by
        simp only [Text.closer, near, if_false]
      rw [passed]
      refine .nothing ?_
      intro other member
      rcases List.mem_append.1 member with earlier | last
      · exact far other earlier
      · obtain rfl := List.mem_singleton.1 last
        exact Nat.lt_of_not_le near
  | @closest kept closest =>
    -- Only a nearer option displaces the one that is kept; equally near ones come too late.
    by_cases nearer : distance target option < distance target kept
    · have taken : Text.closer target (some (kept, distance target kept)) option =
          some (option, distance target option) := by
        simp only [Text.closer, nearer, if_true]
      rw [taken]
      refine .closest ⟨Nat.le_trans (Nat.le_of_lt nearer) closest.1, seen, [], rfl, ?_, ?_⟩
      · intro earlier member
        exact Nat.lt_of_lt_of_le nearer (closest.le member)
      · intro later member
        cases member
    · have passed : Text.closer target (some (kept, distance target kept)) option =
          some (kept, distance target kept) := by
        simp only [Text.closer, nearer, if_false]
      rw [passed]
      obtain ⟨near, before, after, rfl, first, least⟩ := closest
      refine .closest ⟨near, before, after ++ [option], by simp, first, ?_⟩
      intro later member
      rcases List.mem_append.1 member with seen | last
      · exact least later seen
      · obtain rfl := List.mem_singleton.1 last
        exact Nat.le_of_not_lt nearer

/-- What is found at the end is right for all options.  Nothing is found exactly if all are too far
away. -/
theorem found_foldl (target : String) (options : List String) :
    Found target options (options.foldl (closer target) none) := by
  induction options using List.reverseRecOn with
  | nil =>
    refine .nothing ?_
    intro option member
    cases member
  | append_singleton seen option inductionHypothesis =>
    rw [List.foldl_append]
    exact inductionHypothesis.closer option

/-- Suggestions are truly closest.  Distances are least numbers of edits; nothing is suggested
exactly if every option is more than three edits away, and an option is suggested exactly if it is
the first of those with the fewest edits. -/
theorem suggestion_closest (target : String) (options : List String) :
    (∀ source other : String,
      IsLeast { count | Edits count source.toList other.toList } (distance source other)) ∧
    (closest? target options = none ↔ ∀ option ∈ options, 3 < distance target option) ∧
    ∀ option, closest? target options = some option ↔ IsClosest target options option := by
  -- The search finds the first of the nearest options, and there is one such option at most.
  refine ⟨distance_isLeast, ?_⟩
  have found := found_foldl target options
  unfold closest?
  cases result : options.foldl (closer target) none with
  | none =>
    rw [result] at found
    cases found with
    | nothing far =>
      refine ⟨iff_of_true rfl far, fun option => iff_of_false nofun ?_⟩
      intro closest
      exact absurd closest.1 (Nat.not_le_of_lt (far option closest.mem))
  | some best =>
    rw [result] at found
    cases found with
    | @closest kept closest =>
      refine ⟨iff_of_false nofun ?_, fun option => ?_⟩
      · intro far
        exact absurd closest.1 (Nat.not_le_of_lt (far kept closest.mem))
      · constructor
        · intro same
          obtain rfl := Option.some.inj same
          exact closest
        · intro other
          exact congrArg some (closest.unique other)

/-- Of two options that are equally far away, the earlier is suggested. -/
example : closest? "TABEL" ["CABLE", "LABELS", "TABLE"] = some "LABELS" := by decide

end

end Pushdown.Text
