/-
Module: Pushdown.Proofs.Json.Record
Purpose: How deeply documents are nested, and what records are read from them.
Main exports: Json.nesting, Json.Integral, Json.Integral.readIfShallow,
  Json.Fields.lookupAll?_zip, Json.WrittenAs, Json.WrittenAs.ofWritten?_read?, Json.read?_record
-/
import Mathlib.Data.List.Nodup
import Pushdown.Proofs.Decimal
import Pushdown.Proofs.Json.ReadBack

namespace Pushdown.Json

/-! ## Nesting

The written form of a value denotes the value again: its strings have no halves of surrogate pairs,
and its numbers are whole and fit sixty-four bits.  What is left is the limit to nesting, and it is
met exactly.
-/

mutual

/-- How deeply arrays and objects nest in a value. -/
def nesting : Json → Nat
  | .array elements => elementsNesting elements + 1
  | .object members => membersNesting members + 1
  | _ => 0

/-- How deeply arrays and objects nest in the elements of an array. -/
def elementsNesting : List Json → Nat
  | [] => 0
  | element :: rest => max element.nesting (elementsNesting rest)

/-- How deeply arrays and objects nest in the members of an object. -/
def membersNesting : List (String × Json) → Nat
  | [] => 0
  | (_, value) :: rest => max value.nesting (membersNesting rest)

end

theorem membersNesting_le_iff {members : List (String × Json)} {depth : Nat} :
    membersNesting members ≤ depth ↔ ∀ member ∈ members, member.2.nesting ≤ depth := by
  induction members with
  | nil => exact iff_of_true (Nat.zero_le _) nofun
  | cons first rest inductionHypothesis =>
    rw [membersNesting, Nat.max_le, inductionHypothesis, List.forall_mem_cons]

/-- Whether every number of a value is whole and fits sixty-four bits, signed or unsigned. -/
inductive Integral : Json → Prop
  | null : Integral .null
  | bool (value : Bool) : Integral (.bool value)
  | number {value : Int}
      (within : -0x8000000000000000 ≤ value ∧ value ≤ 0xFFFFFFFFFFFFFFFF) :
      Integral (.number (.whole value))
  | text (value : String) : Integral (.text value)
  | array {elements : List Json} (each : ∀ element ∈ elements, Integral element) :
      Integral (.array elements)
  | object {members : List (String × Json)} (each : ∀ member ∈ members, Integral member.2) :
      Integral (.object members)

/-- A whole number of sixty-four bits is read as itself.  Beyond them a number is read as a
double. -/
theorem value?_ofInt {value : Int}
    (within : -0x8000000000000000 ≤ value ∧ value ≤ 0xFFFFFFFFFFFFFFFF) :
    (Numeral.ofInt value).value? = some (.whole value) := by
  have magnitude : Numeral.digitsValue (Numeral.ofInt value).whole = value.natAbs :=
    Text.digitsValue_toDigits value.natAbs
  have noPart : ((Numeral.ofInt value).hasFraction || (Numeral.ofInt value).exponent.isSome) =
      false := rfl
  rw [Numeral.value?, noPart, magnitude, Numeral.greatestSignificand]
  have sign : (Numeral.ofInt value).negative = decide (value < 0) := rfl
  rw [sign]
  by_cases negative : value < 0
  · have opposite : -(value.natAbs : Int) = value := by omega
    rw [decide_eq_true negative, if_neg Bool.false_ne_true]
    dsimp only
    rw [if_pos rfl, if_pos, opposite]
    simp only [Bool.and_eq_true, decide_eq_true_eq]
    omega
  · have same : (value.natAbs : Int) = value := by omega
    rw [decide_eq_false negative, if_neg Bool.false_ne_true]
    dsimp only
    rw [if_neg Bool.false_ne_true, if_pos, same]
    omega

/-- Whether a value is read back from its written form by every reader that lets it nest deeply
enough. -/
def ReadIfShallow (value : Json) : Prop :=
  ∃ form, value.written? = some form ∧
    ∀ depth, form.value? depth = if value.nesting ≤ depth then some value else none

/-- Elements are read within a depth exactly if they nest no more deeply.  The reader counts
downwards and stops at zero, so the two counts meet. -/
theorem exists_writtenElements {elements : List Json}
    (each : ∀ element ∈ elements, ReadIfShallow element) :
    ∃ forms, writtenElements? elements = some forms ∧ ∀ depth,
      Written.elementValues? depth forms =
        if elementsNesting elements ≤ depth then some elements else none := by
  induction elements with
  | nil => exact ⟨[], rfl, fun depth => by simp [Written.elementValues?, elementsNesting]⟩
  | cons first rest inductionHypothesis =>
    obtain ⟨⟨form, written, value⟩, eachRest⟩ := List.forall_mem_cons.1 each
    obtain ⟨forms, writtenRest, values⟩ := inductionHypothesis eachRest
    refine ⟨form :: forms, ?_, fun depth => ?_⟩
    · rw [writtenElements?, written, writtenRest]
    · rw [Written.elementValues?, value, values]
      by_cases shallow : first.nesting ≤ depth <;>
        by_cases shallowRest : elementsNesting rest ≤ depth <;>
        simp [shallow, shallowRest, elementsNesting]

/-- Members are read within a depth exactly if their values nest no more deeply. -/
theorem exists_writtenMembers {members : List (String × Json)}
    (each : ∀ member ∈ members, ReadIfShallow member.2) :
    ∃ forms, writtenMembers? members = some forms ∧ ∀ depth,
      Written.memberValues? depth forms =
        if membersNesting members ≤ depth then some members else none := by
  induction members with
  | nil => exact ⟨[], rfl, fun depth => by simp [Written.memberValues?, membersNesting]⟩
  | cons first rest inductionHypothesis =>
    obtain ⟨key, value⟩ := first
    obtain ⟨⟨form, written, read⟩, eachRest⟩ := List.forall_mem_cons.1 each
    obtain ⟨forms, writtenRest, values⟩ := inductionHypothesis eachRest
    refine ⟨(spelled key, form) :: forms, ?_, fun depth => ?_⟩
    · rw [writtenMembers?, written, writtenRest]
    · rw [Written.memberValues?, textValue?_spelled, read, values]
      by_cases shallow : value.nesting ≤ depth <;>
        by_cases shallowRest : membersNesting rest ≤ depth <;>
        simp [shallow, shallowRest, membersNesting]

/-- A value is read back from its written form if it does not nest more deeply than the reader
lets it. -/
theorem Integral.readIfShallow {value : Json} (integral : value.Integral) :
    value.ReadIfShallow := by
  induction integral with
  | null => exact ⟨_, rfl, fun depth => by simp [Written.value?, nesting]⟩
  | bool value => exact ⟨_, rfl, fun depth => by simp [Written.value?, nesting]⟩
  | number within =>
    exact ⟨_, rfl, fun depth => by simp [Written.value?, nesting, value?_ofInt within]⟩
  | text value => exact ⟨_, rfl, fun depth => by simp [Written.value?, nesting]⟩
  | array each inductionHypothesis =>
    obtain ⟨forms, written, values⟩ := exists_writtenElements inductionHypothesis
    refine ⟨.array forms, by rw [written?, written]; rfl, fun depth => ?_⟩
    cases depth with
    | zero => simp [Written.value?, nesting]
    | succ depth =>
      simp only [Written.value?, values, nesting, Nat.add_le_add_iff_right]
      split <;> rfl
  | object each inductionHypothesis =>
    obtain ⟨forms, written, values⟩ := exists_writtenMembers inductionHypothesis
    refine ⟨.object forms, by rw [written?, written]; rfl, fun depth => ?_⟩
    cases depth with
    | zero => simp [Written.value?, nesting]
    | succ depth =>
      simp only [Written.value?, values, nesting, Nat.add_le_add_iff_right]
      split <;> rfl

/-! ## Records

A record is written as an object with a member for each of its fields.  Its names differ, so each
of them finds the member that was written for it and no other.
-/

section

variable {α : Type}

/-- Named values are written under their spelled names. -/
theorem writtenMembers?_zip {values : List Json} {forms : List Written}
    (each : values.map written? = forms.map some) (names : List String) :
    writtenMembers? (names.zip values) = some ((names.map spelled).zip forms) := by
  induction names generalizing values forms with
  | nil => rfl
  | cons name names inductionHypothesis =>
    cases values with
    | nil =>
      obtain rfl : forms = [] := by simpa using each.symm
      rfl
    | cons value values =>
      cases forms with
      | nil => cases each
      | cons form forms =>
        rw [List.map_cons, List.map_cons, List.cons.injEq] at each
        rw [List.zip_cons_cons, writtenMembers?, each.1, inductionHypothesis each.2]
        rfl

namespace Fields

/-- Spelled names are decoded again. -/
theorem decodeKeys?_spelled (names : List String) (forms : List Written) :
    decodeKeys? ((names.map spelled).zip forms) = some (names.zip forms) := by
  induction names generalizing forms with
  | nil => rfl
  | cons name names inductionHypothesis =>
    cases forms with
    | nil => rfl
    | cons form forms =>
      rw [List.map_cons, List.zip_cons_cons, decodeKeys?, textValue?_spelled,
        inductionHypothesis]
      rfl

/-- Of members with different names, that with a name is the only one given for it.  A name that is
given twice is refused by the reader of records. -/
theorem lookup?_middle {before after : List (String × α)} {name : String}
    (notBefore : name ∉ before.map Prod.fst) (notAfter : name ∉ after.map Prod.fst) (value : α) :
    lookup? (before ++ (name, value) :: after) name = some (some value) := by
  have passed {members : List (String × α)} (absent : name ∉ members.map Prod.fst) :
      (members.filter fun member => member.1 == name) = [] := by
    rw [List.filter_eq_nil_iff]
    intro member within same
    exact absent (beq_iff_eq.1 same ▸ List.mem_map_of_mem within)
  have found : ((before ++ (name, value) :: after).filter fun member => member.1 == name) =
      [(name, value)] := by
    rw [List.filter_append, List.filter_cons, passed notBefore, passed notAfter]
    simp
  rw [lookup?, found]

/-- Every named value is found under its name, whatever other members stand before. -/
theorem lookupAll?_append_zip (before : List (String × α)) {names : List String}
    (distinct : names.Nodup) (apart : ∀ name ∈ names, name ∉ before.map Prod.fst)
    {values : List α} (complete : values.length = names.length) :
    lookupAll? (before ++ names.zip values) names = some (values.map some) := by
  induction names generalizing before values with
  | nil =>
    obtain rfl := List.eq_nil_of_length_eq_zero complete
    rfl
  | cons name names inductionHypothesis =>
    cases values with
    | nil => cases complete
    | cons value values =>
      obtain ⟨fresh, distinct⟩ := List.nodup_cons.1 distinct
      obtain ⟨apartFirst, apartOther⟩ := List.forall_mem_cons.1 apart
      have later : name ∉ (names.zip values).map Prod.fst := by
        rw [List.map_fst_zip (Nat.le_of_eq (Nat.succ.inj complete).symm)]
        exact fresh
      -- The member just found stands before the members of the names that are left.
      have others := inductionHypothesis (before ++ [(name, value)]) distinct
        (fun other member within => by
          rw [List.map_append, List.mem_append] at within
          rcases within with old | new
          · exact apartOther other member old
          · rw [List.mem_singleton.1 new] at member
            exact fresh member)
        (Nat.succ.inj complete)
      rw [List.append_assoc, List.singleton_append] at others
      rw [List.zip_cons_cons, lookupAll?, lookup?_middle apartFirst later, others]
      rfl

/-- Each of the names of a record finds what is given for it, if the names are different from each
other. -/
theorem lookupAll?_zip {names : List String} (distinct : names.Nodup) {values : List α}
    (complete : values.length = names.length) :
    lookupAll? (names.zip values) names = some (values.map some) :=
  lookupAll?_append_zip [] distinct (fun _ _ => List.not_mem_nil) complete

end Fields

/-- Whether members were written under their names. -/
def WrittenAs (members : List (String × Json)) (forms : List (String × Written)) : Prop :=
  List.Forall₂ (fun member form => member.1 = form.1 ∧ member.2.written? = some form.2)
    members forms

/-- The members of an object are read back under their names, as long as each of their values is. -/
theorem WrittenAs.ofWritten?_read? {members : List (String × Json)}
    {forms : List (String × Written)} (writtenAs : WrittenAs members forms) :
    (Written.read? (object members).compact).bind Fields.ofWritten? = some (.named forms) := by
  have written : writtenMembers? members = some (forms.map (Prod.map spelled id)) := by
    induction writtenAs with
    | nil => rfl
    | @cons member form members forms first _ inductionHypothesis =>
      obtain ⟨key, value⟩ := member
      obtain ⟨rfl, writtenFirst⟩ := first
      rw [writtenMembers?, writtenFirst, inductionHypothesis]
      rfl
  have decoded : Fields.decodeKeys? (forms.map (Prod.map spelled id)) = some forms := by
    clear writtenAs written
    induction forms with
    | nil => rfl
    | cons form forms inductionHypothesis =>
      rw [List.map_cons, Prod.map, Fields.decodeKeys?, textValue?_spelled, inductionHypothesis]
      rfl
  have writtenObject : (object members).written? =
      some (.object (forms.map (Prod.map spelled id))) := by
    rw [written?, written]
    rfl
  rw [read?_compact writtenObject, Option.bind_some, Fields.ofWritten?, decoded]
  rfl

/-- A record with different names is read back from its text: each of its names finds the value that
was written under it. -/
theorem read?_record {names : List String} (distinct : names.Nodup) (values : List Json)
    (forms : List Written) (each : values.map written? = forms.map some)
    (complete : forms.length = names.length) :
    ∃ document fields, Written.read? (object (names.zip values)).compact = some document ∧
      Fields.ofWritten? document = some fields ∧ fields.take? names = some (forms.map some) := by
  refine ⟨.object ((names.map spelled).zip forms), .named (names.zip forms), ?_, ?_, ?_⟩
  · apply read?_compact
    rw [written?, writtenMembers?_zip each]
    rfl
  · rw [Fields.ofWritten?, Fields.decodeKeys?_spelled]
    rfl
  · exact Fields.lookupAll?_zip distinct complete

end

end Pushdown.Json
