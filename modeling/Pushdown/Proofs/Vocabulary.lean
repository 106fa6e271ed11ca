/-
Module: Pushdown.Proofs.Vocabulary
Purpose: Names of functions and capabilities are read back as the members that carry them.
Main exports: Vocabulary.Lawful, Vocabulary.name_injective, Vocabulary.ofName?_eq_some_iff,
  ScalarFunction.mem_all, Capability.name, Capability.ofName?_eq_some_iff, Capabilities.contains,
  Capabilities.members
-/
import Mathlib.Data.List.Nodup
import Pushdown.Capability
import Pushdown.Vocabulary

namespace Pushdown

/-! ## Vocabularies

A name is looked for along the list of a vocabulary.  It is found if the list is complete, and it
leads to one member only if no name stands twice.
-/

namespace Vocabulary

variable {α : Type} [Vocabulary α]

/-- A vocabulary that lists every member, and in which no name stands twice. -/
class Lawful (α : Type) [Vocabulary α] : Prop where
  mem_all (member : α) : member ∈ all (α := α)
  distinct : (names α).Nodup

theorem name_of_ofName? {text : String} {member : α} (found : ofName? text = some member) :
    name member = text := by
  have same := List.find?_some found
  exact beq_iff_eq.1 same

variable [Lawful α]

theorem nodup_all : (all (α := α)).Nodup := List.Nodup.of_map name Lawful.distinct

/-- Members with one name are equal.  The names of a lawful vocabulary are a list without
repetitions, and this is what that comes to. -/
theorem name_injective : Function.Injective (name (α := α)) := by
  intro member other same
  exact List.inj_on_of_nodup_map Lawful.distinct (Lawful.mem_all member) (Lawful.mem_all other) same

/-- Names are read back, and nothing else is: a text finds a member exactly if it is its name. -/
theorem ofName?_eq_some_iff {text : String} {member : α} :
    ofName? text = some member ↔ name member = text := by
  constructor
  · exact name_of_ofName?
  · rintro rfl
    cases found : ofName? (α := α) (name member) with
    | none =>
      have unlike := List.find?_eq_none.1 found member (Lawful.mem_all member)
      exact absurd (beq_self_eq_true (name member)) unlike
    | some other => rw [name_injective (name_of_ofName? found)]

@[simp] theorem ofName?_name (member : α) : ofName? (name member) = some member :=
  ofName?_eq_some_iff.2 rfl

end Vocabulary

/-! ### Functions -/

/-- The list of scalar functions is complete.  What is checked for every member of it is thereby
true of every function. -/
theorem ScalarFunction.mem_all (function : ScalarFunction) : function ∈ all := by
  cases function <;> decide +kernel

/-- The list of aggregate functions is complete. -/
theorem AggregateFunction.mem_all (function : AggregateFunction) : function ∈ all := by
  cases function <;> decide +kernel

instance : Vocabulary.Lawful ScalarFunction where
  mem_all := ScalarFunction.mem_all
  distinct := by decide +kernel

/-! ## Capabilities

The five families of capabilities are taken together here: all capabilities form one vocabulary,
whose names carry the prefixes of their families, and a set of capabilities is known by which of
them it contains.  Its names are those of its members in the order of that vocabulary, so taking
away members and taking away their names come to the same.
-/

/-! ### The families -/

instance : Vocabulary.Lawful MainCapability where
  mem_all member := by cases member <;> decide
  distinct := by decide +kernel

instance : Vocabulary.Lawful LiteralCapability where
  mem_all member := by cases member <;> decide
  distinct := by decide +kernel

instance : Vocabulary.Lawful PredicateCapability where
  mem_all member := by cases member <;> decide
  distinct := by decide +kernel

instance : Vocabulary.Lawful AggregateCapability where
  mem_all member := by cases member <;> decide +kernel
  distinct := by decide +kernel

/-! ### Single capabilities -/

namespace Capability

/-- Every capability, family by family. -/
def all : List Capability :=
  MainCapability.all.map main ++ LiteralCapability.all.map literal ++
    PredicateCapability.all.map predicate ++ ScalarFunction.all.map scalar ++
    AggregateCapability.all.map aggregate

/-- The name of a capability, with the prefix of its family. -/
def name : Capability → String
  | main member => member.name
  | literal member => Capabilities.literalPrefix ++ member.name
  | predicate member => Capabilities.predicatePrefix ++ member.name
  | scalar member => Capabilities.scalarPrefix ++ member.name
  | aggregate member => Capabilities.aggregatePrefix ++ member.name

/-! A prefix is taken off exactly where a text starts with it. -/

/-- A prefix is cut off again. -/
theorem afterPrefix?_append (start rest : String) :
    afterPrefix? start (start ++ rest) = some rest := by
  have begins : start.toList.isPrefixOf (start ++ rest).toList := by
    rw [List.isPrefixOf_iff_prefix, String.toList_append]
    exact List.prefix_append _ _
  rw [afterPrefix?, if_pos begins, String.toList_append, List.drop_left, String.ofList_toList]

/-- What remains after cutting and the prefix make the text again. -/
theorem eq_append_of_afterPrefix? {start text rest : String}
    (found : afterPrefix? start text = some rest) : start ++ rest = text := by
  unfold afterPrefix? at found
  split at found
  next begins =>
    obtain ⟨after, same⟩ := List.isPrefixOf_iff_prefix.1 begins
    rw [← same, List.drop_left] at found
    cases found
    rw [← String.toList_inj, String.toList_append, String.toList_ofList, same]
  next => cases found

/-- Nothing is cut off exactly from the texts that do not start with the prefix. -/
theorem afterPrefix?_eq_none_iff {start text : String} :
    afterPrefix? start text = none ↔ ¬ start.toList <+: text.toList := by
  unfold afterPrefix?
  rw [← List.isPrefixOf_iff_prefix]
  split
  next begins => exact iff_of_false nofun (not_not_intro begins)
  next unlike => exact iff_of_true rfl unlike

/-- Texts that start with different prefixes do not start alike.  Families of capabilities are told
apart by this. -/
theorem afterPrefix?_of_apart {start other : String}
    (apart : ¬ start.toList <+: other.toList ∧ ¬ other.toList <+: start.toList) (rest : String) :
    afterPrefix? start (other ++ rest) = none := by
  rw [afterPrefix?_eq_none_iff, String.toList_append]
  intro begins
  rcases List.prefix_or_prefix_of_prefix begins (List.prefix_append _ rest.toList) with
    shorter | longer
  · exact apart.1 shorter
  · exact apart.2 longer

/-- A text that goes on otherwise after the start of a prefix does not start with the prefix. -/
theorem afterPrefix?_of_longer (start : String) {more rest : String}
    (otherwise : ¬ more.toList <+: rest.toList) :
    afterPrefix? (start ++ more) (start ++ rest) = none := by
  rw [afterPrefix?_eq_none_iff, String.toList_append, String.toList_append,
    List.prefix_append_right_inj]
  exact otherwise

/-! Where the prefixes alone do not keep families apart, the names do. -/

/-- No main capability starts like those of another family.  These names have no prefix of their
own, so each of them has to be looked at. -/
theorem main_unprefixed : ∀ member ∈ MainCapability.all,
    ∀ start ∈ [Capabilities.literalPrefix, Capabilities.aggregatePrefix,
      Capabilities.predicatePrefix, Capabilities.scalarPrefix],
    afterPrefix? start member.name = none := by
  decide +kernel

/-- No scalar function has a name that starts like a shorter family prefix, so `FN_` is enough to
tell. -/
theorem scalar_unprefixed : ∀ member ∈ ScalarFunction.all,
    ¬ "AGG_".toList <+: member.name.toList ∧ ¬ "PRED_".toList <+: member.name.toList := by
  decide +kernel

/-- Every capability is found again by its name, although the names of the five families share one
space. -/
theorem ofName?_name (capability : Capability) : ofName? capability.name = some capability := by
  cases capability with
  -- Families are tried in a fixed order, so each case has to show that those before it do not
  -- match.
  | main member =>
    have read : Vocabulary.ofName? member.name = some member := Vocabulary.ofName?_name member
    have unprefixed := main_unprefixed member (Vocabulary.Lawful.mem_all member)
    simp only [List.forall_mem_cons] at unprefixed
    simp only [name, ofName?, unprefixed, read, Option.map_some]
  | literal member =>
    have read : Vocabulary.ofName? member.name = some member := Vocabulary.ofName?_name member
    simp only [name, ofName?, afterPrefix?_append, read, Option.map_some]
  | predicate member =>
    have read : Vocabulary.ofName? member.name = some member := Vocabulary.ofName?_name member
    have noLiteral : afterPrefix? Capabilities.literalPrefix
        (Capabilities.predicatePrefix ++ member.name) = none :=
      afterPrefix?_of_apart (by decide) member.name
    have noAggregate : afterPrefix? Capabilities.aggregatePrefix
        (Capabilities.predicatePrefix ++ member.name) = none :=
      afterPrefix?_of_apart (by decide) member.name
    simp only [name, ofName?, noLiteral, noAggregate, afterPrefix?_append, read, Option.map_some]
  | scalar member =>
    have read : Vocabulary.ofName? member.name = some member := Vocabulary.ofName?_name member
    have noLiteral : afterPrefix? Capabilities.literalPrefix
        (Capabilities.scalarPrefix ++ member.name) = none :=
      afterPrefix?_of_apart (by decide) member.name
    obtain ⟨unlikeAggregate, unlikePredicate⟩ :=
      scalar_unprefixed member (Vocabulary.Lawful.mem_all member)
    have noAggregate := afterPrefix?_of_longer Capabilities.scalarPrefix unlikeAggregate
    have noPredicate := afterPrefix?_of_longer Capabilities.scalarPrefix unlikePredicate
    change afterPrefix? Capabilities.aggregatePrefix _ = none at noAggregate
    change afterPrefix? Capabilities.predicatePrefix _ = none at noPredicate
    simp only [name, ofName?, noLiteral, noAggregate, noPredicate, afterPrefix?_append, read,
      Option.map_some]
  | aggregate member =>
    have read : Vocabulary.ofName? member.name = some member := Vocabulary.ofName?_name member
    have noLiteral : afterPrefix? Capabilities.literalPrefix
        (Capabilities.aggregatePrefix ++ member.name) = none :=
      afterPrefix?_of_apart (by decide) member.name
    simp only [name, ofName?, noLiteral, afterPrefix?_append, read, Option.map_some]

/-- What is read behind a prefix has the prefix in its name. -/
theorem name_of_afterPrefix? {α : Type} [Vocabulary α] {family : α → Capability}
    {start text rest : String} {capability : Capability}
    (named : ∀ member, (family member).name = start ++ Vocabulary.name member)
    (after : afterPrefix? start text = some rest)
    (read : (Vocabulary.ofName? rest).map family = some capability) : capability.name = text := by
  obtain ⟨member, found, rfl⟩ := Option.map_eq_some_iff.1 read
  rw [named, Vocabulary.name_of_ofName? found, eq_append_of_afterPrefix? after]

/-- A text is read as the capability that has it for its name.  The family is found by the prefix,
and no prefix begins like another that is tried before. -/
theorem ofName?_eq_some_iff {text : String} {capability : Capability} :
    ofName? text = some capability ↔ capability.name = text := by
  constructor
  · intro read
    unfold ofName? at read
    split at read
    next after => exact name_of_afterPrefix? (fun _ => rfl) after read
    next =>
      split at read
      next after => exact name_of_afterPrefix? (fun _ => rfl) after read
      next =>
        split at read
        next after => exact name_of_afterPrefix? (fun _ => rfl) after read
        next =>
          split at read
          next after => exact name_of_afterPrefix? (fun _ => rfl) after read
          next =>
            obtain ⟨member, found, rfl⟩ := Option.map_eq_some_iff.1 read
            exact Vocabulary.name_of_ofName? found
  · rintro rfl
    exact ofName?_name capability

instance : Vocabulary Capability := ⟨all, name⟩

/-- No two capabilities share a name, not even in different families.  A listed name stands for one
capability. -/
theorem name_injective : Function.Injective name := by
  intro capability other same
  have read := ofName?_name capability
  rw [same, ofName?_name] at read
  exact (Option.some.inj read).symm

/-- The list of capabilities is complete, since those of its five families are. -/
theorem mem_all (capability : Capability) : capability ∈ all := by
  cases capability with
  | main member =>
    have listed : member ∈ MainCapability.all := Vocabulary.Lawful.mem_all member
    simp [all, listed]
  | literal member =>
    have listed : member ∈ LiteralCapability.all := Vocabulary.Lawful.mem_all member
    simp [all, listed]
  | predicate member =>
    have listed : member ∈ PredicateCapability.all := Vocabulary.Lawful.mem_all member
    simp [all, listed]
  | scalar member =>
    have listed : member ∈ ScalarFunction.all := Vocabulary.Lawful.mem_all member
    simp [all, listed]
  | aggregate member =>
    have listed : member ∈ AggregateCapability.all := Vocabulary.Lawful.mem_all member
    simp [all, listed]

theorem nodup_all : all.Nodup := by
  have mains := (Vocabulary.nodup_all (α := MainCapability)).map fun _ _ => main.inj
  have literals := (Vocabulary.nodup_all (α := LiteralCapability)).map fun _ _ => literal.inj
  have predicates := (Vocabulary.nodup_all (α := PredicateCapability)).map fun _ _ => predicate.inj
  have scalars := (Vocabulary.nodup_all (α := ScalarFunction)).map fun _ _ => scalar.inj
  have aggregates := (Vocabulary.nodup_all (α := AggregateCapability)).map fun _ _ => aggregate.inj
  -- Members of different families are different, so each family can be added to those before it.
  refine (((mains.append literals ?_).append predicates ?_).append scalars ?_).append aggregates ?_
  all_goals
    intro capability member other
    simp only [List.mem_append, List.mem_map] at member other
    obtain ⟨_, -, rfl⟩ := other
    simp at member

instance : Vocabulary.Lawful Capability where
  mem_all := mem_all
  distinct := nodup_all.map name_injective

end Capability

/-! ### Sets of capabilities -/

namespace Capabilities

/-- Whether a capability is a member. -/
def contains (set : Capabilities) : Capability → Bool
  | .main member => set.main member
  | .literal member => set.literals member
  | .predicate member => set.predicates member
  | .scalar member => set.scalars member
  | .aggregate member => set.aggregates member

/-- A set is known by its members. -/
theorem eq_of_contains {set other : Capabilities}
    (same : ∀ capability, set.contains capability = other.contains capability) : set = other := by
  obtain ⟨main, literals, predicates, scalars, aggregates⟩ := set
  obtain rfl : main = other.main := funext fun member => same (.main member)
  obtain rfl : literals = other.literals := funext fun member => same (.literal member)
  obtain rfl : predicates = other.predicates := funext fun member => same (.predicate member)
  obtain rfl : scalars = other.scalars := funext fun member => same (.scalar member)
  obtain rfl : aggregates = other.aggregates := funext fun member => same (.aggregate member)
  rfl

@[simp] theorem contains_empty (capability : Capability) : empty.contains capability = false := by
  cases capability <;> rfl

@[simp] theorem contains_all (capability : Capability) : all.contains capability = true := by
  cases capability <;> rfl

@[simp] theorem contains_subtract (set excluded : Capabilities) (capability : Capability) :
    (set.subtract excluded).contains capability =
      (set.contains capability && !excluded.contains capability) := by
  cases capability <;> rfl

@[simp] theorem contains_insert (set : Capabilities) (member capability : Capability) :
    (set.insert member).contains capability =
      (capability == member || set.contains capability) := by
  cases member <;> cases capability <;> simp [insert, contains, BEq.beq]

/-- The members of a set, family by family. -/
def members (set : Capabilities) : List Capability := Capability.all.filter set.contains

theorem mem_members {set : Capabilities} {capability : Capability} :
    capability ∈ set.members ↔ set.contains capability := by
  simp [members, Capability.mem_all]

/-- The names of a set are those of its members, in order. -/
theorem names_eq (set : Capabilities) : set.names = set.members.map Capability.name := by
  simp only [names, mainNames, literalNames, predicateNames, scalarNames, aggregateNames, members,
    Capability.all, List.filter_append, List.map_append, List.filter_map, List.map_map]
  rfl

theorem size_eq (set : Capabilities) : set.size = set.members.length := by
  simp only [size, members, Capability.all, List.filter_append, List.length_append,
    List.filter_map, List.length_map, List.countP_eq_length_filter]
  rfl

theorem length_names (set : Capabilities) : set.names.length = set.size := by
  rw [names_eq, List.length_map, size_eq]

theorem nodup_names (set : Capabilities) : set.names.Nodup := by
  rw [names_eq]
  exact (Capability.nodup_all.filter _).map Capability.name_injective

theorem mem_names_iff {set : Capabilities} {text : String} :
    text ∈ set.names ↔ ∃ capability, set.contains capability ∧ capability.name = text := by
  simp only [names_eq, List.mem_map, mem_members]

/-- The name of a capability is listed exactly if the set contains it: no other capability has that
name. -/
theorem name_mem_names_iff {set : Capabilities} {capability : Capability} :
    capability.name ∈ set.names ↔ set.contains capability := by
  rw [names_eq, List.mem_map_of_injective Capability.name_injective, mem_members]

/-- Taking members away takes away their names and leaves the others in order.  The order is that of
all capabilities, whatever was taken away before. -/
theorem names_subtract (set excluded : Capabilities) :
    (set.subtract excluded).names = set.names.filter fun name => name ∉ excluded.names := by
  rw [names_eq, names_eq set, List.filter_map, members, members, List.filter_filter]
  congr 1
  apply List.filter_congr
  intro capability _
  simp [name_mem_names_iff, Bool.and_comm]

end Capabilities

end Pushdown
