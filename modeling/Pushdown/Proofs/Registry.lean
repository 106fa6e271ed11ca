/-
Module: Pushdown.Proofs.Registry
Purpose: After any steps a registry holds what was registered last under each name.
Main exports: Registry.ofDescriptors, Registry.WellKeyed, Registry.WellKeyed.describe?_name,
  Registry.create_builtin_congr, Registry.Step, Registry.run, Registry.LastRegistered,
  Registry.describe?_run_iff
-/
import Mathlib.Data.List.Induction
import Pushdown.Adapter
import Pushdown.Proofs.Dictionary
import Pushdown.Registry

namespace Pushdown.Registry

/-! ## Keys

Dialects are stored under the upper-case forms of their names, and names are looked up by their
upper-case forms.  So the name under which a dialect was found and its own name lead to the same
entry.
-/

section

/-- The registry in which dialects were registered one after the other. -/
def ofDescriptors (descriptors : List Descriptor) : Registry :=
  descriptors.foldl register empty

/-- Whether every dialect is stored under the upper-case form of its name. -/
def WellKeyed (registry : Registry) : Prop :=
  ∀ entry ∈ registry.dialects.entries, entry.1 = Text.toUpper entry.2.name

theorem wellKeyed_empty : empty.WellKeyed := by
  intro entry member
  cases member

variable {registry : Registry}

/-- Registration keeps every descriptor under the upper-case form of its name.  This is the step
behind the invariant, and it holds whether or not the name was taken. -/
theorem WellKeyed.register (wellKeyed : registry.WellKeyed) (descriptor : Descriptor) :
    (registry.register descriptor).WellKeyed := by
  intro entry member
  rcases Dictionary.mem_place member with rfl | old
  · rfl
  · exact wellKeyed entry old

/-- The registration of any descriptors, one after the other, makes a well-keyed registry. -/
theorem wellKeyed_ofDescriptors (descriptors : List Descriptor) :
    (ofDescriptors descriptors).WellKeyed := by
  induction descriptors using List.reverseRecOn with
  | nil => exact wellKeyed_empty
  | append_singleton earlier descriptor inductionHypothesis =>
    rw [ofDescriptors, List.foldl_append]
    exact inductionHypothesis.register descriptor

/-- A dialect that was found under some name is found under its own name as well, since both have
the same upper-case form. -/
theorem WellKeyed.describe?_name (wellKeyed : registry.WellKeyed) {name : String}
    {descriptor : Descriptor} (described : registry.describe? name = some descriptor) :
    registry.describe? descriptor.name = some descriptor := by
  obtain ⟨before, after, entries, -⟩ := List.lookup_eq_some_iff.1 described
  have member : (Text.toUpper name, descriptor) ∈ registry.dialects.entries := by
    rw [entries]
    exact List.mem_append_right _ List.mem_cons_self
  have sameKey : Text.toUpper name = Text.toUpper descriptor.name := wellKeyed _ member
  rw [← described, describe?, describe?, sameKey]

/-- A dialect is built for all properties once it is found.  Creation can fail for the name
alone. -/
theorem create_of_described {name : String} {descriptor : Descriptor}
    (described : registry.describe? name = some descriptor) (properties : Properties) :
    registry.create name properties = .ok (descriptor.build properties) := by
  rw [create, described]

/-! ### The dialects of the library -/

theorem wellKeyed_builtin : builtin.WellKeyed := wellKeyed_ofDescriptors builtinDescriptors

/-- What the registry of the library describes is one of its dialects.  A claim for all of them may
be proved by going through the five. -/
theorem mem_builtinDescriptors {name : String} {descriptor : Descriptor}
    (described : builtin.describe? name = some descriptor) : descriptor ∈ builtinDescriptors := by
  obtain ⟨before, after, entries, -⟩ := List.lookup_eq_some_iff.1 described
  have member : (Text.toUpper name, descriptor) ∈ builtin.dialects.entries := by
    rw [entries]
    exact List.mem_append_right _ List.mem_cons_self
  have named : builtin.dialects.entries =
      builtinDescriptors.map fun descriptor => (descriptor.name, descriptor) := rfl
  rw [named, List.mem_map] at member
  obtain ⟨other, listed, pair⟩ := member
  obtain rfl : other = descriptor := congrArg Prod.snd pair
  exact listed

/-- Of all properties only the identifier case of PostgreSQL decides what a dialect of the library
is. -/
theorem create_builtin_congr {first second : Properties}
    (sameCase : first.value? Dialect.postgresqlCaseKey = second.value? Dialect.postgresqlCaseKey)
    (name : String) : builtin.create name first = builtin.create name second := by
  unfold create
  split
  next descriptor described =>
    have member := mem_builtinDescriptors described
    simp only [builtinDescriptors, List.mem_cons, List.not_mem_nil, or_false] at member
    rcases member with rfl | rfl | rfl | rfl | rfl
    · rfl
    · rfl
    · rfl
    · simp only [Dialect.postgresqlFor, sameCase]
    · rfl
  next => rfl

end

/-! ## Histories

A registry is built up by registering dialects one after the other, and it may be cleared in
between.  What it knows is described by these steps alone: under a name stands what was registered
last under a name with the same upper-case form, unless the registry was cleared since.
-/

section

variable {registry : Registry}

/-- In a well-keyed registry the upper-case forms of the listed names are the keys. -/
theorem WellKeyed.map_toUpper_names (wellKeyed : registry.WellKeyed) :
    registry.names.map Text.toUpper = registry.dialects.keys := by
  rw [names, Dictionary.values, Dictionary.keys, List.map_map, List.map_map]
  exact List.map_congr_left fun entry member => (wellKeyed entry member).symm

/-- Names are listed in the order of their keys. -/
theorem WellKeyed.names_ascending (wellKeyed : registry.WellKeyed) :
    registry.names.Pairwise fun first second => Text.toUpper first < Text.toUpper second := by
  rw [← List.pairwise_map, wellKeyed.map_toUpper_names, Dictionary.keys, List.pairwise_map]
  exact registry.dialects.ascending

/-- Of the names with a given upper-case form, one is listed if a dialect is found under it, and it
is the name of this dialect. -/
theorem WellKeyed.filter_names (wellKeyed : registry.WellKeyed) (name : String) :
    (registry.names.filter fun listed => Text.toUpper listed = Text.toUpper name) =
      ((registry.describe? name).map Descriptor.name).toList := by
  have byKey : (registry.dialects.entries.filter fun entry =>
      Text.toUpper entry.2.name = Text.toUpper name) =
        registry.dialects.entries.filter fun entry => entry.1 = Text.toUpper name := by
    refine List.filter_congr fun entry member => ?_
    rw [wellKeyed entry member]
  rw [names, Dictionary.values, List.map_map, List.filter_map, describe?]
  change List.map _ (registry.dialects.entries.filter fun entry =>
    Text.toUpper entry.2.name = Text.toUpper name) = _
  rw [byKey, Dictionary.filter_key]
  cases registry.dialects.get? (Text.toUpper name) <;> rfl

/-! ### Steps -/

/-- A step in building up a registry. -/
inductive Step where
  | register (descriptor : Descriptor)
  | clear

/-- The registry after a step. -/
def after (registry : Registry) : Step → Registry
  | .register descriptor => registry.register descriptor
  | .clear => registry.clear

/-- The registry after steps, the first of the list first. -/
def run (registry : Registry) (steps : List Step) : Registry :=
  steps.foldl after registry

/-- Whether a step decides what stands under a key. -/
def Step.Decides (key : String) : Step → Prop
  | .register descriptor => Text.toUpper descriptor.name = key
  | .clear => True

/-- Whether a descriptor was registered under a key in some of the steps, and no step since then
has cleared the registry or registered another one under the key. -/
def LastRegistered (steps : List Step) (key : String) (descriptor : Descriptor) : Prop :=
  ∃ earlier later, steps = earlier ++ .register descriptor :: later ∧
    Text.toUpper descriptor.name = key ∧ ∀ step ∈ later, ¬ step.Decides key

/-- One more step is the last registration of its own key, and of any other key nothing changes. -/
theorem lastRegistered_append_singleton {steps : List Step} {step : Step} {key : String}
    {descriptor : Descriptor} :
    LastRegistered (steps ++ [step]) key descriptor ↔
      (step = .register descriptor ∧ Text.toUpper descriptor.name = key) ∨
        (¬ step.Decides key ∧ LastRegistered steps key descriptor) := by
  constructor
  · rintro ⟨earlier, later, split, named, undecided⟩
    rcases List.eq_nil_or_concat later with rfl | ⟨between, last, rfl⟩
    · obtain ⟨-, same⟩ := List.append_inj' split rfl
      exact .inl ⟨List.singleton_inj.1 same, named⟩
    · rw [List.concat_eq_append, ← List.cons_append, ← List.append_assoc] at split
      obtain ⟨rfl, same⟩ := List.append_inj' split rfl
      obtain rfl := List.singleton_inj.1 same
      rw [List.concat_eq_append] at undecided
      obtain ⟨undecidedBetween, undecidedLast⟩ := List.forall_mem_append.1 undecided
      exact .inr ⟨undecidedLast _ List.mem_cons_self, earlier, between, rfl, named,
        undecidedBetween⟩
  · rintro (⟨rfl, named⟩ | ⟨undecidedLast, earlier, later, rfl, named, undecided⟩)
    · exact ⟨steps, [], rfl, named, nofun⟩
    · refine ⟨earlier, later ++ [step], by simp, named, ?_⟩
      exact List.forall_mem_append.2 ⟨undecided, List.forall_mem_singleton.2 undecidedLast⟩

/-! ### What a registry knows -/

/-- Every step keeps a registry well keyed. -/
theorem WellKeyed.after (wellKeyed : registry.WellKeyed) (step : Step) :
    (registry.after step).WellKeyed := by
  cases step with
  | register descriptor => exact wellKeyed.register descriptor
  | clear => exact wellKeyed_empty

/-- Every sequence of steps keeps a registry well keyed.  So the invariant holds from the empty
registry as well as from that of the library. -/
theorem WellKeyed.run (wellKeyed : registry.WellKeyed) (steps : List Step) :
    (registry.run steps).WellKeyed := by
  induction steps generalizing registry with
  | nil => exact wellKeyed
  | cons step steps inductionHypothesis => exact inductionHypothesis (wellKeyed.after step)

/-- A step replaces what stands under the keys that it decides, and nothing else.  Clearing decides
all keys, a registration the one of its name. -/
theorem describe?_after_eq_some_iff {step : Step} {name : String} {descriptor : Descriptor} :
    (registry.after step).describe? name = some descriptor ↔
      (step = .register descriptor ∧ Text.toUpper descriptor.name = Text.toUpper name) ∨
        (¬ step.Decides (Text.toUpper name) ∧ registry.describe? name = some descriptor) := by
  cases step with
  | clear =>
    have nothing : (registry.after .clear).describe? name = none := rfl
    simp [nothing, Step.Decides]
  | register other =>
    have placed : (registry.after (.register other)).describe? name =
        if Text.toUpper name = Text.toUpper other.name then some other
        else registry.describe? name := Dictionary.get?_insert ..
    rw [placed, Step.Decides, Step.register.injEq]
    split
    next same =>
      rw [Option.some.injEq, ← same]
      refine ⟨?_, ?_⟩
      · rintro rfl
        exact .inl ⟨rfl, same.symm⟩
      · rintro (⟨rfl, -⟩ | ⟨different, -⟩)
        · rfl
        · exact absurd rfl different
    next different =>
      refine ⟨fun found => .inr ⟨Ne.symm different, found⟩, ?_⟩
      rintro (⟨rfl, same⟩ | ⟨-, found⟩)
      · exact absurd same.symm different
      · exact found

/-- After any steps that begin without dialects, the one under a name is the one that was registered
last, under any spelling with the same upper-case form. -/
theorem describe?_run_iff (steps : List Step) {name : String} {descriptor : Descriptor} :
    (empty.run steps).describe? name = some descriptor ↔
      LastRegistered steps (Text.toUpper name) descriptor := by
  induction steps using List.reverseRecOn with
  | nil =>
    refine iff_of_false nofun ?_
    rintro ⟨earlier, later, split, -⟩
    exact absurd split.symm (by simp)
  | append_singleton steps step inductionHypothesis =>
    rw [run, List.foldl_append, ← run, lastRegistered_append_singleton, ← inductionHypothesis]
    exact describe?_after_eq_some_iff

/-- Whether a registry is the outcome of steps that begin without dialects, as far as it can be
asked. -/
structure Reflects (registry : Registry) (steps : List Step) : Prop where
  describes : ∀ name descriptor, registry.describe? name = some descriptor ↔
    LastRegistered steps (Text.toUpper name) descriptor
  contains : ∀ name, registry.contains name = true ↔
    ∃ descriptor, LastRegistered steps (Text.toUpper name) descriptor
  creates : ∀ name properties dialect, registry.create name properties = .ok dialect ↔
    ∃ descriptor, LastRegistered steps (Text.toUpper name) descriptor ∧
      descriptor.build properties = dialect
  refuses : ∀ name properties error, registry.create name properties = .error error ↔
    (¬ ∃ descriptor, LastRegistered steps (Text.toUpper name) descriptor) ∧
      error = .unknownDialect name registry.names
  /-- Each dialect is listed once, by the name that it was registered with. -/
  lists : ∀ name, (registry.names.filter fun listed => Text.toUpper listed = Text.toUpper name) =
    ((registry.describe? name).map Descriptor.name).toList
  ascending : registry.names.Pairwise fun first second => Text.toUpper first < Text.toUpper second
  size : registry.size = registry.names.length
  wellKeyed : registry.WellKeyed
  /-- An adapter finds its dialect in its registry, whatever the properties of a request. -/
  serves : ∀ name version adapter, Adapter.create registry name version = .ok adapter →
    ∃ descriptor, LastRegistered steps (Text.toUpper name) descriptor ∧
      ∀ properties, adapter.registry.create adapter.dialectName properties =
        .ok (descriptor.build properties)

/-- Names, size and keys follow from what a well-keyed registry describes.  It is thus enough to
know what is described after a sequence of steps. -/
theorem WellKeyed.reflects (wellKeyed : registry.WellKeyed) {steps : List Step}
    (describes : ∀ name descriptor, registry.describe? name = some descriptor ↔
      LastRegistered steps (Text.toUpper name) descriptor) : registry.Reflects steps where
  describes := describes
  contains name := by
    simp only [← describes]
    exact Option.isSome_iff_exists
  creates name properties dialect := by
    simp only [← describes, create]
    cases registry.describe? name <;> simp
  refuses name properties error := by
    simp only [← describes, create, unknown]
    cases registry.describe? name <;> simp [eq_comm]
  lists := wellKeyed.filter_names
  ascending := wellKeyed.names_ascending
  size := by rw [names, Dictionary.values, List.length_map, List.length_map]; rfl
  wellKeyed := wellKeyed
  serves name version adapter created := by
    unfold Adapter.create at created
    split at created
    next descriptor described =>
      cases created
      refine ⟨descriptor, (describes name descriptor).1 described, fun properties => ?_⟩
      exact create_of_described (wellKeyed.describe?_name described) properties
    next => cases created

/-- A registry that begins without dialects reflects the steps taken since, and one that begins
with those of the library reflects their registration and the steps taken since. -/
theorem run_reflects (steps : List Step) :
    (empty.run steps).Reflects steps ∧
      (builtin.run steps).Reflects (builtinDescriptors.map .register ++ steps) := by
  have fromEmpty (steps : List Step) : (empty.run steps).Reflects steps :=
    (wellKeyed_empty.run steps).reflects fun _ _ => describe?_run_iff steps
  have asSteps : builtin.run steps = empty.run (builtinDescriptors.map .register ++ steps) := by
    rw [run, run, List.foldl_append, List.foldl_map]
    rfl
  rw [asSteps]
  exact ⟨fromEmpty steps, fromEmpty _⟩

/-- A dialect is replaced by one whose name has another length but the same upper-case form, and the
adapter of the first name creates the second dialect. -/
theorem run_reflects_sharp_s :
    ∃ adapter, Adapter.create (builtin.run [.register ⟨"straße", "", fun _ => .mysql⟩,
        .register ⟨"Strasse", "", fun _ => .oracle⟩]) "Straße" none = .ok adapter ∧
      adapter.registry.names =
        ["GENERIC", "MYSQL", "ORACLE", "POSTGRESQL", "SQLSERVER", "Strasse"] ∧
      adapter.registry.create adapter.dialectName .empty = .ok .oracle := by
  have reflects := (run_reflects [.register ⟨"straße", "", fun _ => .mysql⟩,
    .register ⟨"Strasse", "", fun _ => .oracle⟩]).2
  obtain ⟨descriptor, registered, serves⟩ := reflects.serves "Straße" none _ rfl
  refine ⟨_, rfl, rfl, ?_⟩
  have described := (reflects.describes "Straße" descriptor).2 registered
  cases described
  exact serves .empty

end

end Pushdown.Registry
