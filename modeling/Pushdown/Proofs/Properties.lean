/-
Module: Pushdown.Proofs.Properties
Purpose: What changes do to properties, and that empty texts are no values.
Main exports: Properties.get?_merge, Properties.value?_merge, Properties.given,
  Properties.value?_given, Dictionary.overriddenBy, Properties.Changed, Properties.changed_iff,
  Properties.merge_merge
-/
import Pushdown.Configuration
import Pushdown.Proofs.Dictionary

namespace Pushdown

/-! ## Values

Properties are read by their values, and by the list of the keys that have one.  An entry with an
empty text shows in neither, so properties can be compared by the entries that are left when those
with empty texts are dropped.
-/

namespace Properties

/-- Properties that look up alike are equal. -/
theorem ext_get? {first second : Properties}
    (same : ∀ key, first.stored.get? key = second.stored.get? key) : first = second :=
  congrArg Properties.mk (Dictionary.ext_get? same)

/-! ### Changes -/

/-- A change sets one key, or removes it if there is no value or an empty one, and leaves all others
alone. -/
theorem get?_change (stored : Dictionary String) (key other : String) (value : Option String) :
    (change stored key value).get? other =
      if other = key then value.filter (· != "") else stored.get? other := by
  unfold change
  split
  · next text =>
    split
    · next empty =>
      rw [Dictionary.get?_erase, empty]
      rfl
    · next filled =>
      rw [Dictionary.get?_insert, Option.filter_some, if_pos (bne_iff_ne.2 filled)]
  · rw [Dictionary.get?_erase]
    rfl

/-- After changes a key has its changed text, unless that is empty; other keys keep theirs.  Changes
with an empty text or none at all remove the key. -/
theorem get?_merge (properties : Properties) (changes : PropertyChanges) (key : String) :
    (properties.merge changes).stored.get? key =
      match changes.get? key with
      | some value => value.filter (· != "")
      | none => properties.stored.get? key := by
  rw [merge, Dictionary.get?_foldl_entries fun stored entry other =>
    get?_change stored entry.1 other entry.2]
  cases changes.get? key <;> rfl

/-- After a change, a key has what the changes give it, or what it had if they do not mention it. -/
theorem value?_merge (properties : Properties) (changes : PropertyChanges) (key : String) :
    (properties.merge changes).value? key =
      match changes.get? key with
      | some value => value.filter (· != "")
      | none => properties.value? key := by
  rw [value?, get?_merge]
  cases changes.get? key with
  | none => rfl
  | some value => simp [Option.filter_filter]

/-! ### Empty texts -/

/-- The properties without those whose text is empty. -/
def given (properties : Properties) : Properties :=
  ⟨properties.stored.filter fun _ text => text != ""⟩

/-- The values that count are those that are not empty.  A lookup that takes empty values for none
cannot tell the two maps apart. -/
theorem get?_given (properties : Properties) (key : String) :
    properties.given.stored.get? key = properties.value? key :=
  properties.stored.get?_filter _ key

@[simp] theorem value?_given (properties : Properties) (key : String) :
    properties.given.value? key = properties.value? key := by
  rw [value?, get?_given, value?, Option.filter_filter]
  simp

@[simp] theorem entries_given (properties : Properties) (key : String) :
    properties.given.entries key = properties.entries key := by
  rw [entries, entries, value?_given]

theorem keys_eq (properties : Properties) : properties.keys = properties.given.stored.keys := rfl

theorem mem_keys_iff {properties : Properties} {key : String} :
    key ∈ properties.keys ↔ (properties.value? key).isSome := by
  rw [keys_eq, Dictionary.mem_keys_iff, get?_given]

/-- Two sets of properties are the same but for empty texts exactly if they have the same values. -/
theorem given_eq_iff {first second : Properties} :
    first.given = second.given ↔ ∀ key, first.value? key = second.value? key := by
  constructor
  · intro same key
    rw [← value?_given, same, value?_given]
  · intro same
    apply ext_get?
    intro key
    rw [get?_given, get?_given, same]

@[simp] theorem given_given (properties : Properties) : properties.given.given = properties.given :=
  given_eq_iff.2 properties.value?_given

@[simp] theorem keys_given (properties : Properties) : properties.given.keys = properties.keys := by
  rw [keys_eq, keys_eq, given_given]

/-- Changes to properties that are the same but for empty texts lead to such ones again. -/
theorem given_merge_given (properties : Properties) (changes : PropertyChanges) :
    (properties.given.merge changes).given = (properties.merge changes).given := by
  apply given_eq_iff.2
  intro key
  rw [value?_merge, value?_merge, value?_given]

end Properties

/-! ## Changes

A change set says of some keys what they are to be afterwards, and nothing of the others.  So of two
change sets in a row the later one decides where it says something, whether it gives a text or
withdraws the key, and the earlier one elsewhere.  In particular a withdrawal counts as something
said: it must not be dropped when change sets are put together.
-/

/-- A map with the entries of another one, in place of its own under the same keys. -/
def Dictionary.overriddenBy {α : Type} (map other : Dictionary α) : Dictionary α :=
  other.entries.foldl (fun map entry => map.insert entry.1 entry.2) map

/-- Of two maps, the second decides where it says anything. -/
theorem Dictionary.get?_overriddenBy {α : Type} (map other : Dictionary α) (key : String) :
    (map.overriddenBy other).get? key = (other.get? key).or (map.get? key) := by
  rw [overriddenBy, get?_foldl_entries fun map entry key => map.get?_insert entry.1 key entry.2]
  cases other.get? key <;> rfl

namespace Properties

variable {before after : Properties} {changes : PropertyChanges}

/-- Whether properties are the outcome of changes: a key that is changed to a text has it, one that
is changed to nothing or to an empty text is gone, and the others are as before. -/
structure Changed (before : Properties) (changes : PropertyChanges) (after : Properties) :
    Prop where
  given : ∀ key text, changes.get? key = some (some text) → text ≠ "" →
    after.stored.get? key = some text
  withdrawn : ∀ key, changes.get? key = some none ∨ changes.get? key = some (some "") →
    after.stored.get? key = none
  kept : ∀ key, changes.get? key = none → after.stored.get? key = before.stored.get? key

/-- Merging changes makes the properties that the changes describe.  The description looks at one
key at a time, the merging goes through the changes in order. -/
theorem changed_merge (before : Properties) (changes : PropertyChanges) :
    Changed before changes (before.merge changes) where
  given key text changed filled := by
    rw [get?_merge, changed]
    exact Option.filter_eq_some_iff.2 ⟨rfl, bne_iff_ne.2 filled⟩
  withdrawn key changed := by
    rw [get?_merge]
    rcases changed with changed | changed <;> rw [changed] <;> rfl
  kept key unchanged := by rw [get?_merge, unchanged]

/-- Changes have one outcome.  Every key is settled by them, one way or the other, and properties
that look up alike are equal. -/
theorem Changed.unique {other : Properties} (changed : Changed before changes after)
    (otherChanged : Changed before changes other) : after = other := by
  apply ext_get?
  intro key
  match change : changes.get? key with
  | none => rw [changed.kept key change, otherChanged.kept key change]
  | some none =>
    rw [changed.withdrawn key (.inl change), otherChanged.withdrawn key (.inl change)]
  | some (some text) =>
    by_cases empty : text = ""
    · rw [empty] at change
      rw [changed.withdrawn key (.inr change), otherChanged.withdrawn key (.inr change)]
    · rw [changed.given key text change empty, otherChanged.given key text change empty]

/-- Changes leave no choice: only the merged properties are described by them.  A specification by
keys thus determines the result as a whole. -/
theorem changed_iff : Changed before changes after ↔ after = before.merge changes := by
  constructor
  · exact fun changed => changed.unique (changed_merge before changes)
  · rintro rfl
    exact changed_merge before changes

/-! ### Changes in a row -/

/-- Two changes in a row are the one in which the second overrides the first, so a history of
changes is a single change. -/
theorem merge_merge (properties : Properties) (first second : PropertyChanges) :
    (properties.merge first).merge second = properties.merge (first.overriddenBy second) := by
  apply ext_get?
  intro key
  rw [get?_merge, get?_merge, get?_merge, Dictionary.get?_overriddenBy]
  cases second.get? key <;> rfl

/-- No changes change nothing.  A sequence of changes can therefore be merged into one, starting
from no changes at all. -/
theorem merge_empty (properties : Properties) : properties.merge .empty = properties := rfl

/-- Any number of changes in a row are one change, in which later ones override earlier ones. -/
theorem foldl_merge (properties : Properties) (history : List PropertyChanges) :
    history.foldl merge properties =
      properties.merge (history.foldl Dictionary.overriddenBy .empty) := by
  induction history using List.reverseRecOn with
  | nil => exact (merge_empty properties).symm
  | append_singleton history changes inductionHypothesis =>
    rw [List.foldl_append, List.foldl_append, inductionHypothesis]
    exact merge_merge properties _ changes

/-- Changes made twice are the changes made once.  What a change set says of a key does not depend
on what was there. -/
theorem overriddenBy_self (changes : PropertyChanges) : changes.overriddenBy changes = changes := by
  apply Dictionary.ext_get?
  intro key
  rw [Dictionary.get?_overriddenBy, Option.or_self]

/-- Changes leave properties that are fixed key by key; two changes in a row, or any number of them,
are the one in which what is said later counts; and changes made once more change nothing. -/
theorem changes_compose (properties : Properties) (first second : PropertyChanges) :
    (∀ after, Changed properties first after ↔ after = properties.merge first) ∧
    (∀ key, (properties.merge first).value? key =
      match first.get? key with
      | some value => value.filter (· != "")
      | none => properties.value? key) ∧
    (∀ key, (first.overriddenBy second).get? key = (second.get? key).or (first.get? key)) ∧
    (properties.merge first).merge second = properties.merge (first.overriddenBy second) ∧
    (∀ history : List PropertyChanges, history.foldl merge properties =
      properties.merge (history.foldl Dictionary.overriddenBy .empty)) ∧
    (properties.merge first).merge first = properties.merge first := by
  refine ⟨fun _ => changed_iff, value?_merge properties first, first.get?_overriddenBy second,
    merge_merge properties first second, foldl_merge properties, ?_⟩
  rw [merge_merge, overriddenBy_self]

/-- A key that was withdrawn stays so when the changes are put together. -/
example : ((Dictionary.ofList [("A", some "1"), ("B", some "2")]).overriddenBy
    (.ofList [("A", none)])).entries = [("A", none), ("B", some "2")] := by decide

end Properties

end Pushdown
