/-
Module: Pushdown.Proofs.Dictionary
Purpose: What can be looked up in a dictionary after it was changed, and that nothing else counts.
Main exports: Dictionary.get?_insert, Dictionary.get?_foldl_entries, Dictionary.filter_key,
  Dictionary.get?_filter, Dictionary.get?_erase, Dictionary.ext_get?, Dictionary.ofList_of_perm
-/
import Mathlib.Data.List.Induction
import Mathlib.Data.List.Sort
import Pushdown.Json.Basic

namespace Pushdown.Dictionary

/-!
Since the entries of a dictionary ascend, each key stands there at most once, and what can be looked
up are exactly the entries.  So a change is described by what it does to lookups, and dictionaries
that look up alike are equal.
-/

variable {α : Type}

theorem lookup_cons (key other : String) (value : α) (entries : List (String × α)) :
    ((key, value) :: entries).lookup other =
      if other = key then some value else entries.lookup other := by
  rw [List.lookup_cons]
  by_cases same : other = key
  · simp [same]
  · rw [if_neg same, beq_false_of_ne same]

/-- An entry that is placed is found under its key, and hides none under another. -/
theorem lookup_place (key other : String) (value : α) (entries : List (String × α)) :
    (place key value entries).lookup other =
      if other = key then some value else entries.lookup other := by
  induction entries with
  | nil => exact lookup_cons key other value []
  | cons head rest inductionHypothesis =>
    obtain ⟨name, old⟩ := head
    simp only [place]
    split
    · exact lookup_cons key other value _
    · next notBefore =>
      split
      · next after =>
        have different : key ≠ name := by
          rintro rfl
          exact String.lt_irrefl key after
        rw [lookup_cons, lookup_cons, inductionHypothesis]
        by_cases same : other = key <;> simp [same, different]
      · next notAfter =>
        obtain rfl : key = name :=
          String.le_antisymm (String.not_lt.1 notAfter) (String.not_lt.1 notBefore)
        rw [lookup_cons, lookup_cons]
        by_cases same : other = key <;> simp [same]

/-- A value that is inserted is found under its key, and hides none under another.  Every other law
of updates is derived from this one. -/
theorem get?_insert (map : Dictionary α) (key other : String) (value : α) :
    (map.insert key value).get? other = if other = key then some value else map.get? other :=
  lookup_place key other value map.entries

/-- Where each entry of a map acts on what stands under its own key, and all act in turn, what
stands under a key is decided by the entry with this key. -/
theorem get?_foldl_entries {β : Type} {act : Dictionary α → String × β → Dictionary α}
    {outcome : β → Option α}
    (acts : ∀ map entry key, (act map entry).get? key =
      if key = entry.1 then outcome entry.2 else map.get? key)
    (map : Dictionary α) (other : Dictionary β) (key : String) :
    (other.entries.foldl act map).get? key =
      match other.get? key with
      | some value => outcome value
      | none => map.get? key := by
  unfold get?
  obtain ⟨entries, ascending⟩ := other
  dsimp only
  induction entries generalizing map with
  | nil => rfl
  | cons head rest inductionHypothesis =>
    obtain ⟨name, value⟩ := head
    obtain ⟨below, restAscending⟩ := List.pairwise_cons.1 ascending
    rw [List.foldl_cons, inductionHypothesis _ restAscending, ← get?, acts, lookup_cons]
    by_cases same : key = name
    · -- The rest is above the first key, so it does not change it again.
      have unchanged : rest.lookup key = none := by
        apply List.lookup_eq_none_iff.2
        intro entry member
        have above := below entry member
        apply bne_iff_ne.2
        rintro rfl
        exact String.lt_irrefl _ (same ▸ above)
      simp [same, same ▸ unchanged]
    · simp [same, get?]

/-- A value can be looked up exactly if it is stored. -/
theorem get?_eq_some_iff {map : Dictionary α} {key : String} {value : α} :
    map.get? key = some value ↔ (key, value) ∈ map.entries := by
  constructor
  · intro found
    obtain ⟨front, back, split, -⟩ := List.lookup_eq_some_iff.1 found
    rw [split]
    exact List.mem_append_right front List.mem_cons_self
  · intro member
    obtain ⟨front, back, split⟩ := List.append_of_mem member
    refine List.lookup_eq_some_iff.2 ⟨front, back, split, ?_⟩
    intro earlier earlierMember
    have ascending := map.ascending
    rw [split] at ascending
    have below := (List.pairwise_append.1 ascending).2.2 earlier earlierMember _ List.mem_cons_self
    apply bne_iff_ne.2
    rintro rfl
    exact String.lt_irrefl _ below

/-- The keys of a map are those under which something is found. -/
theorem mem_keys_iff {map : Dictionary α} {key : String} :
    key ∈ map.keys ↔ (map.get? key).isSome := by
  simp only [keys, List.mem_map, Option.isSome_iff_exists, get?_eq_some_iff]
  constructor
  · rintro ⟨⟨_, value⟩, member, rfl⟩
    exact ⟨value, member⟩
  · rintro ⟨value, member⟩
    exact ⟨(key, value), member, rfl⟩

/-- A key is stored at most once, in a list of entries that ascends by its keys.  The test for a key
therefore finds one entry or none. -/
theorem filter_key (map : Dictionary α) (key : String) :
    (map.entries.filter fun entry => entry.1 = key) = ((map.get? key).map (key, ·)).toList := by
  unfold get?
  obtain ⟨entries, ascending⟩ := map
  dsimp only
  induction entries with
  | nil => rfl
  | cons head rest inductionHypothesis =>
    obtain ⟨name, value⟩ := head
    obtain ⟨below, restAscending⟩ := List.pairwise_cons.1 ascending
    rw [lookup_cons]
    by_cases same : key = name
    · subst same
      have noOther : (rest.filter fun entry => entry.1 = key) = [] := by
        refine List.filter_eq_nil_iff.2 fun entry member isKey => ?_
        exact String.lt_irrefl key (of_decide_eq_true isKey ▸ below entry member)
      rw [List.filter_cons_of_pos (by simp), noOther, if_pos rfl]
      rfl
    · rw [List.filter_cons_of_neg (by simpa using Ne.symm same), if_neg same,
        inductionHypothesis restAscending]

/-- Dictionaries that look up alike are equal.  The order of insertion leaves no trace, because the
entries ascend by their keys. -/
theorem ext_get? {first second : Dictionary α}
    (same : ∀ key, first.get? key = second.get? key) : first = second := by
  let Below (left right : String × α) : Prop := left.1 < right.1
  have irreflexive : Std.Irrefl Below := ⟨fun entry => String.lt_irrefl entry.1⟩
  have antisymmetric : Std.Antisymm Below :=
    ⟨fun _ _ below above => absurd (String.lt_trans below above) (String.lt_irrefl _)⟩
  have sameEntries : first.entries = second.entries := by
    apply List.Pairwise.eq_of_mem_iff (r := Below) first.ascending second.ascending
    rintro ⟨key, value⟩
    rw [← get?_eq_some_iff, ← get?_eq_some_iff, same]
  cases first
  cases second
  cases sameEntries
  rfl

theorem nodup_keys (map : Dictionary α) : map.keys.Nodup := by
  rw [keys, List.Nodup, List.pairwise_map]
  exact map.ascending.imp fun below => String.ne_of_lt below

/-- Of entries with different keys, all are stored.  Were a key given twice, the last of its values
would remain. -/
theorem get?_ofList_eq_some_iff {entries : List (String × α)}
    (distinct : (entries.map Prod.fst).Nodup) {key : String} {value : α} :
    (ofList entries).get? key = some value ↔ (key, value) ∈ entries := by
  induction entries using List.reverseRecOn with
  | nil => exact iff_of_false nofun List.not_mem_nil
  | append_singleton entries entry inductionHypothesis =>
    rw [List.map_append, List.map_singleton] at distinct
    obtain ⟨distinct, -, apart⟩ := List.nodup_append.1 distinct
    rw [ofList, List.foldl_append, List.foldl_cons, List.foldl_nil, ← ofList, get?_insert,
      List.mem_append, List.mem_singleton, ← inductionHypothesis distinct]
    split
    next same =>
      subst same
      have absent : (ofList entries).get? entry.1 ≠ some value := by
        intro found
        have member := List.mem_map_of_mem (f := Prod.fst) ((inductionHypothesis distinct).1 found)
        exact apart entry.1 member entry.1 List.mem_cons_self rfl
      simp [absent, Prod.ext_iff, eq_comm]
    next different =>
      have other : (key, value) ≠ entry := fun same => different (congrArg Prod.fst same)
      simp [other]

/-- The entries of a dictionary make it up in any order, as long as no key is repeated among
them. -/
theorem ofList_of_perm {map : Dictionary α} {entries : List (String × α)}
    (order : entries.Perm map.entries) : ofList entries = map := by
  have distinct : (entries.map Prod.fst).Nodup :=
    (order.map Prod.fst).nodup_iff.2 map.nodup_keys
  apply ext_get?
  intro key
  apply Option.ext
  intro value
  rw [get?_ofList_eq_some_iff distinct, get?_eq_some_iff, order.mem_iff]

/-- Filtering keeps what passes the test under its key.  A key is stored once, so it is enough to
test what is found under it. -/
theorem get?_filter (map : Dictionary α) (test : String → α → Bool) (key : String) :
    (map.filter test).get? key = (map.get? key).filter (test key) := by
  apply Option.ext
  intro value
  rw [get?_eq_some_iff, Option.filter_eq_some_iff, get?_eq_some_iff]
  exact List.mem_filter

/-- Erasing a key leaves all others as they are.  Together with insertion this is all that changes
to properties are made of. -/
theorem get?_erase (map : Dictionary α) (key other : String) :
    (map.erase key).get? other = if other = key then none else map.get? other := by
  rw [erase, get?_filter]
  by_cases same : other = key
  · simp [same]
  · rw [if_neg same, bne_iff_ne.2 same]
    cases map.get? other <;> rfl

end Pushdown.Dictionary
