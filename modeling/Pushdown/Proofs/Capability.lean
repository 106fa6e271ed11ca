/-
Module: Pushdown.Proofs.Capability
Purpose: Excluding capabilities takes away exactly those that are named.
Main exports: Capabilities.insertEntries_of_known, Capabilities.insertEntries_of_unknown,
  Capabilities.ofEntries_of_known, Capabilities.ofEntries_names, Dialect.exclusion_exact
-/
import Pushdown.Adapter
import Pushdown.Proofs.Dialect
import Pushdown.Proofs.Text.Distance
import Pushdown.Proofs.Text.Value
import Pushdown.Proofs.Vocabulary

namespace Pushdown

/-!
The entries of an exclusion are read one by one into a set.  What the set contains in the end does
not depend on the order of the entries or on how often one stands there, and the first entry that
is no name ends the reading.
-/

namespace Capability

/-- Whether a text has no blanks. -/
def isSolid (text : String) : Bool := text.toList.all fun c => !Text.isBlank c

/-- Names behind a prefix are solid if the prefix and the names are. -/
theorem isSolid_prefixed {α : Type} [Vocabulary α] [Vocabulary.Lawful α] {start : String}
    (solidStart : isSolid start = true)
    (solid : (Vocabulary.all : List α).all (fun member => isSolid (Vocabulary.name member)) = true)
    (member : α) : isSolid (start ++ Vocabulary.name member) = true := by
  have solidName := List.all_eq_true.1 solid member (Vocabulary.Lawful.mem_all member)
  rw [isSolid] at solidStart solidName ⊢
  rw [String.toList_append, List.all_append, solidStart, solidName]
  rfl

/-- No name of a capability has a comma or a blank in it, so a list of names can be taken apart. -/
theorem isSolid_name (capability : Capability) : isSolid capability.name = true := by
  cases capability with
  | main member =>
    have solid : (MainCapability.all.all fun member => isSolid member.name) = true := by
      decide +kernel
    exact List.all_eq_true.1 solid member (Vocabulary.Lawful.mem_all member)
  | literal member => exact isSolid_prefixed (by decide +kernel) (by decide +kernel) member
  | predicate member => exact isSolid_prefixed (by decide +kernel) (by decide +kernel) member
  | scalar member => exact isSolid_prefixed (by decide +kernel) (by decide +kernel) member
  | aggregate member => exact isSolid_prefixed (by decide +kernel) (by decide +kernel) member

/-- Names of capabilities have no blanks, so trimming leaves them as they are.  A listed name can
therefore be excluded by writing it as it was listed. -/
theorem trim_name (capability : Capability) : Text.trim capability.name = capability.name := by
  apply Text.trim_of_solid
  intro c member
  have solid := List.all_eq_true.1 capability.isSolid_name c member
  simpa using solid

end Capability

namespace Capabilities

/-! ### Reading entries -/

variable (set : Capabilities)

/-- Entries that are all names are put into the set, and nothing else is.  The order of the entries
and repetitions among them do not matter, since a set is known by its members. -/
theorem insertEntries_of_known {entries : List String}
    (known : ∀ entry ∈ entries, Text.trim entry ∈ all.names) :
    ∃ result, insertEntries set entries = .ok result ∧ ∀ capability,
      result.contains capability =
        (set.contains capability || (entries.map Text.trim).contains capability.name) := by
  induction entries generalizing set with
  | nil => exact ⟨set, rfl, by simp⟩
  | cons entry rest inductionHypothesis =>
    obtain ⟨knownFirst, knownRest⟩ := List.forall_mem_cons.1 known
    obtain ⟨first, -, named⟩ := mem_names_iff.1 knownFirst
    obtain ⟨result, read, contains⟩ := inductionHypothesis (set.insert first) knownRest
    refine ⟨result, ?_, ?_⟩
    · rw [insertEntries, ← named, Capability.ofName?_name]
      exact read
    · intro capability
      have sameName : (capability == first) = (capability.name == Text.trim entry) := by
        rw [← named, Bool.eq_iff_iff, beq_iff_eq, beq_iff_eq, Capability.name_injective.eq_iff]
      rw [contains, contains_insert, sameName, List.map_cons, List.contains_cons]
      ac_rfl

/-- The first entry that is no name is the error, whatever stands behind it.  Entries are taken in
the order in which they were listed. -/
theorem insertEntries_of_unknown {before : List String} {entry : String}
    (known : ∀ entry ∈ before, Text.trim entry ∈ all.names)
    (unknown : Text.trim entry ∉ all.names) (after : List String) :
    insertEntries set (before ++ entry :: after) =
      .error (.unknownCapability (Text.trim entry)
        (Text.closest? (Text.trim entry) all.names)) := by
  induction before generalizing set with
  | nil =>
    have unread : Capability.ofName? (Text.trim entry) = none := by
      rw [Option.eq_none_iff_forall_ne_some]
      intro capability read
      exact unknown (mem_names_iff.2
        ⟨capability, contains_all capability, Capability.ofName?_eq_some_iff.1 read⟩)
    rw [List.nil_append, insertEntries, unread]
  | cons first rest inductionHypothesis =>
    obtain ⟨knownFirst, knownRest⟩ := List.forall_mem_cons.1 known
    obtain ⟨capability, -, named⟩ := mem_names_iff.1 knownFirst
    rw [List.cons_append, insertEntries, ← named, Capability.ofName?_name]
    exact inductionHypothesis (set.insert capability) knownRest

/-- Trimmed entries that are all names are read as the set that they name, so a list of exclusions
has exactly the meaning of its words. -/
theorem ofEntries_of_known {entries : List String}
    (trimmed : ∀ entry ∈ entries, Text.trim entry = entry)
    (known : ∀ entry ∈ entries, entry ∈ all.names) :
    ∃ result, ofEntries entries = .ok result ∧
      ∀ capability, result.contains capability = entries.contains capability.name := by
  have same : entries.map Text.trim = entries :=
    (List.map_congr_left trimmed).trans (List.map_id' entries)
  have knownTrimmed : ∀ entry ∈ entries, Text.trim entry ∈ all.names := by
    intro entry member
    rw [trimmed entry member]
    exact known entry member
  obtain ⟨result, read, contains⟩ := insertEntries_of_known empty knownTrimmed
  refine ⟨result, read, fun capability => ?_⟩
  rw [contains, same, contains_empty, Bool.false_or]

/-- The first of trimmed entries that is no name is the error.  Entries before it have been put into
the set by then, but nothing of the set is left in the answer. -/
theorem ofEntries_of_unknown {before after : List String} {unknown : String}
    (trimmed : ∀ entry ∈ before ++ unknown :: after, Text.trim entry = entry)
    (known : ∀ entry ∈ before, entry ∈ all.names) (unlisted : unknown ∉ all.names) :
    ofEntries (before ++ unknown :: after) =
      .error (.unknownCapability unknown (Text.closest? unknown all.names)) := by
  have same : Text.trim unknown = unknown := trimmed unknown (by simp)
  have knownTrimmed : ∀ entry ∈ before, Text.trim entry ∈ all.names := by
    intro entry member
    rw [trimmed entry (List.mem_append_left _ member)]
    exact known entry member
  have unlistedTrimmed : Text.trim unknown ∉ all.names := by
    rw [same]
    exact unlisted
  have failed := insertEntries_of_unknown empty knownTrimmed unlistedTrimmed after
  rw [same] at failed
  exact failed

/-- Where a set is what entries name, its names are taken away as the entries are.  Subtraction of
sets of members becomes subtraction of lists of names, which is what can be read in an answer. -/
theorem names_subtract_of_entries {excluded : Capabilities} {entries : List String}
    (named : ∀ capability, excluded.contains capability = entries.contains capability.name) :
    (set.subtract excluded).names = set.names.filter fun name => name ∉ entries := by
  rw [names_subtract]
  apply List.filter_congr
  intro name member
  obtain ⟨capability, -, rfl⟩ := mem_names_iff.1 member
  have asEntry : capability.name ∈ excluded.names ↔ capability.name ∈ entries := by
    rw [name_mem_names_iff, named, List.contains_iff_mem]
  simp only [asEntry]

/-- The names of a set are read back as the set.  The list that an adapter tells can therefore be
given as a list of exclusions. -/
theorem ofEntries_names : ofEntries set.names = .ok set := by
  have ofMember : ∀ entry ∈ set.names, Text.trim entry = entry ∧ entry ∈ all.names := by
    intro entry member
    obtain ⟨capability, -, rfl⟩ := mem_names_iff.1 member
    exact ⟨capability.trim_name, name_mem_names_iff.2 (contains_all capability)⟩
  obtain ⟨result, read, named⟩ := ofEntries_of_known (fun entry member => (ofMember entry member).1)
    fun entry member => (ofMember entry member).2
  rw [read]
  congr 1
  apply eq_of_contains
  intro capability
  rw [named, Bool.eq_iff_iff, List.contains_iff_mem, name_mem_names_iff]

end Capabilities

/-! ### Exclusion -/

/-- The exclusions of a request are the entries of their property, which counts as empty if it is
missing. -/
theorem Properties.excludedCapabilities_eq (properties : Properties) :
    properties.excludedCapabilities =
      Text.entries ((properties.stored.get? Property.excludedCapabilities).getD "") := by
  have nothing : Text.entries "" = [] := by decide
  unfold excludedCapabilities entries value?
  cases properties.stored.get? Property.excludedCapabilities with
  | none => exact nothing.symm
  | some text =>
    by_cases unset : text = ""
    · subst unset
      exact nothing.symm
    · rw [Option.filter_some, if_pos (bne_iff_ne.2 unset), Option.getD_some]

/-- What is wrong with properties, if anything is, is what they exclude. -/
structure Dialect.AcceptsOtherwise (dialect : Dialect) (properties : Properties) : Prop where
  common : Configuration.checkCommon properties dialect.name dialect.supportedProperties
    dialect.hasCatalogs dialect.hasSchemas = .ok ()
  ignoredErrors : Configuration.checkIgnoredErrors properties dialect.ignorableErrors = .ok ()
  identifierCase : dialect.checkIdentifierCase properties = .ok ()

/-- Once the properties are accepted, what they exclude decides on the answer.  The dialect and the
source have no further say in it. -/
theorem Adapter.capabilities_eq {adapter : Adapter} {dialect : Dialect} {properties : Properties}
    (built : adapter.registry.create adapter.dialectName properties = .ok dialect)
    (accepts : dialect.AcceptsOtherwise properties) :
    adapter.capabilities properties =
      (Capabilities.ofEntries properties.excludedCapabilities).map
        dialect.capabilities.subtract := by
  have validated : dialect.validate properties =
      (Capabilities.ofEntries properties.excludedCapabilities).map fun _ => () := by
    rw [Dialect.validate, accepts.common, accepts.ignoredErrors, accepts.identifierCase]
    cases Capabilities.ofEntries properties.excludedCapabilities <;> rfl
  have found : adapter.dialectFor properties =
      (Capabilities.ofEntries properties.excludedCapabilities).map fun _ => dialect := by
    rw [dialectFor, built]
    change (dialect.validate properties >>= fun _ => pure dialect) = _
    rw [validated]
    cases Capabilities.ofEntries properties.excludedCapabilities <;> rfl
  rw [capabilities, found]
  cases excluded : Capabilities.ofEntries properties.excludedCapabilities with
  | ok set => rfl
  | error error => rfl

/-- Excluding capabilities takes away exactly those that are named, whatever the order in which and
however often they are named, and leaves the others in their order.  The first entry that names
none is an error, which suggests names of capabilities only.  Every set can be excluded that way,
since its names are read back as the set. -/
theorem Dialect.exclusion_exact (dialect : Dialect) (properties : Properties)
    (set : Capabilities) :
    ∃ entries,
      Text.Lists ((properties.stored.get? Property.excludedCapabilities).getD "") entries ∧
      ((∀ entry ∈ entries, entry ∈ Capabilities.all.names) →
        ∃ excluded, Capabilities.ofEntries properties.excludedCapabilities = .ok excluded ∧
          (dialect.capabilities.subtract excluded).names =
            (dialect.capabilities.names.filter fun name => name ∉ entries) ∧
          ∀ adapter : Adapter,
            adapter.registry.create adapter.dialectName properties = .ok dialect →
            dialect.AcceptsOtherwise properties →
            adapter.capabilities properties = .ok (dialect.capabilities.subtract excluded)) ∧
      (∀ before unknown after, entries = before ++ unknown :: after →
        (∀ entry ∈ before, entry ∈ Capabilities.all.names) →
        unknown ∉ Capabilities.all.names →
        ∃ suggestion,
          Capabilities.ofEntries properties.excludedCapabilities =
            .error (.unknownCapability unknown suggestion) ∧
          (∀ name ∈ suggestion, name ∈ Capabilities.all.names) ∧
          ∀ adapter : Adapter,
            adapter.registry.create adapter.dialectName properties = .ok dialect →
            dialect.AcceptsOtherwise properties →
            adapter.capabilities properties = .error (.unknownCapability unknown suggestion)) ∧
      Capabilities.ofEntries set.names = .ok set ∧
      set.size = set.names.length ∧ set.names.Nodup := by
  have listed := properties.excludedCapabilities_eq
  have trimmed : ∀ entry ∈ properties.excludedCapabilities, Text.trim entry = entry := by
    rw [listed]
    exact fun entry member => Text.trim_of_mem_entries member
  refine ⟨properties.excludedCapabilities, Text.lists_iff.2 listed, ?_, ?_, set.ofEntries_names,
    set.length_names.symm, set.nodup_names⟩
  · intro known
    -- Each entry has a capability of its name, and these are what is taken away.
    obtain ⟨excluded, read, named⟩ := Capabilities.ofEntries_of_known trimmed known
    refine ⟨excluded, read, dialect.capabilities.names_subtract_of_entries named, ?_⟩
    intro adapter built accepts
    rw [Adapter.capabilities_eq built accepts, read]
    rfl
  · intro before unknown after split known unlisted
    rw [split] at trimmed
    have refused := Capabilities.ofEntries_of_unknown trimmed known unlisted
    rw [← split] at refused
    refine ⟨_, refused, fun name closest => Text.mem_of_closest? closest, ?_⟩
    intro adapter built accepts
    rw [Adapter.capabilities_eq built accepts, refused]
    rfl

/-- Blanks, empty entries and repetitions do not matter, but the case of a name does. -/
theorem Dialect.exclusion_exact_oracle :
    (∃ excluded,
      Adapter.capabilities ⟨"ORACLE", .builtin, none⟩
        (.ofList [(Property.connectionName, "C"),
          (Property.excludedCapabilities, " LIMIT ,FN_PRED_LIKE,,LIMIT")]) =
        .ok (Dialect.oracle.capabilities.subtract excluded) ∧
      (Dialect.oracle.capabilities.subtract excluded).names =
        Dialect.oracle.capabilities.names.filter fun name =>
          name ∉ ["LIMIT", "FN_PRED_LIKE", "LIMIT"]) ∧
    ∃ suggestion,
      Adapter.capabilities ⟨"ORACLE", .builtin, none⟩
        (.ofList [(Property.connectionName, "C"),
          (Property.excludedCapabilities, "LIMIT,limit,FN_PRED_LIKE")]) =
        .error (.unknownCapability "limit" suggestion) := by
  constructor
  · obtain ⟨entries, listed, exclude, -⟩ := Dialect.exclusion_exact .oracle
      (.ofList [(Property.connectionName, "C"),
        (Property.excludedCapabilities, " LIMIT ,FN_PRED_LIKE,,LIMIT")]) .empty
    obtain rfl : ["LIMIT", "FN_PRED_LIKE", "LIMIT"] = entries := (Text.lists_iff.1 listed).symm
    obtain ⟨excluded, -, names, negotiated⟩ := exclude (by decide +kernel)
    exact ⟨excluded, negotiated ⟨"ORACLE", .builtin, none⟩ rfl ⟨rfl, rfl, rfl⟩, names⟩
  · obtain ⟨entries, listed, -, refuse, -⟩ := Dialect.exclusion_exact .oracle
      (.ofList [(Property.connectionName, "C"),
        (Property.excludedCapabilities, "LIMIT,limit,FN_PRED_LIKE")]) .empty
    obtain rfl : ["LIMIT", "limit", "FN_PRED_LIKE"] = entries := (Text.lists_iff.1 listed).symm
    obtain ⟨suggestion, -, -, negotiated⟩ :=
      refuse ["LIMIT"] "limit" ["FN_PRED_LIKE"] rfl (by decide +kernel) (by decide +kernel)
    exact ⟨suggestion, negotiated ⟨"ORACLE", .builtin, none⟩ rfl ⟨rfl, rfl, rfl⟩⟩

end Pushdown
