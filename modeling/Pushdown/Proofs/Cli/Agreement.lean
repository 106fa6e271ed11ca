/-
Module: Pushdown.Proofs.Cli.Agreement
Purpose: What the command line tool says of a configuration is what the adapter answers.
Main exports: Adapter.negotiated, Adapter.negotiated_of_described, Cli.connectedProperties,
  Cli.capabilityReport_of_negotiated, Cli.checks_agree
-/
import Mathlib.Data.List.Sort
import Pushdown.Proofs.Capability
import Pushdown.Proofs.Cli.Envelope
import Pushdown.Proofs.Cli.Status
import Pushdown.Proofs.Dialect
import Pushdown.Proofs.Properties
import Pushdown.Proofs.Registry
import Pushdown.Proofs.Validation

namespace Pushdown

/-!
An adapter looks its dialect up twice: under the name that was asked for when it is created, and for
each request under the name that the dialect was registered with.  It validates all properties
before it reads what they exclude.  The tool makes no adapter.  It looks dialects up once; for a
schema it validates the properties and stops there, and for a listing of capabilities it reads what
is excluded and validates nothing.  The answers are the same: both names lead to the same dialect,
validation reads what is excluded as its last check, and properties that have nothing but a
connection and exclusions pass all checks before that one.
-/

/-! ### The adapter -/

namespace Adapter

/-- What an adapter for a dialect answers when it is asked for its capabilities: these, or why there
is no adapter or no answer. -/
def negotiated (registry : Registry) (name : String) (version : Option String)
    (properties : Properties) : Except Fault Capabilities := do
  let adapter ← create registry name version
  (adapter.capabilities properties).mapError ConfigurationError.toFault

variable {registry : Registry} {name : String} {version : Option String} {properties : Properties}

/-- Without a dialect there is no adapter, and the answer is that of the registry.  Checking an
entry fails for the same reason. -/
theorem negotiated_of_undescribed (undescribed : registry.describe? name = none) :
    negotiated registry name version properties = .error (registry.unknown name).toFault := by
  rw [negotiated, create, undescribed]
  rfl

variable {descriptor : Descriptor}

/-- With a dialect, the adapter looks it up again under the name that it was registered with. -/
theorem negotiated_eq_capabilities (described : registry.describe? name = some descriptor) :
    negotiated registry name version properties =
      (capabilities ⟨descriptor.name, registry, version⟩ properties).mapError
        ConfigurationError.toFault := by
  rw [negotiated, create, described]
  rfl

/-- The dialect that is found under the name of the adapter is the one that was asked for, so
looking it up twice gives what looking it up once does. -/
theorem negotiated_of_described (wellKeyed : registry.WellKeyed)
    (described : registry.describe? name = some descriptor) :
    negotiated registry name version properties =
      ((descriptor.build properties).validate properties >>= fun _ =>
        (Capabilities.ofEntries properties.excludedCapabilities).map
          (descriptor.build properties).capabilities.subtract).mapError
            ConfigurationError.toFault := by
  have built := Registry.create_of_described (wellKeyed.describe?_name described) properties
  rw [negotiated_eq_capabilities described, capabilities,
    dialectFor_eq ⟨descriptor.name, registry, version⟩ built]
  cases (descriptor.build properties).validate properties with
  | error error => rfl
  | ok _ => cases Capabilities.ofEntries properties.excludedCapabilities <;> rfl

end Adapter

/-! ### Entries of property files -/

/-- An entry is faulty for the tool exactly if the adapter fails, and with the same fault. -/
theorem SchemaEntry.fault?_of_negotiated {registry : Registry} (wellKeyed : registry.WellKeyed)
    (entry : SchemaEntry) (version : Option String) :
    entry.fault? registry =
      match Adapter.negotiated registry entry.dialectName version entry.properties with
      | .ok _ => none
      | .error fault => some fault := by
  unfold fault?
  cases described : registry.describe? entry.dialectName with
  | none =>
    rw [check_of_undescribed described, Adapter.negotiated_of_undescribed described]
  | some descriptor =>
    rw [check_of_described described, Adapter.negotiated_of_described wellKeyed described]
    cases validated : (descriptor.build entry.properties).validate entry.properties with
    | error error => rfl
    | ok _ =>
      -- What is excluded was read already when the properties were validated.
      have accepts := ((descriptor.build entry.properties).validate_eq_ok_iff _).1 validated
      obtain ⟨excluded, read⟩ := accepts.excluded
      rw [read]
      rfl

/-! ### Listings of capabilities -/

namespace Cli

/-- The properties that name a connection and exclude capabilities, and nothing else. -/
def connectedProperties (connection : String) (exclusion : Option String) : Properties :=
  .ofList ((Property.connectionName, connection) ::
    exclusion.toList.map fun text => (Property.excludedCapabilities, text))

variable (exclusion : Option String)

/-- The properties that a listing makes up have the exclusion in them and nothing else. -/
theorem value?_exclusionProperties (key : String) :
    (exclusionProperties exclusion).value? key =
      if key = Property.excludedCapabilities then exclusion.filter (· != "") else none := by
  cases exclusion with
  | none =>
    change none = _
    split <;> rfl
  | some text =>
    change ((Dictionary.empty.insert Property.excludedCapabilities text).get? key).filter _ = _
    rw [Dictionary.get?_insert]
    split <;> rfl

section Connected

variable {connection : String} (named : connection ≠ "")

include named

/-- But for the connection, the properties are those by which the tool lists capabilities. -/
theorem value?_connectedProperties (key : String) :
    (connectedProperties connection exclusion).value? key =
      if key = Property.connectionName then some connection
      else (exclusionProperties exclusion).value? key := by
  have filled : (some connection).filter (· != "") = some connection := by
    rw [Option.filter_some, if_pos (bne_iff_ne.2 named)]
  rw [value?_exclusionProperties]
  cases exclusion with
  | none =>
    change ((Dictionary.empty.insert Property.connectionName connection).get? key).filter _ = _
    rw [Dictionary.get?_insert]
    split
    · exact filled
    · split <;> rfl
  | some text =>
    change (((Dictionary.empty.insert Property.connectionName connection).insert
      Property.excludedCapabilities text).get? key).filter _ = _
    rw [Dictionary.get?_insert, Dictionary.get?_insert]
    by_cases isConnection : key = Property.connectionName
    · have different : ¬ Property.connectionName = Property.excludedCapabilities := by decide
      rw [if_pos isConnection, if_pos isConnection, isConnection, if_neg different]
      exact filled
    · rw [if_neg isConnection, if_neg isConnection]
      split <;> rfl

theorem value?_connectedProperties_of_notMem {key : String}
    (apart : key ∉ [Property.connectionName, Property.excludedCapabilities]) :
    (connectedProperties connection exclusion).value? key = none := by
  simp only [List.mem_cons, List.not_mem_nil, or_false, not_or] at apart
  rw [value?_connectedProperties exclusion named, if_neg apart.1, value?_exclusionProperties,
    if_neg apart.2]

/-- A connection beside the exclusion does not change what is excluded. -/
theorem excludedCapabilities_connectedProperties :
    (connectedProperties connection exclusion).excludedCapabilities =
      (exclusionProperties exclusion).excludedCapabilities := by
  have different : ¬ Property.excludedCapabilities = Property.connectionName := by decide
  rw [Properties.excludedCapabilities, Properties.excludedCapabilities, Properties.entries,
    Properties.entries, value?_connectedProperties exclusion named, if_neg different]

/-- A connection beside the exclusion does not change which dialect is created.  Only the key for
the case of identifiers is looked at, and it is not among the two. -/
theorem create_connectedProperties (name : String) :
    Registry.builtin.create name (connectedProperties connection exclusion) =
      Registry.builtin.create name (exclusionProperties exclusion) := by
  apply Registry.create_builtin_congr
  rw [value?_connectedProperties exclusion named, if_neg (by decide)]

/-- No key but two is set, so nothing can be wrong with the value of any other. -/
theorem unset_connectedProperties {key : String}
    (apart : key ∉ [Property.connectionName, Property.excludedCapabilities] := by decide) :
    (connectedProperties connection exclusion).value? key = none :=
  value?_connectedProperties_of_notMem exclusion named apart

/-- The checks that all dialects share ask for a connection, and for keys that are not set. -/
theorem checkCommon_connectedProperties (dialectName : String) {supported : List String}
    (common : ∀ key ∈ Property.common, key ∈ supported) (catalogs schemas : Bool) :
    Configuration.checkCommon (connectedProperties connection exclusion) dialectName supported
      catalogs schemas = .ok () := by
  have unset := @unset_connectedProperties exclusion connection named
  have connected : (connectedProperties connection exclusion).value? Property.connectionName =
      some connection := by
    rw [value?_connectedProperties exclusion named, if_pos rfl]
  rw [Configuration.checkCommon_eq_ok_iff]
  refine ⟨?_, ⟨?_, ?_⟩, ?_, ⟨Property.defaultMaxTableCount, ?_⟩, ⟨.calculated, ?_⟩, ?_⟩
  · rw [Properties.connectionName, connected]
    rfl
  · rw [Properties.catalogName, unset]
    intro given
    cases given
  · rw [Properties.schemaName, unset]
    intro given
    cases given
  · intro key member
    have within : ∀ key ∈ [Property.connectionName, Property.excludedCapabilities],
        key ∈ Property.common := by decide
    by_contra unsupported
    have apart := mt (within key) (mt (common key) unsupported)
    rw [Properties.mem_keys_iff, unset apart] at member
    cases member
  · rw [Properties.maxTableCount, unset]
  · rw [Properties.importDataTypes, unset]
  · rw [Properties.logLevel, unset]
    intro text given
    cases given

/-- Nothing can be wrong with these properties but what they exclude.  Whether an adapter answers
under them is therefore a question to the exclusion alone. -/
theorem acceptsOtherwise_connectedProperties {dialect : Dialect} (builtin : dialect.IsBuiltin) :
    dialect.AcceptsOtherwise (connectedProperties connection exclusion) := by
  have unset := @unset_connectedProperties exclusion connection named
  constructor
  case common =>
    apply checkCommon_connectedProperties exclusion named
    intro key isCommon
    simp only [Dialect.supportedProperties, List.mem_append, isCommon, true_or]
  case ignoredErrors =>
    have ignored : (connectedProperties connection exclusion).ignoredErrors = [] := by
      rw [Properties.ignoredErrors, Properties.entries, unset]
      rfl
    rw [Configuration.checkIgnoredErrors_eq_ok_iff, ignored]
    intro name member
    cases member
  case identifierCase =>
    rw [Dialect.checkIdentifierCase_eq_ok_iff]
    intro key isKey
    -- Only PostgreSQL has a setting for the case of identifiers, and it is not set.
    have isSetting : key = Dialect.postgresqlCaseKey := by
      rcases builtin.cases with rfl | rfl | rfl | ⟨identifierCase, rfl⟩ | rfl <;> cases isKey
      rfl
    subst isSetting
    rw [unset]
    intro text given
    cases given

/-- For these properties the adapter answers with what is left of the dialect that the tool
looks up. -/
theorem negotiated_connectedProperties (name : String) (version : Option String) :
    Adapter.negotiated .builtin name version (connectedProperties connection exclusion) =
      match Registry.builtin.create name (exclusionProperties exclusion) with
      | .error error => .error error.toFault
      | .ok dialect =>
        ((Capabilities.ofEntries (exclusionProperties exclusion).excludedCapabilities).map
          dialect.capabilities.subtract).mapError ConfigurationError.toFault := by
  rw [← create_connectedProperties exclusion named]
  cases described : Registry.builtin.describe? name with
  | none =>
    rw [Adapter.negotiated_of_undescribed described, Registry.create, described]
  | some descriptor =>
    have built := Registry.create_of_described
      (Registry.wellKeyed_builtin.describe?_name described)
      (connectedProperties connection exclusion)
    have accepts := acceptsOtherwise_connectedProperties exclusion named ⟨_, _, built⟩
    have answered : Adapter.capabilities ⟨descriptor.name, .builtin, version⟩
        (connectedProperties connection exclusion) = _ := Adapter.capabilities_eq built accepts
    rw [Registry.create_of_described described, Adapter.negotiated_eq_capabilities described,
      answered, excludedCapabilities_connectedProperties _ named]

/-- The tool lists the capabilities that the adapter answers with, or fails with its fault.  It
checks nothing but the exclusions, which is enough because properties made of a connection and of
exclusions pass every other check. -/
theorem capabilityReport_of_negotiated (name : String) (version : Option String) :
    match Adapter.negotiated .builtin name version (connectedProperties connection exclusion) with
    | .ok capabilities =>
      ∃ listing : CapabilityListing,
        capabilityReport .builtin name exclusion = .ok listing.report ∧
        listing.capabilities =
          capabilities.names.mergeSort fun left right => decide (left ≤ right)
    | .error fault => capabilityReport .builtin name exclusion = .error (.fault fault) := by
  rw [negotiated_connectedProperties exclusion named, capabilityReport, listCapabilities]
  cases Registry.builtin.create name (exclusionProperties exclusion) with
  | error error => rfl
  | ok dialect =>
    cases Capabilities.ofEntries (exclusionProperties exclusion).excludedCapabilities with
    | error error => rfl
    | ok excluded => exact ⟨_, rfl, rfl⟩

end Connected

/-! ### Agreement -/

/-- What the tool finds out about schemas and capabilities is what the adapter answers.  An entry of
a property file is valid exactly if an adapter for its dialect answers with capabilities, and
otherwise it has the fault of the adapter; a report tells this of every entry of its file.  The
capabilities of a dialect are listed in order, for programs under a key of their own, and they are
those that the adapter answers with for some connection and the same exclusions, or the fault is
the same. -/
theorem checks_agree (version : Option String) :
    (∀ entry : SchemaEntry,
      match Adapter.negotiated .builtin entry.dialectName version entry.properties with
      | .ok _ =>
        entry.fault? .builtin = none ∧
        entryData .builtin entry =
          .mapping [("name", .text entry.name), ("dialect", .text entry.dialectName),
            ("valid", .bool true)]
      | .error fault =>
        entry.fault? .builtin = some fault ∧
        entryData .builtin entry =
          .mapping [("name", .text entry.name), ("dialect", .text entry.dialectName),
            ("valid", .bool false), ("error", .ofJson fault.toJson)]) ∧
    (∀ (fileName text : String) (file : PropertyFile), PropertyFile.ofText text = .ok file →
      ∃ report, (Command.validate fileName).report .builtin (some text) = .ok report ∧
        report.data.lookup "schemas" =
          some (.sequence (file.schemas.map (entryData .builtin)))) ∧
    ∀ (name connection : String) (exclusion contents : Option String), connection ≠ "" →
      match Adapter.negotiated .builtin name version
        (connectedProperties connection exclusion) with
      | .ok capabilities =>
        ∃ listing : CapabilityListing,
          (Command.capabilities name exclusion).report .builtin contents = .ok listing.report ∧
          listing.report.data.lookup "capabilities" = some (.texts listing.capabilities) ∧
          listing.capabilities.Pairwise (· ≤ ·) ∧
          listing.capabilities.Perm capabilities.names
      | .error fault =>
        (Command.capabilities name exclusion).report .builtin contents =
          .error (.fault fault) := by
  refine ⟨?_, ?_, ?_⟩
  · intro entry
    have faulty := entry.fault?_of_negotiated Registry.wellKeyed_builtin version
    split
    next capabilities answered =>
      rw [answered] at faulty
      refine ⟨faulty, ?_⟩
      rw [entryData, faulty]
      rfl
    next fault failed =>
      rw [failed] at faulty
      refine ⟨faulty, ?_⟩
      rw [entryData, faulty]
      rfl
  · intro fileName text file isFile
    exact ⟨_, Command.report_validate .builtin fileName isFile, rfl⟩
  · intro name connection exclusion contents named
    have reported := capabilityReport_of_negotiated exclusion named name version
    split
    next capabilities answered =>
      rw [answered] at reported
      obtain ⟨listing, lists, sorted⟩ := reported
      refine ⟨listing, lists, rfl, ?_, ?_⟩
      · rw [sorted]
        exact List.pairwise_mergeSort' (· ≤ ·) capabilities.names
      · rw [sorted]
        exact List.mergeSort_perm capabilities.names _
    next fault failed =>
      rw [failed] at reported
      exact reported

/-- Capabilities of Oracle are listed without the excluded ones, as the adapter tells them, and a
schema without a connection is told of. -/
theorem checks_agree_oracle :
    (∃ listing : CapabilityListing,
      (Command.capabilities "oracle" (some " LIMIT ,FN_PRED_LIKE")).report .builtin none =
        .ok listing.report ∧
      listing.report.data.lookup "capabilities" = some (.texts listing.capabilities) ∧
      listing.capabilities.Pairwise (· ≤ ·)) ∧
    ∃ (file : PropertyFile) (report : Report),
      (Command.validate "f.yaml").report .builtin
        (some "schemas:\n  - name: A\n    dialect: GENERIC\n") = .ok report ∧
      report.data.lookup "schemas" = some (.sequence (file.schemas.map (entryData .builtin))) := by
  obtain ⟨-, files, listings⟩ := checks_agree none
  constructor
  · have agrees := listings "oracle" "C" (some " LIMIT ,FN_PRED_LIKE") none (by decide)
    have answered : (Adapter.negotiated .builtin "oracle" none
        (connectedProperties "C" (some " LIMIT ,FN_PRED_LIKE"))).toBool = true := by
      decide +kernel
    split at agrees
    next =>
      obtain ⟨listing, lists, told, ascending, -⟩ := agrees
      exact ⟨listing, lists, told, ascending⟩
    next fault failed =>
      rw [failed] at answered
      cases answered
  · have parsed : (PropertyFile.ofText
        "schemas:\n  - name: A\n    dialect: GENERIC\n").toBool = true := by decide +kernel
    cases isFile : PropertyFile.ofText "schemas:\n  - name: A\n    dialect: GENERIC\n" with
    | ok file => exact ⟨file, files "f.yaml" _ file isFile⟩
    | error error =>
      rw [isFile] at parsed
      cases parsed

end Cli

end Pushdown
