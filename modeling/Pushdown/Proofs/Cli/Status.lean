/-
Module: Pushdown.Proofs.Cli.Status
Purpose: Which entries of a property file are in order, and that how a run ends depends on its
  command alone, not on the output format.
Main exports: SchemaEntry.Sound, SchemaEntry.check_eq_ok_iff, Cli.Command.status,
  Cli.Invocation.status_perform, Cli.Arguments.scan_formatted,
  Cli.Request.command?_ofWords_output, Cli.status_run, Cli.status_agrees
-/
import Pushdown.Proofs.Cli.Envelope
import Pushdown.Proofs.Dialect
import Pushdown.Proofs.Fault
import Pushdown.PropertyFile

namespace Pushdown

/-! ## Entries of property files -/

/-!
An entry is in order if its dialect is registered and accepts its properties.  Whatever else is
wrong with a property file or with one of its entries is a fault of the configuration.
-/

namespace SchemaEntry

variable (registry : Registry) (entry : SchemaEntry)

/-- Whether the dialect of an entry is registered and accepts its properties. -/
def Sound : Prop :=
  ∃ descriptor, registry.describe? entry.dialectName = some descriptor ∧
    (descriptor.build entry.properties).Accepts entry.properties

/-- An entry is checked by the dialect that its name leads to.  The properties by which the dialect
was built are the ones that it checks. -/
theorem check_of_described {registry : Registry} {entry : SchemaEntry} {descriptor : Descriptor}
    (described : registry.describe? entry.dialectName = some descriptor) :
    entry.check registry = (descriptor.build entry.properties).validate entry.properties := by
  rw [check, Registry.create, described]
  rfl

/-- An entry with an unknown dialect is rejected for that. -/
theorem check_of_undescribed {registry : Registry} {entry : SchemaEntry}
    (undescribed : registry.describe? entry.dialectName = none) :
    entry.check registry = .error (registry.unknown entry.dialectName) := by
  rw [check, Registry.create, undescribed]
  rfl

/-- An entry passes its check exactly if it is sound.  The check is that of the adapter, made
without an adapter. -/
theorem check_eq_ok_iff : entry.check registry = .ok () ↔ entry.Sound registry := by
  unfold Sound
  cases described : registry.describe? entry.dialectName with
  | none =>
    rw [check_of_undescribed described]
    apply iff_of_false
    · nofun
    · rintro ⟨descriptor, found, -⟩
      cases found
  | some descriptor =>
    rw [check_of_described described, Dialect.validate_eq_ok_iff]
    constructor
    · intro accepts
      exact ⟨descriptor, rfl, accepts⟩
    · rintro ⟨_, same, accepts⟩
      cases same
      exact accepts

/-- An entry has no fault exactly if it is sound.  Soundness is said without running the checks, so
the status of a file can be told from its contents. -/
theorem fault?_eq_none_iff : entry.fault? registry = none ↔ entry.Sound registry := by
  rw [← check_eq_ok_iff, fault?]
  split
  next passed => exact iff_of_true rfl passed
  next error failed =>
    rw [failed]
    exact iff_of_false nofun nofun

variable {registry entry}

/-- Faults of entries are faults of the configuration, whatever they are.  This is why one status is
enough for every file that is read but not in order. -/
theorem category_of_fault? {fault : Fault} (faulty : entry.fault? registry = some fault) :
    fault.category = .config := by
  unfold fault? at faulty
  split at faulty
  next => cases faulty
  next error _ =>
    cases faulty
    exact error.category_toFault

end SchemaEntry

/-- A text that is no property file is a fault of the configuration as well. -/
theorem PropertyFile.Error.category_toFault (error : PropertyFile.Error) :
    error.toFault.category = .config := by
  change Fault.Code.invalidYaml.category = .config
  rfl

namespace Cli

/-! ## Runs of the tool -/

/-!
For people, a run that blames something ends in the status of the fault that it blames; for
programs it ends in a fixed status.  The two agree because all that a report can blame are faults of
the configuration.  On the command line the format is the value of an option, and only the format
depends on that value: whether the words are understood, and which command they name, does not.
-/

/-! ### Outcomes -/

namespace Outcome

theorem status_ofFailure (format : OutputFormat) (failure : Failure) :
    (ofFailure format failure).status = failure.status := by
  cases format <;> rfl

/-- The formats agree on the status of a report that blames the configuration only.  For people the
status is that of the fault, and for programs it is always the same, so no other category may
occur. -/
theorem status_ofReport (format : OutputFormat) {report : Report}
    (blames : ∀ fault ∈ report.blamed, fault.category = .config) :
    (ofReport format report).status =
      if report.blamed.isNone then .success else .configuration := by
  unfold ofReport
  cases blamed : report.blamed with
  | none => cases format <;> rfl
  | some fault =>
    have status : ExitStatus.ofFault fault = .configuration := by
      rw [ExitStatus.ofFault, blames fault blamed]
      rfl
    cases format with
    | human => exact status
    | json | yaml => rfl

end Outcome

/-! ### Commands -/

namespace Command

/-- How a command ends, whoever its output is made for. -/
def status (registry : Registry) (contents : Option String) (command : Command) : ExitStatus :=
  match command.report registry contents with
  | .ok report => if report.blamed.isNone then .success else .configuration
  | .error failure => failure.status

/-- A report blames nothing but the configuration. -/
theorem category_of_blamed {registry : Registry} {contents : Option String} {command : Command}
    {report : Report} (reported : command.report registry contents = .ok report) {fault : Fault}
    (blamed : report.blamed = some fault) : fault.category = .config := by
  rcases report_cases reported with ⟨-, unblamed, -⟩ | ⟨fileName, text, file, -, -, -, rfl⟩
  · rw [unblamed] at blamed
    cases blamed
  · obtain ⟨entry, -, faulty⟩ := List.exists_of_findSome?_eq_some blamed
    exact SchemaEntry.category_of_fault? faulty

/-! ### Checks of property files -/

variable (registry : Registry) (fileName : String)

/-- A text that is no property file ends in the status for configurations. -/
theorem status_validate_of_malformed {text : String} {error : PropertyFile.Error}
    (malformed : PropertyFile.ofText text = .error error) :
    (validate fileName).status registry (some text) = .configuration := by
  have reported : (validate fileName).report registry (some text) =
      .error (.fault error.toFault) := by
    change validationReport registry fileName (some text) = _
    simp only [validationReport, malformed]
  rw [status, reported]
  change ExitStatus.ofCategory error.toFault.category = _
  rw [error.category_toFault]
  rfl

/-- A file ends well exactly if all of its schemas are in order.  Otherwise the first fault decides,
and its category is always the same. -/
theorem status_validate_of_file {text : String} {file : PropertyFile}
    (isFile : PropertyFile.ofText text = .ok file) :
    ((∀ entry ∈ file.schemas, entry.Sound registry) →
      (validate fileName).status registry (some text) = .success) ∧
    ((∃ entry ∈ file.schemas, ¬ entry.Sound registry) →
      (validate fileName).status registry (some text) = .configuration) := by
  have unblamed : (propertyFileReport registry fileName file).blamed = none ↔
      ∀ entry ∈ file.schemas, entry.Sound registry := by
    change file.schemas.findSome? (SchemaEntry.fault? registry) = none ↔ _
    simp only [List.findSome?_eq_none_iff, SchemaEntry.fault?_eq_none_iff]
  have ends : (validate fileName).status registry (some text) =
      if (propertyFileReport registry fileName file).blamed.isNone then .success
      else .configuration := by
    rw [status, report_validate registry fileName isFile]
  rw [ends]
  constructor
  · intro sound
    rw [unblamed.2 sound]
    rfl
  · rintro ⟨entry, member, unsound⟩
    apply if_neg
    rw [Option.isNone_iff_eq_none, unblamed]
    intro sound
    exact unsound (sound entry member)

/-- Checking a property file succeeds exactly if the file is read, and all that it lists is in
order. -/
theorem code_status_validate_eq_zero_iff (contents : Option String) :
    ((validate fileName).status registry contents).code = 0 ↔
      ∃ text file, contents = some text ∧ PropertyFile.ofText text = .ok file ∧
        ∀ entry ∈ file.schemas, entry.Sound registry := by
  constructor
  · intro succeeded
    cases contents with
    | none => cases succeeded
    | some text =>
      cases isFile : PropertyFile.ofText text with
      | error error =>
        rw [status_validate_of_malformed registry fileName isFile] at succeeded
        cases succeeded
      | ok file =>
        refine ⟨text, file, rfl, isFile, ?_⟩
        by_contra unsound
        simp only [not_forall, exists_prop] at unsound
        rw [(status_validate_of_file registry fileName isFile).2 unsound] at succeeded
        cases succeeded
  · rintro ⟨text, file, rfl, isFile, sound⟩
    rw [(status_validate_of_file registry fileName isFile).1 sound]
    rfl

/-- The configuration is to blame exactly if the file is read, but is no property file or lists
something that is not in order. -/
theorem status_validate_eq_configuration_iff (contents : Option String) :
    (validate fileName).status registry contents = .configuration ↔
      ∃ text, contents = some text ∧
        ∀ file, PropertyFile.ofText text = .ok file →
          ∃ entry ∈ file.schemas, ¬ entry.Sound registry := by
  constructor
  · intro blamed
    cases contents with
    | none => cases blamed
    | some text =>
      refine ⟨text, rfl, ?_⟩
      intro file isFile
      by_contra sound
      simp only [not_exists, not_and, not_not] at sound
      rw [(status_validate_of_file registry fileName isFile).1 sound] at blamed
      cases blamed
  · rintro ⟨text, rfl, unsound⟩
    cases isFile : PropertyFile.ofText text with
    | error error => exact status_validate_of_malformed registry fileName isFile
    | ok file => exact (status_validate_of_file registry fileName isFile).2 (unsound file isFile)

end Command

/-- Whoever the output is made for, an invocation ends as its command does, because reports blame
nothing but the configuration. -/
theorem Invocation.status_perform (registry : Registry) (invocation : Invocation)
    (contents : Option String) :
    (invocation.perform registry contents).status =
      invocation.command.status registry contents := by
  unfold perform Command.status
  cases reported : invocation.command.report registry contents with
  | ok report =>
    apply Outcome.status_ofReport
    intro fault blamed
    exact Command.category_of_blamed reported blamed
  | error failure => exact Outcome.status_ofFailure invocation.format failure

/-! ### Command lines -/

namespace Arguments

/-- Arguments with an output format before all other options. -/
def formatted (format : OutputFormat) (arguments : Arguments) : Arguments :=
  { arguments with options := (outputOption, format.name) :: arguments.options }

/-- Whether an option can be added does not depend on which format stands before it.  A second
format is refused in either case. -/
theorem addOption_formatted (arguments : Arguments) (added text : String) :
    ∃ outcome : Except UsageError Arguments, ∀ format : OutputFormat,
      (arguments.formatted format).addOption added text = outcome.map (formatted format) := by
  by_cases again : added = outputOption
  · refine ⟨.error (.repeatedOption added), ?_⟩
    intro format
    simp [addOption, formatted, again, Except.map]
  · refine ⟨arguments.addOption added text, ?_⟩
    intro format
    have same : (arguments.formatted format).options.lookup added =
        arguments.options.lookup added := by
      have unlike : (added == outputOption) = false := beq_eq_false_iff_ne.2 again
      rw [formatted, List.lookup_cons, unlike]
    rw [addOption, addOption, same]
    split <;> rfl

/-- Every format is a value that fits, so the first one that does not is among the others. -/
theorem misfit?_formatted (format : OutputFormat) (arguments : Arguments) :
    (arguments.formatted format).misfit? commonOptions = arguments.misfit? commonOptions := by
  cases format <;> rfl

end Arguments

/-- What was scanned, with an output format before all other options. -/
def Scanned.formatted (format : OutputFormat) : Scanned → Scanned
  | .help => .help
  | .arguments cut rest => .arguments (cut.formatted format) rest

namespace Arguments

/-- Nor does what follows on an option that was added, if nothing later depends on the format. -/
theorem addOption_formatted_then (arguments : Arguments) (added text : String)
    {next : Arguments → Except UsageError Scanned}
    (alike : ∀ arguments : Arguments, ∃ outcome : Except UsageError Scanned, ∀ format,
      next (arguments.formatted format) = outcome.map (Scanned.formatted format)) :
    ∃ outcome : Except UsageError Scanned, ∀ format,
      (match (arguments.formatted format).addOption added text with
        | .ok arguments => next arguments
        | .error error => .error error) = outcome.map (Scanned.formatted format) := by
  obtain ⟨outcome, same⟩ := addOption_formatted arguments added text
  simp only [same]
  cases outcome with
  | ok arguments => exact alike arguments
  | error error => exact ⟨.error error, fun _ => rfl⟩

/-- Which format stands first does not matter for how the words after it are cut: the format is put
away before any other word is looked at, and nothing later reads it. -/
theorem scan_formatted (isLeading : Bool) (arguments : Arguments) (pending : Option OptionForm)
    (words : List String) :
    ∃ outcome : Except UsageError Scanned, ∀ format,
      scan commonOptions isLeading (arguments.formatted format) pending words =
        outcome.map (Scanned.formatted format) := by
  induction words generalizing arguments pending with
  | nil =>
    cases pending with
    | none => exact ⟨.ok (.arguments arguments []), fun _ => rfl⟩
    | some form => exact ⟨.error (.missingValue form.name), fun _ => rfl⟩
  | cons word rest inductionHypothesis =>
    cases pending with
    | some form =>
      simp only [scan]
      split
      · exact addOption_formatted_then arguments form.name word (inductionHypothesis · none)
      · exact ⟨.error (.missingValue form.name), fun _ => rfl⟩
    | none =>
      -- The word is the command, ends the options, asks for help, is an option or an operand.
      simp only [scan, misfit?_formatted]
      split
      · exact ⟨.ok (.arguments arguments (word :: rest)), fun _ => rfl⟩
      · split
        next error _ => exact ⟨.error error, fun _ => rfl⟩
        next =>
          split
          · exact ⟨.ok (.arguments (arguments.addOperands rest) []), fun _ => rfl⟩
          · split
            · exact ⟨.ok .help, fun _ => rfl⟩
            · split
              next added value _ =>
                split
                · exact ⟨.error (.unexpectedWord word), fun _ => rfl⟩
                next form _ _ => exact inductionHypothesis arguments (some form)
                next text _ _ =>
                  split
                  · exact addOption_formatted_then arguments added text
                      (inductionHypothesis · none)
                  · exact ⟨.error (.invalidValue added text), fun _ => rfl⟩
              next =>
                split
                · exact ⟨.error (.unexpectedWord word), fun _ => rfl⟩
                · exact inductionHypothesis (arguments.addOperands [word]) none

theorem format?_formatted (format : OutputFormat) (arguments : Arguments) :
    (arguments.formatted format).format? = .ok (some format) := by
  cases format <;> rfl

/-- The format in front of a command line is read before all other words. -/
theorem readLeading_output (format : OutputFormat) (words : List String) :
    readLeading commonOptions ("--output" :: format.name :: words) =
      scan commonOptions true (formatted format {}) none words := by
  cases format <;> rfl

end Arguments

namespace Request

/-- The command that a request names. -/
def command? : Request → Option Command
  | .help => none
  | .run invocation => some invocation.command

/-- Which command the words name, and whether they are understood, does not depend on the format. -/
theorem command?_ofCommandWords (leading : Arguments) (name : String) (words : List String) :
    ∃ asked : Except UsageError (Option Command), ∀ format : OutputFormat,
      (ofCommandWords (leading.formatted format) name words).map command? = asked := by
  unfold ofCommandWords
  simp only [Arguments.format?_formatted]
  cases Arguments.read (commonOptions ++ optionsOf name) words with
  | error error => exact ⟨.error error, fun _ => rfl⟩
  | ok scanned =>
    cases scanned with
    | help => exact ⟨.ok none, fun _ => rfl⟩
    | arguments arguments rest =>
      refine ⟨arguments.format? >>= fun _ => (Command.ofArguments name arguments).map some, ?_⟩
      intro format
      change Except.map command? (arguments.format? >>= fun _ => _) = _
      cases arguments.format? with
      | error error => rfl
      | ok own => cases Command.ofArguments name arguments <;> rfl

/-- The options that stand before the command are followed by the command and its words. -/
theorem ofWords_of_leading {words : List String} {leading : Arguments} {rest : List String} :
    Arguments.readLeading commonOptions words = .ok (.arguments leading rest) →
      ofWords words =
        match leading.operands, rest with
        | word :: _, _ => .error (.unexpectedWord word)
        | [], [] => .error .missingCommand
        | [], name :: words =>
          if name = "help" then ofHelpWords words
          else if commandNames.contains name then ofCommandWords leading name words
          else .error (.unknownCommand name) := by
  intro cut
  rw [ofWords, cut]
  rfl

/-- The command that is named does not depend on the output format that is asked for, and neither
does whether the words are understood at all. -/
theorem command?_ofWords_output (words : List String) :
    ∃ asked : Except UsageError (Option Command), ∀ format : OutputFormat,
      (ofWords ("--output" :: format.name :: words)).map command? = asked := by
  obtain ⟨outcome, same⟩ := Arguments.scan_formatted true {} none words
  have cut (format : OutputFormat) :
      Arguments.readLeading commonOptions ("--output" :: format.name :: words) =
        outcome.map (Scanned.formatted format) := by
    rw [Arguments.readLeading_output, same]
  cases outcome with
  | error error =>
    refine ⟨.error error, ?_⟩
    intro format
    rw [ofWords, cut]
    rfl
  | ok scanned =>
    cases scanned with
    | help =>
      refine ⟨.ok none, ?_⟩
      intro format
      rw [ofWords, cut]
      rfl
    | arguments leading rest =>
      have asks (format : OutputFormat) := ofWords_of_leading (cut format)
      simp only [asks, Arguments.formatted]
      split
      next word _ _ => exact ⟨.error (.unexpectedWord word), fun _ => rfl⟩
      next => exact ⟨.error .missingCommand, fun _ => rfl⟩
      next name words _ =>
        split
        · exact ⟨(ofHelpWords words).map command?, fun _ => rfl⟩
        · split
          · exact command?_ofCommandWords leading name words
          · exact ⟨.error (.unknownCommand name), fun _ => rfl⟩

end Request

/-! ### Runs -/

/-- How a run ends depends on the command that is named, and on what its file holds, but on nothing
else of the words. -/
theorem status_run (surroundings : Surroundings) (words : List String) :
    (run surroundings words).status =
      match (Request.ofWords words).map Request.command? with
      | .error _ => .usage
      | .ok none => .success
      | .ok (some command) =>
        command.status .builtin (command.fileName?.bind surroundings.contents) := by
  rw [run]
  cases Request.ofWords words with
  | error error => rfl
  | ok request =>
    cases request with
    | help => rfl
    | run invocation => exact invocation.status_perform .builtin _

/-- How a run ends does not depend on the output format.  Checking a property file succeeds exactly
if the file is read and every schema that it lists has a registered dialect that accepts its
properties; the configuration is to blame exactly if the file is read and is no property file or
lists another schema. -/
theorem status_agrees (surroundings : Surroundings) :
    (∀ (words : List String) (format other : OutputFormat),
      (run surroundings ("--output" :: format.name :: words)).status =
        (run surroundings ("--output" :: other.name :: words)).status) ∧
    (∀ (words otherWords : List String) (invocation other : Invocation),
      Request.ofWords words = .ok (.run invocation) →
      Request.ofWords otherWords = .ok (.run other) → invocation.command = other.command →
      (run surroundings words).status = (run surroundings otherWords).status) ∧
    ∀ (words : List String) (invocation : Invocation) (fileName : String),
      Request.ofWords words = .ok (.run invocation) → invocation.command = .validate fileName →
      ((run surroundings words).status.code = 0 ↔
        ∃ text file, surroundings.contents fileName = some text ∧
          PropertyFile.ofText text = .ok file ∧ ∀ entry ∈ file.schemas, entry.Sound .builtin) ∧
      ((run surroundings words).status = .configuration ↔
        ∃ text, surroundings.contents fileName = some text ∧
          ∀ file, PropertyFile.ofText text = .ok file →
            ∃ entry ∈ file.schemas, ¬ entry.Sound .builtin) := by
  have ends {words : List String} {invocation : Invocation}
      (asked : Request.ofWords words = .ok (.run invocation)) :
      (run surroundings words).status = invocation.command.status .builtin
        (invocation.command.fileName?.bind surroundings.contents) := by
    rw [status_run, asked]
    rfl
  refine ⟨?_, ?_, ?_⟩
  · intro words format other
    obtain ⟨asked, same⟩ := Request.command?_ofWords_output words
    rw [status_run, status_run, same format, same other]
  · intro words otherWords invocation other asked otherAsked sameCommand
    rw [ends asked, ends otherAsked, sameCommand]
  · intro words invocation fileName asked isValidation
    rw [ends asked, isValidation]
    exact ⟨Command.code_status_validate_eq_zero_iff .builtin fileName _,
      Command.status_validate_eq_configuration_iff .builtin fileName _⟩

/-- A schema without a connection is blamed on the configuration, for programs and for people
alike. -/
theorem status_agrees_unconnected :
    (run unconnected ["--output", "json", "validate", "f.yaml"]).status = .configuration ∧
      (run unconnected ["--output", "human", "validate", "f.yaml"]).status = .configuration := by
  obtain ⟨anyFormat, -, checked⟩ := status_agrees unconnected
  have asked : Request.ofWords ["--output", "json", "validate", "f.yaml"] =
      .ok (.run checkUnconnected) := rfl
  obtain ⟨fileName, text, file, isValidation, read, isFile, entry, member, error, refused⟩ :=
    checkUnconnected_faulty
  have unsound : ¬ entry.Sound .builtin := by
    rw [← SchemaEntry.check_eq_ok_iff, refused]
    nofun
  have blamed : (run unconnected ["--output", "json", "validate", "f.yaml"]).status =
      .configuration := by
    apply (checked _ checkUnconnected fileName asked isValidation).2.2
    refine ⟨text, read, ?_⟩
    intro other isOther
    cases isFile.symm.trans isOther
    exact ⟨entry, member, unsound⟩
  exact ⟨blamed, (anyFormat ["validate", "f.yaml"] .human .json).trans blamed⟩

end Cli

end Pushdown
