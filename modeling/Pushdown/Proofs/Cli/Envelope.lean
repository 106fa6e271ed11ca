/-
Module: Pushdown.Proofs.Cli.Envelope
Purpose: Whether what the command line tool prints for programs agrees with how it ends.
Main exports: Cli.Envelope.Truthful, Cli.Outcome.truthful_ofReport_iff,
  Cli.Command.blamed_eq_none_iff, Cli.run_truthful_iff
-/
import Mathlib.Data.List.Nodup
import Pushdown.Cli.Run

namespace Pushdown.Cli

/-!
A run for programs prints one record, which has an entry for the exit status and one that tells of
success or of an error, besides the data.  How the run ends is found elsewhere: a failure ends in
the status that its record names, and so does a report with nothing to blame.  Where a report
blames something, the record tells of a success all the same.
-/

/-! ### Records -/

namespace Envelope

/-- The entries of the record that is printed for an envelope. -/
def entries (envelope : Envelope) : List (String × Yaml.Value) :=
  [("status", .text (if envelope.isSuccess then "success" else "error"))] ++
    (match envelope.message with
      | some message => [("message", .text message)]
      | none => []) ++
    [("exit_code", .natural envelope.exitCode)] ++ envelope.data

/-- The record that is printed has these entries in this order. -/
theorem toValue_eq (envelope : Envelope) : envelope.toValue = .mapping envelope.entries := rfl

theorem lookup_exit_code (envelope : Envelope) :
    envelope.entries.lookup "exit_code" = some (.natural envelope.exitCode) := by
  unfold entries
  cases envelope.message <;> rfl

theorem lookup_status (envelope : Envelope) :
    envelope.entries.lookup "status" =
      some (.text (if envelope.isSuccess then "success" else "error")) := rfl

/-- No entry hides another if the keys of the data are different from each other and from the fixed
ones. -/
theorem nodup_keys {envelope : Envelope}
    (apart : (["status", "message", "exit_code"] ++ envelope.data.map Prod.fst).Nodup) :
    (envelope.entries.map Prod.fst).Nodup := by
  refine List.Nodup.sublist ?_ apart
  unfold entries
  cases envelope.message <;> simp

/-- Whether what an envelope says of the exit status and of success is so. -/
structure Truthful (envelope : Envelope) (status : ExitStatus) : Prop where
  exitCode : envelope.entries.lookup "exit_code" = some (.natural status.code)
  success : envelope.entries.lookup "status" = some (.text "success") ↔ status.code = 0

/-- An envelope is truthful if both of its entries on the outcome are right.  It suffices to look at
its flag and its number; no other entry is compared with the outcome. -/
theorem truthful_iff {envelope : Envelope} {status : ExitStatus} :
    envelope.Truthful status ↔
      envelope.exitCode = status.code ∧ (envelope.isSuccess ↔ status.code = 0) := by
  have code : envelope.entries.lookup "exit_code" = some (.natural status.code) ↔
      envelope.exitCode = status.code := by
    rw [lookup_exit_code]
    simp only [Yaml.Value.natural, Option.some.injEq, Yaml.Value.number.injEq,
      Json.Number.whole.injEq, Int.natCast_inj]
  have success : envelope.entries.lookup "status" = some (.text "success") ↔
      envelope.isSuccess := by
    rw [lookup_status]
    cases envelope.isSuccess <;> simp
  rw [← code, ← success]
  exact ⟨fun truthful => ⟨truthful.exitCode, truthful.success⟩,
    fun ⟨exitCode, success⟩ => ⟨exitCode, success⟩⟩

end Envelope

/-! ### Outcomes -/

/-- No failure ends like a success. -/
theorem Failure.code_status_ne_zero (failure : Failure) : failure.status.code ≠ 0 := by
  cases failure with
  | fault cause =>
    rw [status, ExitStatus.ofFault]
    cases cause.category <;> decide
  | unreadableFile name => exact Nat.succ_ne_zero _

namespace Outcome

variable {format : OutputFormat} (forPrograms : format ≠ .human)

include forPrograms

/-- The envelope of a failure tells the truth.  Only reports can be at odds with their envelope, so
they are all that is left to look at. -/
theorem truthful_ofFailure (failure : Failure) :
    ∃ envelope, (ofFailure format failure).envelope = some envelope ∧
      (ofFailure format failure).lines = [] ∧ envelope.data = failure.data ∧
      envelope.Truthful (ofFailure format failure).status := by
  have outcome : ofFailure format failure =
      { status := failure.status
        envelope := some (.error failure.message failure.status failure.data) } := by
    cases format with
    | human => exact absurd rfl forPrograms
    | json | yaml => rfl
  rw [outcome]
  refine ⟨_, rfl, rfl, rfl, Envelope.truthful_iff.2 ⟨rfl, ?_⟩⟩
  exact iff_of_false nofun failure.code_status_ne_zero

/-- The envelope of a report tells the truth exactly if the report blames nothing: it speaks of a
success in any case, while the status is that of the blamed fault. -/
theorem truthful_ofReport_iff (report : Report) :
    ∃ envelope, (ofReport format report).envelope = some envelope ∧
      (ofReport format report).lines = [] ∧ envelope.data = report.data ∧
      (envelope.Truthful (ofReport format report).status ↔ report.blamed = none) := by
  cases blamed : report.blamed with
  | none =>
    have outcome : ofReport format report =
        { status := .success, envelope := some (.success report.data) } := by
      cases format with
      | human => exact absurd rfl forPrograms
      | json | yaml => simp only [ofReport, blamed]
    rw [outcome]
    refine ⟨_, rfl, rfl, rfl, iff_of_true (Envelope.truthful_iff.2 ⟨rfl, ?_⟩) rfl⟩
    exact iff_of_true rfl rfl
  | some fault =>
    have outcome : ofReport format report =
        { status := .configuration, envelope := some (.success report.data) } := by
      cases format with
      | human => exact absurd rfl forPrograms
      | json | yaml => simp only [ofReport, blamed]
    rw [outcome]
    refine ⟨_, rfl, rfl, rfl, iff_of_false (fun truthful => ?_) nofun⟩
    cases (Envelope.truthful_iff.1 truthful).1

/-- Where nothing is printed for people, the output is the envelope on lines of its own. -/
theorem output_of_envelope {outcome : Outcome} {envelope : Envelope}
    (told : outcome.envelope = some envelope) (unsaid : outcome.lines = []) :
    ∃ text, envelope.render? format = some text ∧ outcome.output format = text ++ "\n" := by
  have rendered : ∃ text, envelope.render? format = some text := by
    cases format with
    | human => exact absurd rfl forPrograms
    | json | yaml => exact ⟨_, rfl⟩
  obtain ⟨text, rendered⟩ := rendered
  refine ⟨text, rendered, ?_⟩
  rw [output, told, unsaid, Option.bind_some, rendered]
  simp [unlines]

end Outcome

/-! ### Commands -/

namespace Command

variable {registry : Registry} {command : Command} {report : Report}

/-- A property file that has been read is reported on. -/
theorem report_validate (registry : Registry) (fileName : String) {text : String}
    {file : PropertyFile} (isFile : PropertyFile.ofText text = .ok file) :
    (validate fileName).report registry (some text) =
      .ok (propertyFileReport registry fileName file) := by
  change validationReport registry fileName (some text) = _
  simp only [validationReport, isFile]

/-- A report is about a property file that has been read, or it blames nothing.  Every fact about
reports that blame something is thereby one about property files. -/
theorem report_cases {contents : Option String}
    (reported : command.report registry contents = .ok report) :
    (command.fileName? = none ∧ report.blamed = none ∧
      report.data.map Prod.fst ∈
        [["dialects"], ["dialect", "capabilities", "excluded"],
         ["dialect", "remote", "mapped", "supported"]]) ∨
      ∃ fileName text file, command = .validate fileName ∧ contents = some text ∧
        PropertyFile.ofText text = .ok file ∧
        report = propertyFileReport registry fileName file := by
  cases command with
  | dialects =>
    cases reported
    exact .inl ⟨rfl, rfl, .head _⟩
  | capabilities dialectName exclusion =>
    change capabilityReport registry dialectName exclusion = _ at reported
    unfold capabilityReport at reported
    split at reported
    · cases reported
      exact .inl ⟨rfl, rfl, .tail _ (.head _)⟩
    · cases reported
  | mapType request =>
    change mappingReport registry request = _ at reported
    unfold mappingReport at reported
    split at reported
    · cases reported
    · cases reported
      exact .inl ⟨rfl, rfl, .tail _ (.tail _ (.head _))⟩
  | validate fileName =>
    change validationReport registry fileName contents = _ at reported
    unfold validationReport at reported
    split at reported
    next => cases reported
    next text =>
      split at reported
      next => cases reported
      next file isFile =>
        cases reported
        exact .inr ⟨fileName, text, file, rfl, rfl, isFile, rfl⟩

/-- The data of a report stand under keys of their own. -/
theorem nodup_report_keys {contents : Option String}
    (reported : command.report registry contents = .ok report) :
    (["status", "message", "exit_code"] ++ report.data.map Prod.fst).Nodup := by
  rcases report_cases reported with ⟨-, -, keys⟩ | ⟨fileName, text, file, -, -, -, rfl⟩
  · have each : ∀ keys ∈ [["dialects"], ["dialect", "capabilities", "excluded"],
        ["dialect", "remote", "mapped", "supported"]],
        (["status", "message", "exit_code"] ++ keys).Nodup := by decide
    exact each _ keys
  · exact (by decide : (["status", "message", "exit_code"] ++ ["valid", "schemas"]).Nodup)

/-- A command is faulty if it checks a property file with a schema that is not in order. -/
def Faulty (registry : Registry) (contents : String → Option String) (command : Command) : Prop :=
  ∃ fileName text file, command = .validate fileName ∧ contents fileName = some text ∧
    PropertyFile.ofText text = .ok file ∧
    ∃ entry ∈ file.schemas, ∃ error, entry.check registry = .error error

variable {contents : String → Option String}

/-- A file is to blame exactly if one of its entries is.  The first of them is the one that is
reported as the reason. -/
theorem blamed_isSome_iff (registry : Registry) (fileName : String) (file : PropertyFile) :
    (propertyFileReport registry fileName file).blamed.isSome ↔
      ∃ entry ∈ file.schemas, ∃ error, entry.check registry = .error error := by
  have faulty (entry : SchemaEntry) : (entry.fault? registry).isSome ↔
      ∃ error, entry.check registry = .error error := by
    unfold SchemaEntry.fault?
    cases entry.check registry <;> simp
  simp only [propertyFileReport, List.isSome_findSome?, List.any_eq_true, faulty]

/-- A report blames something exactly if its command is faulty, that is, if it checks a file one of
whose schemas has a rejected entry. -/
theorem blamed_eq_none_iff
    (reported : command.report registry (command.fileName?.bind contents) = .ok report) :
    report.blamed = none ↔ ¬ command.Faulty registry contents := by
  rcases report_cases reported with
    ⟨noFile, unblamed, -⟩ | ⟨fileName, text, file, rfl, read, isFile, rfl⟩
  · refine iff_of_true unblamed ?_
    rintro ⟨fileName, text, file, rfl, -⟩
    cases noFile
  · change contents fileName = some text at read
    rw [← Option.not_isSome_iff_eq_none, blamed_isSome_iff, not_iff_not]
    constructor
    · exact fun faulty => ⟨fileName, text, file, rfl, read, isFile, faulty⟩
    · rintro ⟨_, text', file', same, read', isFile', faulty⟩
      cases same
      cases read.symm.trans read'
      cases isFile.symm.trans isFile'
      exact faulty

/-- A faulty command has a report. -/
theorem not_faulty_of_failure {failure : Failure}
    (failed : command.report registry (command.fileName?.bind contents) = .error failure) :
    ¬ command.Faulty registry contents := by
  rintro ⟨fileName, text, file, rfl, read, isFile, -⟩
  change (validate fileName).report registry (contents fileName) = _ at failed
  rw [read, report_validate registry fileName isFile] at failed
  cases failed

end Command

/-! ### Runs -/

/-- The data of a failure has keys of its own. -/
theorem Failure.nodup_keys (failure : Failure) :
    (["status", "message", "exit_code"] ++ failure.data.map Prod.fst).Nodup := by
  cases failure with
  | fault cause => exact (by decide : (["status", "message", "exit_code"] ++ ["error"]).Nodup)
  | unreadableFile name => exact (by decide : ["status", "message", "exit_code"].Nodup)

/-- Whatever a command comes to, programs are told in one envelope, which tells the truth exactly
if the command is not faulty. -/
theorem Invocation.truthful_perform_iff {registry : Registry} {contents : String → Option String}
    {invocation : Invocation} (forPrograms : invocation.format ≠ .human) {outcome : Outcome}
    (performed : invocation.perform registry (invocation.command.fileName?.bind contents) =
      outcome) :
    ∃ envelope, outcome.envelope = some envelope ∧ outcome.lines = [] ∧
      (envelope.entries.map Prod.fst).Nodup ∧
      (envelope.Truthful outcome.status ↔ ¬ invocation.command.Faulty registry contents) := by
  unfold perform at performed
  split at performed
  next report reported =>
    obtain ⟨envelope, told, unsaid, data, truthful⟩ :=
      Outcome.truthful_ofReport_iff forPrograms report
    rw [performed] at told unsaid truthful
    refine ⟨envelope, told, unsaid, Envelope.nodup_keys ?_,
      truthful.trans (Command.blamed_eq_none_iff reported)⟩
    rw [data]
    exact Command.nodup_report_keys reported
  next failure failed =>
    obtain ⟨envelope, told, unsaid, data, truthful⟩ :=
      Outcome.truthful_ofFailure forPrograms failure
    rw [performed] at told unsaid truthful
    refine ⟨envelope, told, unsaid, Envelope.nodup_keys ?_,
      iff_of_true truthful (Command.not_faulty_of_failure failed)⟩
    rw [data]
    exact failure.nodup_keys

/-- What is asked for on the command line is performed, and its outcome is printed.  Claims about
runs are thereby claims about outcomes. -/
theorem run_of_words (surroundings : Surroundings) {words : List String} {invocation : Invocation}
    (asked : Request.ofWords words = .ok (.run invocation)) {outcome : Outcome}
    (performed : invocation.perform .builtin
      (invocation.command.fileName?.bind surroundings.contents) = outcome) :
    (run surroundings words).status = outcome.status ∧
      (run surroundings words).output = outcome.output invocation.format := by
  rw [run, asked, ← performed]
  exact ⟨rfl, rfl⟩

/-- A run for programs prints one record and nothing else.  What the record says of the exit status
and of success is so, except where the run checks a property file with a schema that is not in
order. -/
theorem run_truthful_iff (surroundings : Surroundings) {words : List String}
    {invocation : Invocation} (asked : Request.ofWords words = .ok (.run invocation))
    (forPrograms : invocation.format ≠ .human) :
    ∃ envelope text,
      (invocation.perform .builtin
        (invocation.command.fileName?.bind surroundings.contents)).envelope = some envelope ∧
      envelope.render? invocation.format = some text ∧
      (run surroundings words).output = text ++ "\n" ∧
      envelope.toValue = .mapping envelope.entries ∧ (envelope.entries.map Prod.fst).Nodup ∧
      (envelope.Truthful (run surroundings words).status ↔
        ¬ invocation.command.Faulty .builtin surroundings.contents) := by
  obtain ⟨outcome, performed⟩ : ∃ outcome, invocation.perform .builtin
      (invocation.command.fileName?.bind surroundings.contents) = outcome := ⟨_, rfl⟩
  obtain ⟨envelope, told, unsaid, distinct, truthful⟩ :=
    Invocation.truthful_perform_iff forPrograms performed
  obtain ⟨text, rendered, printed⟩ := Outcome.output_of_envelope forPrograms told unsaid
  obtain ⟨status, output⟩ := run_of_words surroundings asked performed
  rw [performed, status, output]
  exact ⟨envelope, text, told, rendered, printed, envelope.toValue_eq, distinct, truthful⟩

/-- Surroundings in which every file is a property file whose only schema has no connection. -/
def unconnected : Surroundings where
  logLevel := none
  contents _ := some "schemas:\n  - name: A\n    dialect: GENERIC\n"

/-- Checks one of these files and tells programs about it. -/
def checkUnconnected : Invocation := ⟨.validate "f.yaml", .json, none⟩

/-- The run blames an entry without a connection. -/
theorem checkUnconnected_faulty :
    checkUnconnected.command.Faulty .builtin unconnected.contents := by
  have checked : (match PropertyFile.ofText "schemas:\n  - name: A\n    dialect: GENERIC\n" with
      | .ok file => file.schemas.any fun entry => !(entry.check .builtin).toBool
      | .error _ => false) = true := by decide +kernel
  split at checked
  next file isFile =>
    obtain ⟨entry, member, refused⟩ := List.any_eq_true.1 checked
    refine ⟨"f.yaml", _, file, rfl, rfl, isFile, entry, member, ?_⟩
    cases outcome : entry.check .builtin with
    | ok _ =>
      rw [outcome] at refused
      cases refused
    | error error => exact ⟨error, rfl⟩
  next => cases checked

/-- A file with an entry that names no connection is reported with success and zero, while the run
ends with another status. -/
theorem run_truthful_iff_unconnected :
    Request.ofWords ["--output", "json", "validate", "f.yaml"] = .ok (.run checkUnconnected) ∧
      ∃ envelope text, Envelope.render? .json envelope = some text ∧
        (run unconnected ["--output", "json", "validate", "f.yaml"]).output = text ++ "\n" ∧
        ¬ envelope.Truthful
          (run unconnected ["--output", "json", "validate", "f.yaml"]).status := by
  have asked : Request.ofWords ["--output", "json", "validate", "f.yaml"] =
      .ok (.run checkUnconnected) := rfl
  obtain ⟨envelope, text, -, rendered, printed, -, -, truthful⟩ :=
    run_truthful_iff unconnected asked nofun
  exact ⟨asked, envelope, text, rendered, printed,
    fun told => truthful.1 told checkUnconnected_faulty⟩

/-- A run that ends badly can tell programs that it was a success: the property file of the run
below lists a schema without a connection. -/
theorem success_told_of_faulty :
    ¬ ∀ (surroundings : Surroundings) (words : List String) (invocation : Invocation)
      (envelope : Envelope), Request.ofWords words = .ok (.run invocation) →
      (invocation.perform .builtin
        (invocation.command.fileName?.bind surroundings.contents)).envelope = some envelope →
      envelope.Truthful (run surroundings words).status := by
  intro truthful
  have asked : Request.ofWords ["--output", "json", "validate", "f.yaml"] =
      .ok (.run checkUnconnected) := rfl
  obtain ⟨outcome, performed⟩ : ∃ outcome, checkUnconnected.perform .builtin
      (checkUnconnected.command.fileName?.bind unconnected.contents) = outcome := ⟨_, rfl⟩
  obtain ⟨envelope, told, -, -, truthfulIff⟩ :=
    Invocation.truthful_perform_iff (nofun : checkUnconnected.format ≠ .human) performed
  have claimed := truthful unconnected _ _ envelope asked (performed ▸ told)
  rw [(run_of_words unconnected asked performed).1] at claimed
  exact truthfulIff.1 claimed checkUnconnected_faulty

end Pushdown.Cli
