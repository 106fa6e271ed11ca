/-
Module: Pushdown.Proofs.Fault.Json
Purpose: Which faults are read back from their JSON text.
Main exports: Fault.Context.HasForm, Fault.HasText, Fault.Storable, Fault.Context.NestsWithin,
  Fault.json_reads_back, Fault.deep_context_lost
-/
import Pushdown.Fault
import Pushdown.Proofs.Dictionary
import Pushdown.Proofs.Fault
import Pushdown.Proofs.Json.Record

namespace Pushdown.Fault

/-!
The text of a fault is read back part by part.  The parts of a record are found by their names, and
each part is read by the reader that its writer has a value for.  Only a generic context may hold
anything: its members are put in order again, and since the document of a fault has two levels
around them, they may nest a little less deeply than a document may.
-/

/-! ### Forms -/

/-- Whether a value is a form of a context.  The members of a generic context may stand in any
order. -/
def Context.HasForm : Context → Json → Prop
  | .generic data, form => ∃ entries : List (String × Json), entries.Perm data.entries ∧
      form = .object (("type", .text "generic") :: entries)
  | context, form => form = context.toJson

/-- The members of the record of a fault whose context has a given form. -/
def membersWith (fault : Fault) (form : Option Json) : List (String × Json) :=
  [("code", .text fault.code.toText), ("message", .text fault.message)] ++
    (form.map (Prod.mk "context")).toList ++
    (fault.hint.map fun hint => ("hint", .text hint)).toList

/-- Whether a text is a JSON text of a fault. -/
def HasText (fault : Fault) (text : String) : Prop :=
  ∃ form, Option.Rel Context.HasForm fault.context form ∧
    text = (Json.object (fault.membersWith form)).compact

theorem Context.hasForm_toJson (context : Context) : context.HasForm context.toJson := by
  cases context with
  | generic data => exact ⟨data.entries, .refl _, rfl⟩
  | _ => rfl

theorem hasText_toJsonText (fault : Fault) : fault.HasText fault.toJsonText := by
  obtain ⟨code, message, context, hint⟩ := fault
  cases context with
  | none => exact ⟨none, .none, by cases hint <;> rfl⟩
  | some context => exact ⟨some context.toJson, .some context.hasForm_toJson, by cases hint <;> rfl⟩

/-! ### Contexts -/

/-- Whether a value is one that a generic context can hold: its numbers are whole and fit sixty-four
bits, and the members of its objects are in order. -/
def StorableValue (value : Json) : Prop := value.Integral ∧ value.ordered = value

/-- Whether a context is one that the library can hold and that no member hides the tag of. -/
def Context.Storable : Context → Prop
  | .function _ _ expected actual =>
    (∀ n ∈ expected, n ≤ greatestCount) ∧ ∀ n ∈ actual, n ≤ greatestCount
  | .tableCount limit accepted => limit ≤ greatestCount ∧ accepted ≤ greatestCount
  | .resultColumn position _ => position ≤ greatestCount
  | .generic data => ∀ entry ∈ data.entries, entry.1 ≠ "type" ∧ StorableValue entry.2
  | _ => True

/-- Whether the values in a generic context nest at most to a given depth. -/
def Context.NestsWithin (depth : Nat) : Context → Prop
  | .generic data => ∀ entry ∈ data.entries, entry.2.nesting ≤ depth
  | _ => True

theorem readText?_text (value : String) : Json.readText? (some (.text value)) = some value := rfl

theorem readOptionalText?_optionalText (value : Option String) :
    Json.readOptionalText? (some (.optionalText value)) = some value := by
  cases value <;> rfl

theorem readTexts?_texts (values : List String) :
    Json.readTexts? (some (.texts values)) = some values := by
  rw [Json.texts, Json.readTexts?]
  induction values with
  | nil => rfl
  | cons value values inductionHypothesis =>
    rw [List.map_cons, Json.readTextElements?, inductionHypothesis]
    rfl

theorem readCount?_natural {count : Nat} (fits : count ≤ greatestCount) :
    readCount? (some (.natural count)) = some count := by
  rw [readCount?, Json.natural, Json.readNatural?, if_pos, Int.toNat_natCast]
  simp only [Bool.and_eq_true, decide_eq_true_eq]
  omega

theorem readOptionalCount?_optionalNatural {count : Option Nat}
    (fits : ∀ n ∈ count, n ≤ greatestCount) :
    readOptionalCount? (some (.optionalNatural count)) = some count := by
  cases count with
  | none => rfl
  | some count => exact congrArg (Option.map some) (readCount?_natural (fits count rfl))

namespace Context

/-- A record is read by its tag if no other member has the name of the tag. -/
theorem ofJson?_tagged {tag : String} {members : List (String × Json)}
    (untagged : "type" ∉ members.map Prod.fst) :
    ofJson? (.object (("type", .text tag) :: members)) = ofFields? tag (.named members) := by
  have different : ∀ member ∈ members, (member.1 == "type") = false := by
    intro member within
    exact beq_false_of_ne fun same => untagged (same ▸ List.mem_map_of_mem within)
  have tags : ((("type", Json.text tag) :: members).filter fun member => member.1 == "type") =
      [("type", .text tag)] := by
    rw [List.filter_cons_of_pos (by simp), List.filter_eq_nil_iff.2]
    intro member within
    rw [different member within]
    exact Bool.false_ne_true
  have others : ((("type", Json.text tag) :: members).filter fun member => member.1 != "type") =
      members := by
    rw [List.filter_cons_of_neg (by simp), List.filter_eq_self]
    intro member within
    rw [bne, different member within]
    rfl
  rw [ofJson?, Json.Tagged.read?, tags, others]

/-- A tagged record is read by its tag, and its fields are taken by their names.  The order of the
members does not matter, so it need not be the one in which they were written. -/
theorem ofJson?_record (tag : String) (names : List String) (values : List Json)
    (distinct : ("type" :: names).Nodup) (complete : values.length = names.length) :
    ∃ fields : Json.Fields Json,
      ofJson? (.object (("type", .text tag) :: names.zip values)) = ofFields? tag fields ∧
        fields.takeExactly? names = some (values.map some) := by
  obtain ⟨untagged, distinctNames⟩ := List.nodup_cons.1 distinct
  refine ⟨.named (names.zip values), ofJson?_tagged ?_, ?_⟩
  · rwa [List.map_fst_zip (Nat.le_of_eq complete.symm)]
  · exact Json.Fields.lookupAll?_zip distinctNames complete

/-- A context with fields of its own is read back. -/
theorem ofJson?_toJson {context : Context} (storable : context.Storable)
    (named : ∀ data, context ≠ .generic data) : ofJson? context.toJson = some context := by
  cases context with
  -- Each kind of context is a tagged record with fields of its own, so only its fields have to be
  -- read back.
  | property key value dialectName =>
    obtain ⟨fields, read, taken⟩ := ofJson?_record "property" ["key", "value", "dialect"]
      [.text key, .optionalText value, .optionalText dialectName] (by decide) rfl
    refine read.trans ?_
    simp only [ofFields?, taken, List.map_cons, List.map_nil, readText?_text,
      readOptionalText?_optionalText]
  | dialect requested available =>
    obtain ⟨fields, read, taken⟩ := ofJson?_record "dialect" ["requested", "available"]
      [.text requested, .texts available] (by decide) rfl
    refine read.trans ?_
    simp only [ofFields?, taken, List.map_cons, List.map_nil, readText?_text, readTexts?_texts]
  | function functionName dialectName expected actual =>
    obtain ⟨fields, read, taken⟩ := ofJson?_record "function"
      ["function", "dialect", "expected_args", "actual_args"]
      [.text functionName, .text dialectName, .optionalNatural expected, .optionalNatural actual]
      (by decide) rfl
    refine read.trans ?_
    simp only [ofFields?, taken, List.map_cons, List.map_nil, readText?_text,
      readOptionalCount?_optionalNatural storable.1, readOptionalCount?_optionalNatural storable.2]
  | tableCount limit accepted =>
    obtain ⟨fields, read, taken⟩ := ofJson?_record "table_count" ["limit", "accepted"]
      [.natural limit, .natural accepted] (by decide) rfl
    refine read.trans ?_
    simp only [ofFields?, taken, List.map_cons, List.map_nil, readCount?_natural storable.1,
      readCount?_natural storable.2]
  | resultColumn position remoteType =>
    obtain ⟨fields, read, taken⟩ := ofJson?_record "result_column" ["position", "remote_type"]
      [.natural position, .text remoteType] (by decide) rfl
    refine read.trans ?_
    simp only [ofFields?, taken, List.map_cons, List.map_nil, readText?_text,
      readCount?_natural storable]
  | remote connectionName operation =>
    obtain ⟨fields, read, taken⟩ := ofJson?_record "remote" ["connection_name", "operation"]
      [.optionalText connectionName, .text operation] (by decide) rfl
    refine read.trans ?_
    simp only [ofFields?, taken, List.map_cons, List.map_nil, readText?_text,
      readOptionalText?_optionalText]
  | generic data => exact absurd rfl (named data)

/-- Members whose values are in order already stay as they are. -/
theorem orderedMembers_eq_self {members : List (String × Json)}
    (each : ∀ member ∈ members, member.2.ordered = member.2) :
    Json.orderedMembers members = members := by
  induction members with
  | nil => rfl
  | cons first rest inductionHypothesis =>
    obtain ⟨first, others⟩ := List.forall_mem_cons.1 each
    rw [Json.orderedMembers, first, inductionHypothesis others]

/-- The members of a generic context are put in order again.  It has no tag, and is what every text
is taken for that is no other kind of context. -/
theorem ofJson?_arranged {data : Dictionary Json} (storable : (generic data).Storable)
    {entries : List (String × Json)} (order : entries.Perm data.entries) :
    ofJson? (.object (("type", .text "generic") :: entries)) = some (generic data) := by
  have untagged : "type" ∉ entries.map Prod.fst := by
    rw [List.mem_map]
    rintro ⟨entry, member, tag⟩
    exact (storable entry (order.mem_iff.1 member)).1 tag
  have inOrder : Json.orderedMembers entries = entries :=
    orderedMembers_eq_self fun entry member => (storable entry (order.mem_iff.1 member)).2.2
  rw [ofJson?_tagged untagged]
  simp only [ofFields?, inOrder, Dictionary.ofList_of_perm order]

/-- A context is read back from each of its forms.  A form is what a writer may have made of it,
with its members in any order. -/
theorem HasForm.ofJson? {context : Context} {form : Json} (storable : context.Storable)
    (hasForm : context.HasForm form) : Context.ofJson? form = some context := by
  cases context with
  | generic data =>
    obtain ⟨entries, order, rfl⟩ := hasForm
    exact ofJson?_arranged storable order
  | _ =>
    cases hasForm
    exact ofJson?_toJson storable nofun

/-! Every context has a written form. -/

theorem integral_optionalText (value : Option String) : (Json.optionalText value).Integral := by
  cases value with
  | none => exact .null
  | some value => exact .text value

theorem integral_natural {count : Nat} (fits : count ≤ greatestCount) :
    (Json.natural count).Integral := by
  unfold greatestCount at fits
  exact .number (by omega)

theorem integral_optionalNatural {count : Option Nat} (fits : ∀ n ∈ count, n ≤ greatestCount) :
    (Json.optionalNatural count).Integral := by
  cases count with
  | none => exact .null
  | some count => exact integral_natural (fits count rfl)

theorem integral_texts (values : List String) : (Json.texts values).Integral := by
  refine .array fun element member => ?_
  obtain ⟨value, -, rfl⟩ := List.mem_map.1 member
  exact .text value

/-- Every form of a storable context has only whole numbers in it, so that it can be written and
read without loss. -/
theorem HasForm.integral {context : Context} {form : Json} (storable : context.Storable)
    (hasForm : context.HasForm form) : form.Integral := by
  cases context with
  | generic data =>
    obtain ⟨entries, order, rfl⟩ := hasForm
    refine .object (List.forall_mem_cons.2 ⟨.text _, fun entry member => ?_⟩)
    exact (storable entry (order.mem_iff.1 member)).2.1
  | property key value dialectName =>
    cases hasForm
    exact .object (by simp [Json.Integral.text, integral_optionalText])
  | dialect requested available =>
    cases hasForm
    exact .object (by simp [Json.Integral.text, integral_texts])
  | function functionName dialectName expected actual =>
    cases hasForm
    exact .object (by simp [Json.Integral.text, integral_optionalNatural storable.1,
      integral_optionalNatural storable.2])
  | tableCount limit accepted =>
    cases hasForm
    exact .object (by simp [Json.Integral.text, integral_natural storable.1,
      integral_natural storable.2])
  | resultColumn position remoteType =>
    cases hasForm
    exact .object (by simp [Json.Integral.text, integral_natural storable])
  | remote connectionName operation =>
    cases hasForm
    exact .object (by simp [Json.Integral.text, integral_optionalText])

theorem HasForm.eq_object {context : Context} {form : Json} (hasForm : context.HasForm form) :
    ∃ members, form = .object members := by
  cases context with
  | generic data =>
    obtain ⟨entries, -, rfl⟩ := hasForm
    exact ⟨_, rfl⟩
  | _ => exact ⟨_, hasForm⟩

theorem nesting_optionalText (value : Option String) : (Json.optionalText value).nesting = 0 := by
  cases value <;> rfl

theorem nesting_optionalNatural (count : Option Nat) :
    (Json.optionalNatural count).nesting = 0 := by
  cases count <;> rfl

theorem nesting_texts (values : List String) : (Json.texts values).nesting = 1 := by
  rw [Json.texts, Json.nesting]
  induction values with
  | nil => rfl
  | cons value values inductionHypothesis =>
    have text : (Json.text value).nesting = 0 := rfl
    rw [List.map_cons, Json.elementsNesting, text, Nat.zero_max, inductionHypothesis]

/-- A context nests one level more deeply than what a generic one holds.  The other kinds hold texts
and numbers only. -/
theorem HasForm.nesting_le_iff {context : Context} {form : Json} (hasForm : context.HasForm form)
    {depth : Nat} (positive : 1 ≤ depth) :
    form.nesting ≤ depth + 1 ↔ context.NestsWithin depth := by
  cases context with
  | generic data =>
    obtain ⟨entries, order, rfl⟩ := hasForm
    rw [Json.nesting, Nat.add_le_add_iff_right, Json.membersNesting_le_iff,
      List.forall_mem_cons]
    simp only [NestsWithin, Json.nesting, order.mem_iff, Nat.zero_le, true_and]
  | _ =>
    cases hasForm
    refine iff_of_true ?_ trivial
    rw [toJson, Json.nesting, Nat.add_le_add_iff_right, Json.membersNesting_le_iff]
    simp [Json.natural, Json.nesting, nesting_optionalText, nesting_optionalNatural,
      nesting_texts, positive]

end Context

/-! ### Faults -/

/-- How deeply the values in a generic context may nest. -/
def greatestNesting : Nat := 125

/-- The context of a fault is read from its written form unless the values in it nest too
deeply. -/
theorem Context.HasForm.written {context : Context} {form : Json} (storable : context.Storable)
    (hasForm : context.HasForm form) :
    ∃ document, form.written? = some document ∧
      (context.NestsWithin greatestNesting →
        writtenContext? (some document) = some (some context)) ∧
      (¬ context.NestsWithin greatestNesting → writtenContext? (some document) = none) := by
  obtain ⟨document, written, values⟩ := (hasForm.integral storable).readIfShallow
  have limit : form.nesting ≤ Json.greatestDepth - 1 ↔ context.NestsWithin greatestNesting :=
    hasForm.nesting_le_iff (by decide)
  have read : writtenContext? (some document) =
      if form.nesting ≤ Json.greatestDepth - 1 then some (some context) else none := by
    obtain ⟨members, rfl⟩ := hasForm.eq_object
    obtain ⟨forms, -, rfl⟩ := Option.map_eq_some_iff.1 written
    rw [writtenContext?, values]
    · by_cases shallow : (Json.object members).nesting ≤ Json.greatestDepth - 1
      · rw [if_pos shallow, if_pos shallow]
        exact congrArg (Option.map some) (hasForm.ofJson? storable)
      · rw [if_neg shallow, if_neg shallow]
    · nofun
  refine ⟨document, written, fun shallow => ?_, fun deep => ?_⟩
  · rw [read, if_pos (limit.2 shallow)]
  · rw [read, if_neg fun within => deep (limit.1 within)]

/-- The members of the record of a fault as written. -/
def writtenMembers (fault : Fault) (document : Option Json.Written) :
    List (String × Json.Written) :=
  [("code", .text (Json.spelled fault.code.toText)),
    ("message", .text (Json.spelled fault.message))] ++
    (document.map (Prod.mk "context")).toList ++
    (fault.hint.map fun hint => ("hint", .text (Json.spelled hint))).toList

/-- The written members of a fault are those of its parts, in order. -/
theorem writtenAs_membersWith (fault : Fault) {form : Option Json}
    {document : Option Json.Written} (written : form.map Json.written? = document.map some) :
    Json.WrittenAs (fault.membersWith form) (fault.writtenMembers document) := by
  obtain ⟨code, message, context, hint⟩ := fault
  unfold Json.WrittenAs membersWith writtenMembers
  cases form <;> cases document <;> cases hint <;> simp_all [Json.written?]

/-- The members of a fault are found by their names, each once, and the missing ones as missing. -/
theorem takeExactly?_writtenMembers (fault : Fault) (document : Option Json.Written) :
    (Json.Fields.named (fault.writtenMembers document)).takeExactly?
      ["code", "message", "context", "hint"] =
        some [some (.text (Json.spelled fault.code.toText)),
          some (.text (Json.spelled fault.message)), document,
          fault.hint.map fun hint => .text (Json.spelled hint)] := by
  obtain ⟨code, message, context, hint⟩ := fault
  cases document <;> cases hint <;> rfl

theorem writtenOptionalText?_spelled (value : Option String) :
    writtenOptionalText? (value.map fun value => .text (Json.spelled value)) = some value := by
  cases value with
  | none => rfl
  | some value => rw [Option.map_some, writtenOptionalText?, Json.textValue?_spelled]; rfl

/-- A fault is read back up to its context, and as a whole if its context is.  The reader of
contexts is a parameter here, since it is the only part that can fail on a text that was written. -/
theorem ofJsonText?_membersWith (fault : Fault) {form : Option Json}
    {document : Option Json.Written} (written : form.map Json.written? = document.map some) :
    ofJsonText? (Json.object (fault.membersWith form)).compact =
      (writtenContext? document).map fun context => { fault with context := context } := by
  obtain ⟨record, read, fields⟩ :=
    Option.bind_eq_some_iff.1 (fault.writtenAs_membersWith written).ofWritten?_read?
  simp only [ofJsonText?, read, fields, ofFields?, takeExactly?_writtenMembers, writtenText?,
    Json.textValue?_spelled, writtenOptionalText?_spelled]
  cases writtenContext? document with
  | none => rfl
  | some context => simp only [Code.ofText_toText, Option.map_some]

/-- Whether a fault is one that the library can hold. -/
def Storable (fault : Fault) : Prop := ∀ context ∈ fault.context, context.Storable

/-- Whether the values in the context of a fault nest at most to a given depth. -/
def NestsWithin (fault : Fault) (depth : Nat) : Prop :=
  ∀ context ∈ fault.context, context.NestsWithin depth

/-- Whether a document is a record that has a member for the context and one for the hint exactly if
a fault has these. -/
def NamesParts (fault : Fault) (document : Json.Written) : Prop :=
  ∃ members, Json.Fields.ofWritten? document = some (.named members) ∧
    ("context" ∈ members.map Prod.fst ↔ fault.context.isSome) ∧
    ("hint" ∈ members.map Prod.fst ↔ fault.hint.isSome)

/-- The context of a fault is read from a written form of it, as far as there is one, unless it
nests too deeply. -/
theorem exists_document {fault : Fault} (storable : fault.Storable) {form : Option Json}
    (hasForm : Option.Rel Context.HasForm fault.context form) :
    ∃ document, form.map Json.written? = document.map some ∧
      document.isSome = fault.context.isSome ∧
      (fault.NestsWithin greatestNesting → writtenContext? document = some fault.context) ∧
      (¬ fault.NestsWithin greatestNesting → writtenContext? document = none) := by
  obtain ⟨code, message, context, hint⟩ := fault
  cases hasForm with
  | none => exact ⟨none, rfl, rfl, fun _ => rfl, fun deep => absurd nofun deep⟩
  | @some context form hasForm =>
    obtain ⟨document, written, shallow, deep⟩ := hasForm.written (storable context rfl)
    have same : NestsWithin ⟨code, message, some context, hint⟩ greatestNesting ↔
        context.NestsWithin greatestNesting := by simp [NestsWithin]
    rw [same]
    exact ⟨some document, congrArg some written, rfl, shallow, deep⟩

/-- A fault is read back from its texts unless its context nests too deeply.  The bound is that of
the reader; the writer has none. -/
theorem HasText.ofJsonText? {fault : Fault} {text : String} (hasText : fault.HasText text)
    (storable : fault.Storable) :
    (fault.NestsWithin greatestNesting → Fault.ofJsonText? text = some fault) ∧
      (¬ fault.NestsWithin greatestNesting → Fault.ofJsonText? text = none) := by
  obtain ⟨form, hasForm, rfl⟩ := hasText
  obtain ⟨document, written, -, shallow, deep⟩ := exists_document storable hasForm
  rw [ofJsonText?_membersWith fault written]
  exact ⟨fun within => by rw [shallow within]; rfl, fun exceeds => by rw [deep exceeds]; rfl⟩

/-- A text of a fault names the parts that the fault has. -/
theorem HasText.namesParts {fault : Fault} {text : String} (hasText : fault.HasText text)
    (storable : fault.Storable) :
    ∃ document, Json.Written.read? text = some document ∧ fault.NamesParts document := by
  obtain ⟨form, hasForm, rfl⟩ := hasText
  obtain ⟨document, written, present, -⟩ := exists_document storable hasForm
  obtain ⟨record, read, members⟩ :=
    Option.bind_eq_some_iff.1 (fault.writtenAs_membersWith written).ofWritten?_read?
  refine ⟨record, read, _, members, ?_, ?_⟩
  · rw [← present]
    cases document <;> cases fault.hint <;> simp [writtenMembers]
  · cases document <;> cases hint : fault.hint <;> simp [writtenMembers, hint]

/-- From its JSON text, in whichever order the members of a generic context stand, a fault is read
back if the values in this context nest at most to the greatest depth, and otherwise nothing is
read.  The text has a member for the context and one for the hint exactly if the fault has these. -/
theorem json_reads_back {fault : Fault} (storable : fault.Storable) :
    fault.HasText fault.toJsonText ∧ ∀ text, fault.HasText text →
      (fault.NestsWithin greatestNesting → ofJsonText? text = some fault) ∧
      (¬ fault.NestsWithin greatestNesting → ofJsonText? text = none) ∧
      ∃ document, Json.Written.read? text = some document ∧ fault.NamesParts document := by
  refine ⟨fault.hasText_toJsonText, fun text hasText => ?_⟩
  obtain ⟨shallow, deep⟩ := hasText.ofJsonText? storable
  exact ⟨shallow, deep, hasText.namesParts storable⟩

/-- A fault with a quote in its message and a tag within its context is read back, although the tag
is also the word by which contexts are told apart. -/
theorem json_reads_back_tagged :
    let data : Dictionary Json :=
      ⟨[("columns", .array [.natural 2, .whole (-0x8000000000000000)]),
        ("table", .object [("name", .text "T\n"), ("type", .null)])], by decide⟩
    let fault : Fault := ⟨.unknown, "\"T\"", some (.generic data), none⟩
    fault.Storable ∧ ofJsonText? fault.toJsonText = some fault := by
  intro data fault
  have storable : fault.Storable := by
    rintro _ ⟨⟩
    simp only [Context.Storable, data, List.forall_mem_cons]
    refine ⟨⟨by decide, ?_, rfl⟩, ⟨by decide, ?_, rfl⟩, nofun⟩
    · exact .array (by simp [Json.natural, Json.whole, Json.Integral.number])
    · exact .object (by simp [Json.Integral.text, Json.Integral.null])
  have shallow : fault.NestsWithin greatestNesting := by
    rintro _ ⟨⟩
    simp only [Context.NestsWithin, data, List.forall_mem_cons]
    decide
  obtain ⟨hasText, reads⟩ := json_reads_back storable
  exact ⟨storable, (reads _ hasText).1 shallow⟩

/-- Arrays within each other. -/
def nestedArrays : Nat → Json
  | 0 => .array []
  | more + 1 => .array [nestedArrays more]

/-- Each further array is one level more. -/
theorem nesting_nestedArrays (more : Nat) : (nestedArrays more).nesting = more + 1 := by
  induction more with
  | zero => rfl
  | succ more inductionHypothesis =>
    rw [nestedArrays, Json.nesting, Json.elementsNesting, Json.elementsNesting, Nat.max_zero,
      inductionHypothesis]

/-- Arrays have no numbers in them, however many there are. -/
theorem storableValue_nestedArrays (more : Nat) : StorableValue (nestedArrays more) := by
  induction more with
  | zero => exact ⟨.array nofun, rfl⟩
  | succ more inductionHypothesis =>
    obtain ⟨integral, ordered⟩ := inductionHypothesis
    refine ⟨.array (List.forall_mem_singleton.2 integral), ?_⟩
    rw [nestedArrays, Json.ordered, Json.orderedElements, Json.orderedElements, ordered]

/-- A fault with a generic context that holds a hundred and twenty-six arrays within each other is
not read back. -/
theorem deep_context_lost :
    ¬ ∀ fault : Fault, fault.Storable → ofJsonText? fault.toJsonText = some fault := by
  intro survives
  let data : Dictionary Json := ⟨[("a", nestedArrays greatestNesting)], by simp⟩
  let fault : Fault := ⟨.unknown, "m", some (.generic data), none⟩
  have storable : fault.Storable := by
    rintro _ ⟨⟩
    exact List.forall_mem_singleton.2 ⟨by decide, storableValue_nestedArrays _⟩
  have deep : ¬ fault.NestsWithin greatestNesting := by
    intro within
    have bound := within _ rfl _ List.mem_cons_self
    rw [nesting_nestedArrays] at bound
    omega
  have lost := (fault.hasText_toJsonText.ofJsonText? storable).2 deep
  rw [survives fault storable] at lost
  cases lost

end Pushdown.Fault
