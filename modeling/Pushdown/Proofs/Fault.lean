/-
Module: Pushdown.Proofs.Fault
Purpose: Which texts are read as which code of a fault, and which errors get which codes.
Main exports: Fault.Code.ofNumber_eq_ok_iff, Fault.Code.ofText_toText,
  Fault.Code.read_iff_spelling, Fault.Code.signed_number_read,
  ConfigurationError.category_toFault, SchemaError.category_toFault_eq_config_iff,
  LoadError.category_toFault_eq_config_iff, LoadError.category_toFault_ne_internal
-/
import Pushdown.Fault
import Pushdown.Load
import Pushdown.Proofs.Decimal
import Pushdown.Schema

namespace Pushdown

/-! ## Codes

A code is written as a heading and a number of four digits.  Its number is read by the reader of
configured numbers, so each code is read from its own text and from those that have a plus sign
after the heading, or more zeros.
-/

namespace Fault.Code

theorem mem_all (code : Code) : code ∈ all := by cases code <;> decide

/-- No two codes share a number. -/
theorem number_injective : Function.Injective number := by
  have distinct : ∀ code ∈ all, ∀ other ∈ all, code.number = other.number → code = other := by
    decide
  exact fun code other => distinct code code.mem_all other other.mem_all

theorem number_range (code : Code) : 1000 ≤ code.number ∧ code.number ≤ 9999 := by
  cases code <;> decide

/-- A number is read as the code that has it, and no other number is read.  Which numbers have codes
is a table, so this is where the table is looked through. -/
theorem ofNumber_eq_ok_iff {n : Nat} {code : Code} : ofNumber n = .ok code ↔ code.number = n := by
  unfold ofNumber
  constructor
  · intro found
    split at found
    next other first =>
      cases found
      have same := List.find?_some first
      exact beq_iff_eq.1 same
    next => cases found
  · rintro rfl
    split
    next other first =>
      have same := List.find?_some first
      rw [number_injective (beq_iff_eq.1 same)]
    next none =>
      exact absurd (beq_self_eq_true code.number) (List.find?_eq_none.1 none code code.mem_all)

/-- The heading of a code is cut off exactly where it stands. -/
theorem afterHeading?_eq_some_iff {text rest : List Char} :
    afterHeading? text = some rest ↔ text = heading ++ rest := by
  unfold afterHeading?
  constructor
  · intro found
    split at found
    next starts =>
      cases found
      calc text = text.take heading.length ++ text.drop heading.length :=
            (List.take_append_drop ..).symm
        _ = heading ++ text.drop heading.length := by rw [starts]
    next => cases found
  · rintro rfl
    rw [List.take_left, if_pos rfl, List.drop_left]

/-- A text is read as a code if it is the heading and a number that is read as the code's. -/
theorem ofText_eq_ok_iff_number {text : String} {code : Code} :
    ofText text = .ok code ↔ ∃ rest, text.toList = heading ++ rest ∧
      Text.readNat? greatestNumber (String.ofList rest) = some code.number := by
  simp only [← afterHeading?_eq_some_iff]
  unfold ofText
  cases afterHeading? text.toList with
  | none => simp
  | some rest =>
    simp only [Option.some.injEq, exists_eq_left']
    cases Text.readNat? greatestNumber (String.ofList rest) with
    | none => simp
    | some n =>
      rw [Option.some.injEq, eq_comm (a := n), ← ofNumber_eq_ok_iff]
      dsimp only
      cases ofNumber n <;> simp

/-- A text of a code with or without a plus sign, and with zeros before its number. -/
def spelling (code : Code) (signed : Bool) (zeros : Nat) : String :=
  String.ofList (heading ++
    (Text.plusChars signed ++ (List.replicate zeros '0' ++ Nat.toDigits 10 code.number)))

/-- A text is read as a code exactly if it is one of its spellings.  Besides the plain one there are
those with a plus sign or with more zeros than needed. -/
theorem ofText_eq_ok_iff {text : String} {code : Code} :
    ofText text = .ok code ↔ ∃ signed zeros, text = code.spelling signed zeros := by
  have within : code.number ≤ greatestNumber := Nat.le_trans code.number_range.2 (by decide)
  rw [ofText_eq_ok_iff_number]
  simp only [Text.readNat?_eq_some_iff, String.toList_ofList]
  constructor
  · rintro ⟨rest, starts, -, signed, zeros, rfl⟩
    exact ⟨signed, zeros, String.toList_inj.1 (starts.trans String.toList_ofList.symm)⟩
  · rintro ⟨signed, zeros, rfl⟩
    exact ⟨_, String.toList_ofList, within, signed, zeros, rfl⟩

/-- The text of a code is its one spelling without a sign and without more zeros.  Every further
spelling that is read is at odds with the format of codes. -/
theorem spelling_eq_toText_iff (code : Code) (signed : Bool) (zeros : Nat) :
    code.spelling signed zeros = code.toText ↔ signed = false ∧ zeros = 0 := by
  constructor
  · intro same
    have lengths := congrArg List.length (List.append_cancel_left (String.ofList_inj.1 same))
    rw [List.length_append, List.length_append, List.length_replicate] at lengths
    have noSign : (Text.plusChars signed).length = 0 := by omega
    cases signed with
    | true => cases noSign
    | false => exact ⟨rfl, by omega⟩
  · rintro ⟨rfl, rfl⟩
    rfl

/-- A code is read from its own text.  The other direction does not hold: a code has more texts than
this one. -/
theorem ofText_toText (code : Code) : ofText code.toText = .ok code :=
  ofText_eq_ok_iff.2 ⟨false, 0, rfl⟩

/-- A text is read as a code exactly if it is the code's text, but for a plus sign before the
number and for zeros before its first digit. -/
theorem read_iff_spelling (text : String) (code : Code) :
    (ofText text = .ok code ↔ ∃ signed zeros, text = code.spelling signed zeros) ∧
      ∀ signed zeros, code.spelling signed zeros = code.toText ↔ signed = false ∧ zeros = 0 :=
  ⟨ofText_eq_ok_iff, code.spelling_eq_toText_iff⟩

/-- A text with a plus sign is read as a code that has another text, so reading and writing are not
inverse to each other. -/
theorem signed_number_read :
    ¬ ∀ (text : String) (code : Code), ofText text = .ok code ↔ text = code.toText := by
  intro told
  have spelled : "FERRY-+2004" = spelling .invalidNode true 0 := by decide
  have read : ofText "FERRY-+2004" = .ok .invalidNode := ofText_eq_ok_iff.2 ⟨true, 0, spelled⟩
  have same : "FERRY-+2004" = "FERRY-2004" := (told _ _).1 read
  revert same
  decide

end Fault.Code

/-! ## Errors of one kind

The category of a fault is read off the number of its code.  Errors of one part of the library all
fall into one category; those that pass on the errors of other parts fall into the categories of
these.
-/

/-- Whatever is wrong with properties is a fault of the configuration.  Checks of properties cannot
end in any other category. -/
theorem ConfigurationError.category_toFault (error : ConfigurationError) :
    error.toFault.category = .config := by
  change error.code.category = .config
  cases error <;> (rw [code]; rfl)

/-- Whatever goes wrong between here and the source is a fault of connectivity.  So a fault of this
category means that the source was asked. -/
theorem ConnectivityError.category_toFault (connectionName : Option String)
    (error : ConnectivityError) : (error.toFault connectionName).category = .connectivity := by
  change error.code.category = .connectivity
  cases error with
  | remote operation reason =>
    rw [code]
    split <;> rfl
  | _ => rw [code]; rfl

/-- Whatever cannot be written in SQL is a fault of the query.  Neither the configuration nor the
source can be blamed for it. -/
theorem GenerationError.category_toFault (dialectName : String) (error : GenerationError) :
    (error.toFault dialectName).category = .query := by
  change error.code.category = .query
  cases error <;> (rw [code]; rfl)

/-- Whether an error passes on one of the configuration. -/
def SchemaError.IsConfiguration : SchemaError → Prop
  | .configuration _ => True
  | _ => False

/-- The category of an error of reading a schema, which for an error that is passed on is that of
the part it comes from. -/
def SchemaError.category : SchemaError → Fault.Category
  | .connectivity _ | .upperCaseTable _ => .connectivity
  | .configuration _ => .config
  | .tableCountExceeded _ _ => .query

/-- The category of a fault of reading a schema is that of its error.  The numbers of codes are not
needed any further. -/
theorem SchemaError.category_toFault (connectionName : Option String) (error : SchemaError) :
    (error.toFault connectionName).category = error.category := by
  cases error with
  | connectivity cause => exact cause.category_toFault _
  | configuration cause => exact cause.category_toFault
  | tableCountExceeded limit accepted =>
    change Fault.Code.tableCountExceeded.category = .query
    rfl
  | upperCaseTable name =>
    change Fault.Code.metadataReadFailed.category = .connectivity
    rfl

/-- Reading a schema ends in a fault of the configuration only where a property was wrong; a refused
name or a limit on tables is a fault of its own. -/
theorem SchemaError.category_toFault_eq_config_iff (connectionName : Option String)
    (error : SchemaError) :
    (error.toFault connectionName).category = .config ↔ error.IsConfiguration := by
  rw [category_toFault]
  cases error <;> simp [category, IsConfiguration]

/-- Whether an error passes on one of the configuration. -/
def LoadError.IsConfiguration : LoadError → Prop
  | .configuration _ => True
  | _ => False

/-- The category of an error of making a load statement, which for an error that is passed on is
that of the part it comes from. -/
def LoadError.category : LoadError → Fault.Category
  | .generation _ | .unsupportedResultType _ _ | .emptyResultShape => .query
  | .configuration _ => .config
  | .connectivity _ => .connectivity

/-- The category of a fault of making a load statement is that of its error, and the words in which
it is told have no part in it. -/
theorem LoadError.category_toFault (dialectName : String) (connectionName : Option String)
    (error : LoadError) :
    (error.toFault dialectName connectionName).category = error.category := by
  cases error with
  | generation cause => exact cause.category_toFault _
  | configuration cause => exact cause.category_toFault
  | connectivity cause => exact cause.category_toFault _
  | unsupportedResultType position remoteType =>
    change Fault.Code.unsupportedResultType.category = .query
    rfl
  | emptyResultShape =>
    change Fault.Code.emptyResultShape.category = .query
    rfl

/-- Making a load statement ends in a fault of the configuration only where a property was wrong.
Queries and sources cannot cause one, whatever they contain. -/
theorem LoadError.category_toFault_eq_config_iff (dialectName : String)
    (connectionName : Option String) (error : LoadError) :
    (error.toFault dialectName connectionName).category = .config ↔ error.IsConfiguration := by
  rw [category_toFault]
  cases error <;> simp [category, IsConfiguration]

/-- What goes wrong with a load statement lies outside the library: it is the fault of a query, of
the configuration or of the source. -/
theorem LoadError.category_toFault_ne_internal (dialectName : String)
    (connectionName : Option String) (error : LoadError) :
    (error.toFault dialectName connectionName).category ≠ .internal := by
  rw [category_toFault]
  cases error <;> exact nofun

end Pushdown
