/-
Module: Pushdown.Proofs.TypeMapping
Purpose: Which texts report which version of the host, and which types hold all remote values.
Main exports: HostVersion.StartsWith, HostVersion.ofChars?_eq_some_iff, HostVersion.Reported,
  HostVersion.ofText_eq_iff, HostVersion.reports_decide, DataType.FitsHost,
  RemoteType.IsWideSmallInteger, Dialect.mapped_type_fits_iff,
  Dialect.mapped_type_holds_values_iff
-/
import Pushdown.Proofs.Decimal
import Pushdown.Proofs.Dialect
import Pushdown.Proofs.Text.Value
import Pushdown.TypeMapping

namespace Pushdown

/-! ## Versions of the host

A version is described by the form of the text that reports it.  Its two numbers stand at the
beginning, around a full stop, and each ends where no further digit follows.  Digits of all scripts
count for where a number ends, and only ASCII digits for what it is; so a digit of another script
is not passed over like other characters behind the second number, but spoils the version.
-/

namespace HostVersion

variable {cs : List Char} {version : HostVersion} {text : Option String}

/-- Whether the decimal digits at the beginning of a text, up to what is no digit, denote a number
of a version. -/
structure LeadingNumber (cs : List Char) (n : Nat) (rest : List Char) : Prop where
  written : ∃ digits, Text.LongestRun Text.isDecimalDigit cs digits rest ∧ Text.Denotes digits n
  within : n < 2 ^ 32

/-- Whether a text starts with the numbers of a version around a full stop. -/
def StartsWith (cs : List Char) (version : HostVersion) : Prop :=
  ∃ behind rest, LeadingNumber cs version.major ('.' :: behind) ∧
    LeadingNumber behind version.minor rest

/-- Whether a version is reported: there is a text, and it starts with the version once the blanks
around it are taken off. -/
def Reported (text : Option String) (version : HostVersion) : Prop :=
  ∃ given trimmed, text = some given ∧ Text.Trims given.toList trimmed ∧
    StartsWith trimmed version

/-! ### Reading -/

/-- A leading number is read exactly if all digits at the start make a number within the range; a
longer run is not cut short. -/
theorem leadingNumber_iff {n : Nat} {rest : List Char} :
    LeadingNumber cs n rest ↔ ∃ digits, splitDigits cs = (digits, rest) ∧
      Text.digitsWithin? greatestNumber digits = some n := by
  simp only [splitDigits, Prod.mk.injEq, ← Text.longestRun_iff, Text.digitsWithin?_eq_some_iff]
  constructor
  · rintro ⟨⟨digits, run, denotes⟩, within⟩
    exact ⟨digits, run, Nat.le_of_lt_succ within, denotes⟩
  · rintro ⟨digits, run, within, denotes⟩
    exact ⟨⟨digits, run, denotes⟩, Nat.lt_succ_of_le within⟩

/-- Characters are read as a version exactly if they start with two numbers and a full stop between
them. -/
theorem ofChars?_eq_some_iff : ofChars? cs = some version ↔ StartsWith cs version := by
  simp only [StartsWith, leadingNumber_iff]
  unfold ofChars?
  constructor
  · intro found
    split at found
    next major behind split =>
      split at found
      next n m majorRead minorRead =>
        cases found
        exact ⟨behind, _, ⟨major, split, majorRead⟩, _, rfl, minorRead⟩
      next => cases found
    next => cases found
  · rintro ⟨behind, rest, ⟨major, split, majorRead⟩, minor, minorSplit, minorRead⟩
    simp only [split, minorSplit, majorRead, minorRead]

/-- The version at the beginning of a reported text, if it has one there. -/
def reported? (text : Option String) : Option HostVersion :=
  text.bind fun given => ofChars? (Text.trimChars given.toList)

/-- A version is read exactly if one is reported, behind whatever blanks.  What stands behind the
second number is not looked at. -/
theorem reported?_eq_some_iff : reported? text = some version ↔ Reported text version := by
  simp only [reported?, Reported, Option.bind_eq_some_iff, ofChars?_eq_some_iff, Text.trims_iff,
    exists_and_left, exists_eq_left]

/-- What reports no version counts as the unknown one.  No text is an error. -/
theorem ofText_eq (text : Option String) : ofText text = (reported? text).getD unknown := by
  cases text <;> rfl

/-- A text denotes the version that it reports, and version 0.0 if it reports none.  No text is
refused. -/
theorem ofText_eq_iff :
    ofText text = version ↔
      Reported text version ∨ version = ⟨0, 0⟩ ∧ ¬ ∃ other, Reported text other := by
  simp only [ofText_eq, ← reported?_eq_some_iff]
  cases reported? text with
  | none => simp [unknown, eq_comm]
  | some found => simp

/-- Versions are compared by number: 7.10 is later than 7.9.  The unknown version has no
nanoseconds. -/
theorem hasNanoseconds_iff :
    version.hasNanoseconds = true ↔
      7 < version.major ∨ version.major = 7 ∧ 1 ≤ version.minor := by
  simp [hasNanoseconds]

/-- What a host reports decides its version, and whether it keeps nanoseconds: a version reported
by its form is taken as it is, anything else as 0.0, and nanoseconds are kept exactly from 7.1 on,
by the numbers and not by their digits. -/
theorem reports_decide (text : Option String) :
    (∀ version, ofText text = version ↔
      Reported text version ∨ version = ⟨0, 0⟩ ∧ ¬ ∃ other, Reported text other) ∧
    ((ofText text).hasNanoseconds = true ↔ ∃ version, Reported text version ∧
      (7 < version.major ∨ version.major = 7 ∧ 1 ≤ version.minor)) := by
  refine ⟨fun version => ofText_eq_iff, ?_⟩
  rw [hasNanoseconds_iff]
  constructor
  · intro late
    rcases ofText_eq_iff.1 (Eq.refl (ofText text)) with reported | ⟨unreported, -⟩
    · exact ⟨_, reported, late⟩
    · rw [unreported] at late
      exact absurd late (by decide)
  · rintro ⟨version, reported, late⟩
    rwa [ofText_eq_iff.2 (.inl reported)]

example : ofText (some " 007.01-rc2 ") = ⟨7, 1⟩ := by decide

example : (ofText (some "10.0")).hasNanoseconds = true := by decide

/-- The second run of digits goes on in another script, so it denotes nothing. -/
example : ofText (some "7.1٢") = ⟨0, 0⟩ := by decide

end HostVersion

/-! ## Types

A mapped type has to satisfy two sides.  The host sets limits to the parameters of its types, and
the values of the remote type have to find room in the logical one.  Each way of building a type
has a law for either side; the rules of a dialect only choose between these ways, and they choose
as the common rules do but for numbers of Oracle and for types with codes of their own.
-/

/-- Whether the host accepts the parameters of a type. -/
def DataType.FitsHost : DataType → Prop
  | .decimal precision _ => precision ≤ 36
  | .char size _ => size ≤ 2000
  | .varchar size _ => 1 ≤ size ∧ size ≤ 2000000
  | .timestamp fractionalPrecision => fractionalPrecision ≤ 9
  | _ => True

/-- Whether a remote type is one of the two smallest integers, and yet has more digits than a
decimal of the host. -/
def RemoteType.IsWideSmallInteger (type : RemoteType) : Prop :=
  (type.typeCode = .tinyInt ∨ type.typeCode = .smallInt) ∧ 36 < type.size

namespace TypeCode

/-- Whether a code is one of the texts of variable length. -/
def IsVarchar (typeCode : TypeCode) : Prop :=
  typeCode ∈ [varChar, nVarChar, longVarChar, longNVarChar]

/-- Whether a code is one of the texts of fixed length. -/
def IsChar (typeCode : TypeCode) : Prop := typeCode ∈ [char, nChar]

/-- Whether all dialects map a code alike.  Oracle has rules for its numbers, and Oracle and
PostgreSQL for codes of their own. -/
def IsShared (typeCode : TypeCode) : Prop :=
  typeCode ≠ numeric ∧ typeCode ≠ decimal ∧ ∀ code, typeCode ≠ other code

/-- No dialect has a rule of its own for texts of variable size.  They can be looked up among the
common rules at once. -/
theorem IsVarchar.isShared {typeCode : TypeCode} (text : typeCode.IsVarchar) :
    typeCode.IsShared := by
  simp only [IsVarchar, List.mem_cons, List.not_mem_nil, or_false] at text
  rcases text with rfl | rfl | rfl | rfl <;> exact ⟨nofun, nofun, nofun⟩

theorem IsChar.isShared {typeCode : TypeCode} (text : typeCode.IsChar) : typeCode.IsShared := by
  simp only [IsChar, List.mem_cons, List.not_mem_nil, or_false] at text
  rcases text with rfl | rfl <;> exact ⟨nofun, nofun, nofun⟩

end TypeCode

/-! ### The ways of building a type -/

theorem widestText_fitsHost : DataType.widestText.FitsHost :=
  ⟨by decide, Nat.le_refl _⟩

theorem timeText_fitsHost : (DataType.varchar timeTextSize .utf8).FitsHost :=
  ⟨by decide, by decide⟩

/-- A decimal that is too wide becomes a text, so the type fits whatever is reported.  Of a decimal
only the precision is bounded. -/
theorem boundedDecimal_fitsHost (precision scale : Nat) :
    (boundedDecimal precision scale).FitsHost := by
  unfold boundedDecimal
  split
  next small => exact small
  next => exact widestText_fitsHost

theorem mapVarchar_of_sized {type : RemoteType} (positive : 1 ≤ type.size)
    (small : type.size ≤ 2000000) : mapVarchar type = .varchar type.size type.charset := by
  have filled : type.size ≠ 0 := Nat.ne_of_gt positive
  have bounded : ¬ DataType.maxVarcharSize < type.size := Nat.not_lt.2 small
  simp [mapVarchar, filled, bounded]

/-- A text is cut to the greatest size, or has that size if none is reported. -/
theorem mapVarchar_fitsHost (type : RemoteType) : (mapVarchar type).FitsHost := by
  unfold mapVarchar
  split
  next => exact ⟨by decide, Nat.le_refl _⟩
  next sized =>
    simp only [Bool.or_eq_true, decide_eq_true_eq, not_or, Nat.not_lt] at sized
    exact ⟨Nat.pos_of_ne_zero sized.1, sized.2⟩

/-- A size within the limits is kept, also where a text of fixed size becomes one of variable
size. -/
theorem mapChar_of_sized {type : RemoteType} (small : type.size ≤ 2000000) :
    mapChar type = .char type.size type.charset ∨
      mapChar type = .varchar type.size type.charset := by
  unfold mapChar
  split
  next => exact .inl rfl
  next => exact .inr (if_pos small)

/-- A text of fixed size is one of variable size if it is too long for the former. -/
theorem mapChar_fitsHost (type : RemoteType) : (mapChar type).FitsHost := by
  unfold mapChar
  split
  next small => exact small
  next long =>
    split
    next medium => exact ⟨Nat.lt_of_le_of_lt (Nat.zero_le _) (Nat.not_le.1 long), medium⟩
    next => exact widestText_fitsHost

/-- The precision of a timestamp is reduced to what the host's version keeps. -/
theorem mapTimestamp_fitsHost (version : HostVersion) (type : RemoteType) :
    (mapTimestamp version type).FitsHost := by
  unfold mapTimestamp
  split
  · exact Nat.min_le_right _ _
  · change 3 ≤ 9
    decide

/-- A text is restricted to ASCII exactly if it has one byte for each of its characters. -/
theorem charset_eq_ascii_iff (type : RemoteType) :
    type.charset = .ascii ↔ type.octets = type.size := by
  unfold RemoteType.charset
  split
  next same => exact iff_of_true rfl same
  next other => exact iff_of_false nofun other

/-! ### The rules of dialects -/

namespace TypeRules

variable (rules : TypeRules) (version : HostVersion) {type : RemoteType}

/-- A dialect falls back on the common rules for all types but those that it treats itself. -/
theorem map_eq_mapCommon (shared : type.typeCode.IsShared) :
    rules.map version type = mapCommon version type := by
  obtain ⟨notNumeric, notDecimal, named⟩ := shared
  cases rules with
  | common => rfl
  | oracle =>
    change mapOracle version type = _
    unfold mapOracle
    split
    next numeric => exact absurd numeric notNumeric
    next decimal => exact absurd decimal notDecimal
    next code other => exact absurd other (named code)
    next => rfl
  | postgresql =>
    have standard : type.typeCode.isVendorSpecific = false :=
      beq_eq_false_iff_ne.2 (named TypeCode.vendorCode)
    change mapPostgresql version type = _
    rw [mapPostgresql, standard]
    rfl

/-! #### Limits of the host -/

/-- Small integers are the one kind of number whose precision is not bounded.  They have the size
that is reported, or a usual one if there is none. -/
theorem map_of_small (small : type.typeCode = .tinyInt ∨ type.typeCode = .smallInt) :
    rules.map version type = .decimal (orDefault type.size 9) 0 := by
  have shared : type.typeCode.IsShared := by
    rcases small with tiny | small
    · rw [tiny]
      exact ⟨nofun, nofun, nofun⟩
    · rw [small]
      exact ⟨nofun, nofun, nofun⟩
  rw [rules.map_eq_mapCommon version shared]
  rcases small with tiny | small
  · rw [mapCommon, tiny]
  · rw [mapCommon, small]

/-- The common rules stay within the limits, small integers apart. -/
theorem mapCommon_fitsHost (notTiny : type.typeCode ≠ .tinyInt)
    (notSmall : type.typeCode ≠ .smallInt) : (mapCommon version type).FitsHost := by
  unfold mapCommon
  split
  next tiny => exact absurd tiny notTiny
  next small => exact absurd small notSmall
  case h_3 | h_4 | h_5 => exact boundedDecimal_fitsHost _ _
  case h_9 | h_10 | h_11 | h_12 => exact mapVarchar_fitsHost type
  case h_13 | h_14 => exact mapChar_fitsHost type
  case h_16 => exact mapTimestamp_fitsHost version type
  case h_19 | h_20 | h_21 => exact timeText_fitsHost
  case h_22 => exact widestText_fitsHost
  all_goals trivial

/-- No dialect leaves the limits of the host, small integers apart.  Rules of a dialect's own come
first, and all of them are bounded as well. -/
theorem map_fitsHost (notTiny : type.typeCode ≠ .tinyInt) (notSmall : type.typeCode ≠ .smallInt) :
    (rules.map version type).FitsHost := by
  have common := mapCommon_fitsHost version notTiny notSmall
  cases rules with
  | common => exact common
  | oracle =>
    -- Oracle treats numbers, binary numbers and timestamps itself, and falls back on the common
    -- rules.
    change (mapOracle version type).FitsHost
    unfold mapOracle
    split
    case h_1 =>
      split
      · trivial
      · split
        next small => exact small
        next => exact common
    case h_2 =>
      split
      · trivial
      · exact common
    case h_3 =>
      split
      · trivial
      · split
        · exact timeText_fitsHost
        · split
          · exact mapTimestamp_fitsHost version type
          · exact common
    case h_4 => exact common
  | postgresql =>
    change (mapPostgresql version type).FitsHost
    unfold mapPostgresql
    split
    · split
      case h_5 => exact ⟨by decide, by decide⟩
      case h_6 => exact common
      all_goals exact widestText_fitsHost
    · exact common

/-! #### Values -/

/-- A number becomes a decimal with its own digits, or a text if there are too many of them. -/
theorem mapCommon_of_number (number : type.typeCode = .decimal ∨ type.typeCode = .numeric) :
    mapCommon version type = DataType.widestText ∨
      mapCommon version type = .decimal type.size type.scale.toNat := by
  rcases number with decimal | numeric
  · rw [mapCommon, decimal]
    dsimp only
    unfold boundedDecimal
    split
    · exact .inr rfl
    · exact .inl rfl
  · rw [mapCommon, numeric]
    exact .inl rfl

/-- A number that stays a decimal keeps its precision, and its scale unless that is negative. -/
theorem map_of_number (number : type.typeCode = .decimal ∨ type.typeCode = .numeric) :
    rules.map version type = .double ∨ rules.map version type = DataType.widestText ∨
      rules.map version type = .decimal type.size type.scale.toNat := by
  have common := mapCommon_of_number version number
  cases rules with
  | common => exact .inr common
  | oracle =>
    change mapOracle version type = _ ∨ mapOracle version type = _ ∨ mapOracle version type = _
    unfold mapOracle
    rcases number with decimal | numeric
    · simp only [decimal]
      split
      · exact .inl rfl
      · exact .inr common
    · simp only [numeric]
      split
      · exact .inl rfl
      · split
        · exact .inr (.inr rfl)
        · exact .inr common
  | postgresql =>
    have standard : type.typeCode.isVendorSpecific = false := by
      rcases number with decimal | numeric
      · rw [decimal]
        rfl
      · rw [numeric]
        rfl
    change mapPostgresql version type = _ ∨ mapPostgresql version type = _ ∨
      mapPostgresql version type = _
    rw [mapPostgresql, standard]
    exact .inr common

theorem mapCommon_of_varchar (text : type.typeCode.IsVarchar) :
    mapCommon version type = mapVarchar type := by
  simp only [TypeCode.IsVarchar, List.mem_cons, List.not_mem_nil, or_false] at text
  unfold mapCommon
  rcases text with code | code | code | code <;> rw [code]

theorem mapCommon_of_char (text : type.typeCode.IsChar) :
    mapCommon version type = mapChar type := by
  simp only [TypeCode.IsChar, List.mem_cons, List.not_mem_nil, or_false] at text
  unfold mapCommon
  rcases text with code | code <;> rw [code]

/-- A text that is neither empty nor too long keeps its size.  The host can hold every value that
the source can. -/
theorem map_of_text (text : type.typeCode.IsVarchar ∨ type.typeCode.IsChar)
    (positive : 1 ≤ type.size) (small : type.size ≤ 2000000) :
    rules.map version type = .char type.size type.charset ∨
      rules.map version type = .varchar type.size type.charset := by
  rcases text with varchar | char
  · rw [rules.map_eq_mapCommon version varchar.isShared, mapCommon_of_varchar version varchar]
    exact .inr (mapVarchar_of_sized positive small)
  · rw [rules.map_eq_mapCommon version char.isShared, mapCommon_of_char version char]
    exact mapChar_of_sized small

end TypeRules

/-! ### Dialects -/

/-- A default within the bound stands for a size of zero, which is within the bound as well. -/
theorem orDefault_le_iff {size default bound : Nat} (inside : default ≤ bound) :
    orDefault size default ≤ bound ↔ size ≤ bound := by
  unfold orDefault
  split <;> omega

/-- A mapped type has parameters that the host accepts, unless it is that of a small integer with
too many digits: the precision of small integers alone is taken as it is reported. -/
theorem Dialect.mapped_type_fits_iff (dialect : Dialect) (version : HostVersion)
    (type : RemoteType) :
    (dialect.typeRules.map version type).FitsHost ↔ ¬ type.IsWideSmallInteger := by
  by_cases small : type.typeCode = .tinyInt ∨ type.typeCode = .smallInt
  · rw [dialect.typeRules.map_of_small version small, RemoteType.IsWideSmallInteger, not_and,
      DataType.FitsHost, orDefault_le_iff (by decide)]
    simp [small]
  · have fits : (dialect.typeRules.map version type).FitsHost :=
      dialect.typeRules.map_fitsHost version (fun tiny => small (.inl tiny))
        fun smallInt => small (.inr smallInt)
    exact iff_of_true fits fun wide => small wide.1

/-- A small integer with 37 digits becomes a decimal that the host does not have, where an integer
of the same size would become a text. -/
theorem small_integer_too_wide :
    ¬ ∀ dialect : Dialect, dialect.IsBuiltin → ∀ version type,
      (dialect.typeRules.map version type).FitsHost := by
  intro fits
  have builtin : Dialect.generic.IsBuiltin := ⟨"GENERIC", .empty, rfl⟩
  have tooWide : 37 ≤ 36 := fits .generic builtin .unknown ⟨.tinyInt, 37, 0, 0, ""⟩
  omega

/-- Numbers and texts keep all their values.  A number that is mapped to a decimal does so exactly
if its scale is not negative; for a text, its size is kept, and it is restricted to ASCII only if
it has one byte for each of its characters. -/
theorem Dialect.mapped_type_holds_values_iff (dialect : Dialect) (version : HostVersion)
    (type : RemoteType) :
    (∀ precision scale : Nat, type.typeCode = .decimal ∨ type.typeCode = .numeric →
      0 < type.size → dialect.typeRules.map version type = .decimal precision scale →
      ((∀ value, IsDecimal type.size type.scale value → IsDecimal precision scale value) ↔
        0 ≤ type.scale)) ∧
    (type.typeCode.IsVarchar ∨ type.typeCode.IsChar → 1 ≤ type.size → type.size ≤ 2000000 →
      ∃ charset,
        (dialect.typeRules.map version type = .char type.size charset ∨
          dialect.typeRules.map version type = .varchar type.size charset) ∧
        (charset = .ascii ↔ type.octets = type.size)) := by
  constructor
  · intro precision scale number positive mapped
    have parameters : precision = type.size ∧ scale = type.scale.toNat := by
      rcases dialect.typeRules.map_of_number version number with double | text | decimal
      · rw [double] at mapped
        cases mapped
      · rw [text] at mapped
        cases mapped
      · rw [decimal] at mapped
        cases mapped
        exact ⟨rfl, rfl⟩
    obtain ⟨rfl, rfl⟩ := parameters
    rw [forall_isDecimal_iff positive]
    omega
  · intro text positive small
    exact ⟨type.charset, dialect.typeRules.map_of_text version text positive small,
      charset_eq_ascii_iff type⟩

/-- Hundreds have no room in a decimal without zeros at its end; a text with three bytes a character
keeps its size. -/
theorem mapped_type_holds_values_hundreds :
    (¬ ∀ value, IsDecimal 5 (-2) value → IsDecimal 5 0 value) ∧
      ∃ charset,
        (Dialect.oracle.typeRules.map .unknown ⟨.varChar, 10, 0, 30, ""⟩ = .char 10 charset ∨
          Dialect.oracle.typeRules.map .unknown ⟨.varChar, 10, 0, 30, ""⟩ = .varchar 10 charset) ∧
        (charset = .ascii ↔ 30 = 10) := by
  constructor
  · intro held
    have numbers := (Dialect.oracle.mapped_type_holds_values_iff .unknown
      ⟨.decimal, 5, -2, 0, ""⟩).1 5 0 (.inl rfl) (by decide) rfl
    have atLeast : (0 : Int) ≤ -2 := numbers.1 held
    omega
  · exact (Dialect.oracle.mapped_type_holds_values_iff .unknown
      ⟨.varChar, 10, 0, 30, ""⟩).2 (.inl (by simp [TypeCode.IsVarchar])) (by decide) (by decide)

/-- A number with two zeros behind its five digits has no room in a decimal of five digits. -/
theorem negative_scale_narrowed :
    ¬ ∀ dialect : Dialect, dialect.IsBuiltin → ∀ version type (precision scale : Nat),
      type.typeCode = .decimal ∨ type.typeCode = .numeric → 0 < type.size →
      dialect.typeRules.map version type = .decimal precision scale →
      ∀ value, IsDecimal type.size type.scale value → IsDecimal precision scale value := by
  intro held
  have builtin : Dialect.generic.IsBuiltin := ⟨"GENERIC", .empty, rfl⟩
  have narrowed := held .generic builtin .unknown ⟨.decimal, 5, -2, 0, ""⟩ 5 0 (.inl rfl)
    (by decide) rfl
  obtain ⟨-, places⟩ := (forall_isDecimal_iff (by decide)).1 narrowed
  revert places
  decide

end Pushdown
