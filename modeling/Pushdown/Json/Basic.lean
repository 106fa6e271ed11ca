/-
Module: Pushdown.Json.Basic
Purpose: JSON values, the dictionaries in them, and their text.
Main exports: Dictionary, Dictionary.get?, Dictionary.insert, Json, Json.Number, Json.ordered,
  Json.compact, Json.indented
-/
import Pushdown.Number

namespace Pushdown

/-! ## Dictionaries

Properties, change sets, registries and error contexts are finite maps from texts.  A dictionary
is the list of its entries in ascending order of keys, compared code point by code point, and its
type says so.  Hence two dictionaries that look up alike are equal, and every listing of keys is
already sorted.
-/

/-- A finite map from texts, its entries ascending by key. -/
structure Dictionary (α : Type) where
  entries : List (String × α)
  ascending : entries.Pairwise (fun left right => left.1 < right.1)

namespace Dictionary

variable {α : Type}

/-- The map without entries. -/
def empty : Dictionary α := ⟨[], .nil⟩

instance : Inhabited (Dictionary α) := ⟨empty⟩

/-- The value stored under a key. -/
def get? (map : Dictionary α) (key : String) : Option α :=
  map.entries.lookup key

/-- Whether a key is stored. -/
def contains (map : Dictionary α) (key : String) : Bool :=
  (map.get? key).isSome

/-- The stored keys, ascending. -/
def keys (map : Dictionary α) : List String :=
  map.entries.map Prod.fst

/-- The stored values, in the order of their keys. -/
def values (map : Dictionary α) : List α :=
  map.entries.map Prod.snd

/-- The number of entries. -/
def size (map : Dictionary α) : Nat := map.entries.length

/-- Whether there is no entry. -/
def isEmpty (map : Dictionary α) : Bool := map.entries.isEmpty

/-- Puts an entry at its place in an ascending list, in place of one with the same key. -/
def place (key : String) (value : α) : List (String × α) → List (String × α)
  | [] => [(key, value)]
  | entry :: rest =>
    if key < entry.1 then (key, value) :: entry :: rest
    else if entry.1 < key then entry :: place key value rest
    else (key, value) :: rest

theorem mem_place {key : String} {value : α} {entries : List (String × α)}
    {entry : String × α} (member : entry ∈ place key value entries) :
    entry = (key, value) ∨ entry ∈ entries := by
  induction entries with
  | nil => simpa [place] using member
  | cons head rest inductionHypothesis =>
    simp only [place] at member
    split at member
    · simp only [List.mem_cons] at member ⊢
      exact member
    · split at member
      · rcases List.mem_cons.1 member with same | later
        · exact .inr (List.mem_cons.2 (.inl same))
        · rcases inductionHypothesis later with new | old
          · exact .inl new
          · exact .inr (List.mem_cons.2 (.inr old))
      · rcases List.mem_cons.1 member with same | later
        · exact .inl same
        · exact .inr (List.mem_cons.2 (.inr later))

theorem place_ascending (key : String) (value : α) {entries : List (String × α)}
    (ascending : entries.Pairwise (fun left right => left.1 < right.1)) :
    (place key value entries).Pairwise (fun left right => left.1 < right.1) := by
  induction entries with
  | nil => simp [place]
  | cons head rest inductionHypothesis =>
    obtain ⟨below, restAscending⟩ := List.pairwise_cons.1 ascending
    simp only [place]
    split
    · next before =>
      refine List.pairwise_cons.2 ⟨?_, ascending⟩
      intro entry member
      rcases List.mem_cons.1 member with same | later
      · exact same ▸ before
      · exact String.lt_trans before (below entry later)
    · split
      · next after =>
        refine List.pairwise_cons.2 ⟨?_, inductionHypothesis restAscending⟩
        intro entry member
        rcases mem_place member with new | old
        · exact new ▸ after
        · exact below entry old
      · next notBefore notAfter =>
        have same : key = head.1 :=
          String.le_antisymm (String.not_lt.1 notAfter) (String.not_lt.1 notBefore)
        exact List.pairwise_cons.2 ⟨fun entry member => same ▸ below entry member, restAscending⟩

/-- The map with one entry added or replaced. -/
def insert (map : Dictionary α) (key : String) (value : α) : Dictionary α :=
  ⟨place key value map.entries, place_ascending key value map.ascending⟩

/-- The map restricted to the entries that pass a test. -/
def filter (map : Dictionary α) (test : String → α → Bool) : Dictionary α :=
  ⟨map.entries.filter fun entry => test entry.1 entry.2, map.ascending.filter _⟩

/-- The map without a key. -/
def erase (map : Dictionary α) (key : String) : Dictionary α :=
  map.filter fun other _ => other != key

/-- The map of a list of entries; of several entries with one key, the last counts. -/
def ofList (entries : List (String × α)) : Dictionary α :=
  entries.foldl (fun map entry => map.insert entry.1 entry.2) empty

end Dictionary

/-! ## Values

A JSON value keeps the members of an object in the order in which they were given.  Where only
the mapping from keys to values counts, `ordered` sorts the members by key at every depth and
keeps the last of several members with one key.
-/

/-- A JSON number: whole numbers are exact, all others are doubles. -/
inductive Json.Number where
  | whole (value : Int)
  | real (value : Double)
deriving Repr, DecidableEq, Inhabited

/-- A JSON value. -/
inductive Json where
  | null
  | bool (value : Bool)
  | number (value : Json.Number)
  | text (value : String)
  | array (elements : List Json)
  | object (members : List (String × Json))
deriving Repr, Inhabited, BEq

namespace Json

/-- A whole number as a value. -/
def whole (value : Int) : Json := .number (.whole value)

/-- A natural number as a value. -/
def natural (value : Nat) : Json := .number (.whole value)

/-- A list of texts as a value. -/
def texts (values : List String) : Json := .array (values.map .text)

/-- A text or, when there is none, null. -/
def optionalText : Option String → Json
  | some value => .text value
  | none => .null

/-- A natural number or, when there is none, null. -/
def optionalNatural : Option Nat → Json
  | some value => natural value
  | none => .null

mutual

/-- The value with the members of all its objects sorted by key, the last of equal keys kept. -/
def ordered : Json → Json
  | .array elements => .array (orderedElements elements)
  | .object members => .object (Dictionary.ofList (orderedMembers members)).entries
  | value => value

/-- The elements of an array, each `ordered`. -/
def orderedElements : List Json → List Json
  | [] => []
  | element :: rest => element.ordered :: orderedElements rest

/-- The members of an object, each value `ordered`. -/
def orderedMembers : List (String × Json) → List (String × Json)
  | [] => []
  | (key, value) :: rest => (key, value.ordered) :: orderedMembers rest

end

end Json

/-! ## Text

Strings are written with the shortest escape there is for quotes, backslashes and control
characters; every other character stands for itself.  The indented form puts each element and
member on a line of its own, two blanks deeper than its container; empty containers stay on one
line.
-/

namespace Json

/-- A hexadecimal digit. -/
def hexDigit (n : Nat) : Char :=
  if n < 10 then Char.ofNat ('0'.toNat + n) else Char.ofNat ('a'.toNat + n - 10)

/-- How a character is written inside a string. -/
def escaped (c : Char) : List Char :=
  match c with
  | '"' => ['\\', '"']
  | '\\' => ['\\', '\\']
  | '\n' => ['\\', 'n']
  | '\r' => ['\\', 'r']
  | '\t' => ['\\', 't']
  | '\x08' => ['\\', 'b']
  | '\x0c' => ['\\', 'f']
  | c =>
    if c.toNat < 0x20 then
      ['\\', 'u', '0', '0', hexDigit (c.toNat / 16), hexDigit (c.toNat % 16)]
    else [c]

/-- A string between quotes. -/
def quoted (text : String) : String :=
  String.ofList ('"' :: (text.toList.flatMap escaped ++ ['"']))

/-- A number as written. -/
def Number.toText : Number → String
  | .whole value => toString value
  | .real value => value.plain

mutual

/-- The value on one line, without blanks. -/
def compact : Json → String
  | .null => "null"
  | .bool true => "true"
  | .bool false => "false"
  | .number value => value.toText
  | .text value => quoted value
  | .array elements => "[" ++ ",".intercalate (compactElements elements) ++ "]"
  | .object members => "\x7b" ++ ",".intercalate (compactMembers members) ++ "\x7d"

/-- The elements of an array, each on one line. -/
def compactElements : List Json → List String
  | [] => []
  | element :: rest => element.compact :: compactElements rest

/-- The members of an object, each on one line. -/
def compactMembers : List (String × Json) → List String
  | [] => []
  | (key, value) :: rest => (quoted key ++ ":" ++ value.compact) :: compactMembers rest

end

/-- A line break with the indentation of a level. -/
def lineBreak (level : Nat) : String :=
  String.ofList ('\n' :: List.replicate (2 * level) ' ')

/-- Lines one level deeper than their container, between its brackets. -/
def block (level : Nat) (opening closing : String) : List String → String
  | [] => opening ++ closing
  | lines =>
    opening ++ lineBreak (level + 1) ++ ("," ++ lineBreak (level + 1)).intercalate lines ++
      lineBreak level ++ closing

mutual

/-- The value with each element and member on a line of its own. -/
def indentedAt (level : Nat) : Json → String
  | .array elements => block level "[" "]" (indentedElements (level + 1) elements)
  | .object members => block level "\x7b" "\x7d" (indentedMembers (level + 1) members)
  | .null => "null"
  | .bool true => "true"
  | .bool false => "false"
  | .number value => value.toText
  | .text value => quoted value

/-- The elements of an array at a level. -/
def indentedElements (level : Nat) : List Json → List String
  | [] => []
  | element :: rest => indentedAt level element :: indentedElements level rest

/-- The members of an object at a level. -/
def indentedMembers (level : Nat) : List (String × Json) → List String
  | [] => []
  | (key, value) :: rest =>
    (quoted key ++ ": " ++ indentedAt level value) :: indentedMembers level rest

end

/-- The value with each element and member on a line of its own. -/
def indented (value : Json) : String := indentedAt 0 value

end Json

end Pushdown
