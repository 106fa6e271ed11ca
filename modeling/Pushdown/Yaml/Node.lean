/-
Module: Pushdown.Yaml.Node
Purpose: YAML documents as trees, how tokens become trees, and what they are read as.
Main exports: Yaml.Node, Yaml.Node.targets, Yaml.Document, Yaml.Document.ofTokens,
  Yaml.Document.ofText, Yaml.Reading, Yaml.Reading.text, Yaml.Reading.list
-/
import Pushdown.Yaml.Token

namespace Pushdown.Yaml

/-! ## Trees

A document is a tree in which some nodes are anchored and others are aliases of anchored ones.
Anchors are numbered: an anchor gets as its number how many names are known before it.  A name
that is declared again is the same name, so numbers may repeat, and then the last node with a
number, in the order of the text, is the one that aliases with this number stand for.
-/

/-- A node of a document. -/
inductive Node where
  /-- A text, and whether it stands without quotes and is no block. -/
  | scalar (isPlain : Bool) (text : String)
  | sequence (elements : List Node)
  | mapping (members : List (Node × Node))
  | reference (anchor : Nat)
  | anchored (anchor : Nat) (node : Node)
deriving Repr, Inhabited

namespace Node

/-- The node where nothing is written. -/
def missing : Node := .scalar true ""

mutual

/-- The number of scalars and aliases and of the starts and ends of collections. -/
def size : Node → Nat
  | .scalar _ _ => 1
  | .sequence elements => elementsSize elements + 2
  | .mapping members => membersSize members + 2
  | .reference _ => 1
  | .anchored _ node => node.size

/-- The size of all elements. -/
def elementsSize : List Node → Nat
  | [] => 0
  | element :: rest => element.size + elementsSize rest

/-- The size of all members. -/
def membersSize : List (Node × Node) → Nat
  | [] => 0
  | (key, value) :: rest => key.size + value.size + membersSize rest

end

mutual

/-- The anchored nodes with their numbers, in the order of the text. -/
def targets : Node → List (Nat × Node)
  | .scalar _ _ => []
  | .sequence elements => elementsTargets elements
  | .mapping members => membersTargets members
  | .reference _ => []
  | .anchored anchor node => (anchor, node) :: node.targets

/-- The anchored nodes of all elements. -/
def elementsTargets : List Node → List (Nat × Node)
  | [] => []
  | element :: rest => element.targets ++ elementsTargets rest

/-- The anchored nodes of all members. -/
def membersTargets : List (Node × Node) → List (Nat × Node)
  | [] => []
  | (key, value) :: rest => key.targets ++ value.targets ++ membersTargets rest

end

end Node

/-- A document.  A text without one counts as a document in which nothing is written. -/
structure Document where
  root : Node
deriving Inhabited

/-- The node that aliases of an anchor stand for. -/
def Document.target? (document : Document) (anchor : Nat) : Option Node :=
  document.root.targets.reverse.lookup anchor

/-! ## Trees from tokens

The grammar is read from left to right with one token of preview.  Nearly everything may be left
out, and what is left out is an empty plain scalar.  A text holds at most one document.

The descent takes fuel.  Between two tokens it goes at most four steps deeper, so four times the
number of tokens is always enough.
-/

/-- The tokens not yet read, and the names of anchors with their numbers. -/
structure TokenInput where
  tokens : List Token
  anchors : List (String × Nat) := []

/-- A computation that takes tokens. -/
abbrev Parsing := EStateM Error TokenInput

namespace Parsing

/-- The next token, if there is one. -/
def peek : Parsing (Option Token) := do
  let input ← get
  pure input.tokens.head?

/-- Takes the next token. -/
def skip : Parsing Unit := modify fun input => { input with tokens := input.tokens.drop 1 }

/-- Takes the next token if it is a given one. -/
def skipIf (token : Token) : Parsing Bool := do
  if (← peek) = some token then
    skip
    pure true
  else pure false

/-- Takes tokens as long as they are a given one. -/
def skipAll (token : Token) : Parsing Unit :=
  modify fun input => { input with tokens := input.tokens.dropWhile (· == token) }

/-- Gives a name the next number. -/
def declare (name : String) : Parsing Nat := do
  let input ← get
  let number := input.anchors.length
  set { input with anchors := (name, number) :: input.anchors.filter (·.1 != name) }
  pure number

/-- Whether the next token is one of several. -/
def isNext (tokens : List Token) : Parsing Bool := do
  match ← peek with
  | some token => pure (tokens.contains token)
  | none => pure false

/-- The name of an anchor, if one is next. -/
def anchorName : Parsing (Option String) := do
  match ← peek with
  | some (.anchor name) =>
    skip
    pure (some name)
  | _ => pure none

/-- The handle of a tag, if one is next. -/
def tagHandle : Parsing (Option String) := do
  match ← peek with
  | some (.tag handle) =>
    skip
    pure (some handle)
  | _ => pure none

/-- The anchor and the handle of the tag before a node, in any order. -/
def decoration : Parsing (Option String × Option String) := do
  match ← anchorName with
  | some name => pure (some name, ← tagHandle)
  | none =>
    let handle ← tagHandle
    if handle.isNone then pure (none, none) else pure (← anchorName, handle)

/-- A node, below an anchor if it has one. -/
def withAnchor (anchor : Option Nat) (node : Node) : Node :=
  match anchor with
  | some anchor => .anchored anchor node
  | none => node

/-- What ends a key or a value that is left out in a block. -/
def blockEnds : List Token := [.key, .value, .blockEnd]

/-- The number of an anchor with a name. -/
def number (name : Option String) : Parsing (Option Nat) := do
  match name with
  | some name => pure (some (← declare name))
  | none => pure none

mutual

/-- Reads a node.  `handles` are the declared tag handles, besides the empty one. -/
def node (handles : List String) (inBlock isIndentless : Bool) : (fuel : Nat) → Parsing Node
  | 0 => throw .missingNode
  | fuel + 1 => do
    match ← peek with
    | some (.reference name) =>
      skip
      match (← get).anchors.lookup name with
      | some anchor => pure (.reference anchor)
      | none => throw .undefinedAlias
    | _ =>
      let (name, handle) ← decoration
      if handle.any fun handle => handle != "" && !handles.contains handle then
        throw .undeclaredTagHandle
      else
        let anchor ← number name
        let body ← content handles inBlock isIndentless (name.isSome || handle.isSome) fuel
        pure (withAnchor anchor body)

/-- Reads what a node consists of.  It may be left out behind an anchor or a tag. -/
def content (handles : List String) (inBlock isIndentless isDecorated : Bool) :
    (fuel : Nat) → Parsing Node
  | 0 => throw .missingNode
  | fuel + 1 => do
    match ← peek with
    | some (.scalar isPlain text) =>
      skip
      pure (.scalar isPlain text)
    | some .flowSequence =>
      skip
      pure (.sequence (← flowElements handles true fuel))
    | some .flowMapping =>
      skip
      pure (.mapping (← flowMembers handles true fuel))
    | some .blockSequence =>
      if inBlock then
        skip
        pure (.sequence (← blockElements handles fuel))
      else leftOut isDecorated
    | some .blockMapping =>
      if inBlock then
        skip
        pure (.mapping (← blockMembers handles fuel))
      else leftOut isDecorated
    | some .entry =>
      if isIndentless then pure (.sequence (← indentlessElements handles fuel))
      else leftOut isDecorated
    | _ => leftOut isDecorated

/-- The node where nothing is written, if that is allowed. -/
def leftOut (isAllowed : Bool) : Parsing Node :=
  if isAllowed then pure .missing else throw .missingNode

/-- Reads a node of a block, unless one of several tokens tells that it is left out. -/
def blockNode (handles : List String) (isIndentless : Bool) (ends : List Token) :
    (fuel : Nat) → Parsing Node
  | 0 => throw .missingNode
  | fuel + 1 => do
    if ← isNext ends then pure .missing else node handles true isIndentless fuel

/-- Reads a node between brackets, unless one of several tokens tells that it is left out. -/
def flowNode (handles : List String) (ends : List Token) : (fuel : Nat) → Parsing Node
  | 0 => throw .missingNode
  | fuel + 1 => do
    if ← isNext ends then pure .missing else node handles false false fuel

/-- Reads the elements of a sequence of indented lines. -/
def blockElements (handles : List String) : (fuel : Nat) → Parsing (List Node)
  | 0 => throw .missingEntry
  | fuel + 1 => do
    if ← skipIf .entry then
      let element ← blockNode handles false [.entry, .blockEnd] fuel
      pure (element :: (← blockElements handles fuel))
    else if ← skipIf .blockEnd then pure []
    else throw .missingEntry

/-- Reads the elements of a sequence that is indented no deeper than the mapping around it. -/
def indentlessElements (handles : List String) : (fuel : Nat) → Parsing (List Node)
  | 0 => throw .missingEntry
  | fuel + 1 => do
    if ← skipIf .entry then
      let element ← blockNode handles false (.entry :: blockEnds) fuel
      pure (element :: (← indentlessElements handles fuel))
    else pure []

/-- Reads the members of a mapping of indented lines. -/
def blockMembers (handles : List String) : (fuel : Nat) → Parsing (List (Node × Node))
  | 0 => throw .missingKey
  | fuel + 1 => do
    if ← skipIf .key then
      let key ← blockNode handles true blockEnds fuel
      let hasValue ← skipIf .value
      let value ← if hasValue then blockNode handles true blockEnds fuel else pure .missing
      pure ((key, value) :: (← blockMembers handles fuel))
    else if ← skipIf .blockEnd then pure []
    else throw .missingKey

/-- Reads the elements of a sequence between brackets, from the first one or from the comma
before another one. -/
def flowElements (handles : List String) (isFirst : Bool) : (fuel : Nat) → Parsing (List Node)
  | 0 => throw .unclosedSequence
  | fuel + 1 => do
    if ← skipIf .flowSequenceEnd then pure []
    else
      let isSeparated ← if isFirst then pure true else skipIf .comma
      if !isSeparated then throw .unclosedSequence
      else if ← skipIf .flowSequenceEnd then pure []
      else if ← skipIf .key then
        let pair ← flowPair handles fuel
        pure (pair :: (← flowElements handles false fuel))
      else
        let element ← node handles false false fuel
        pure (element :: (← flowElements handles false fuel))

/-- Reads a mapping of one member that is written as an element.  The token that tells that its
key is left out is taken with it. -/
def flowPair (handles : List String) : (fuel : Nat) → Parsing Node
  | 0 => throw .missingKey
  | fuel + 1 => do
    let isLeftOut ← isNext [.value, .comma, .flowSequenceEnd]
    let key ←
      if isLeftOut then do
        skip
        pure .missing
      else node handles false false fuel
    let hasValue ← skipIf .value
    let value ←
      if hasValue then flowNode handles [.comma, .flowSequenceEnd] fuel else pure .missing
    pure (.mapping [(key, value)])

/-- Reads the members of a mapping between braces, from the first one or from the comma before
another one. -/
def flowMembers (handles : List String) (isFirst : Bool) :
    (fuel : Nat) → Parsing (List (Node × Node))
  | 0 => throw .unclosedMapping
  | fuel + 1 => do
    if ← skipIf .flowMappingEnd then pure []
    else
      let isSeparated ← if isFirst then pure true else skipIf .comma
      if !isSeparated then throw .unclosedMapping
      else if ← skipIf .flowMappingEnd then pure []
      else if ← skipIf .key then
        let key ← flowNode handles [.value, .comma, .flowMappingEnd] fuel
        let hasValue ← skipIf .value
        let value ←
          if hasValue then flowNode handles [.comma, .flowMappingEnd] fuel else pure .missing
        pure ((key, value) :: (← flowMembers handles false fuel))
      else
        let key ← node handles false false fuel
        pure ((key, .missing) :: (← flowMembers handles false fuel))

end

/-- The tag handles that need no declaration. -/
def standardHandles : List String := ["!", "!!"]

/-- Whether a version of the format is understood. -/
def isCompatible (major minor : Nat) : Bool := major == 1 && (minor == 1 || minor == 2)

/-- Reads directives: the declared handles. -/
def directives (hasVersion : Bool) (handles : List String) : (fuel : Nat) → Parsing (List String)
  | 0 => throw .missingDocumentStart
  | fuel + 1 => do
    match ← peek with
    | some (.version major minor) =>
      skip
      if hasVersion then throw .repeatedDirective
      else if isCompatible major minor then directives true handles fuel
      else throw .incompatibleVersion
    | some (.tagDirective handle) =>
      skip
      if handles.contains handle then throw .repeatedDirective
      else directives hasVersion (handle :: handles) fuel
    | _ => pure handles

/-- Whether a document starts here with directives or with a mark. -/
def startsExplicitly : Option Token → Bool
  | some (.version _ _) | some (.tagDirective _) | some .documentStart => true
  | _ => false

/-- Whether a document ends here. -/
def endsDocument : Option Token → Bool
  | none | some .documentEnd => true
  | token => startsExplicitly token

/-- Reads the root of a document behind its mark. -/
def markedRoot (fuel : Nat) : Parsing Node := do
  let handles ← directives false [] fuel
  if ← skipIf .documentStart then
    if endsDocument (← peek) then pure .missing
    else node (handles ++ standardHandles) true false fuel
  else throw .missingDocumentStart

/-- Reads the only document of a text. -/
def document (fuel : Nat) : Parsing Document := do
  let next ← peek
  let root ←
    if next.isNone then pure .missing
    else if startsExplicitly next then markedRoot fuel
    else node standardHandles true false fuel
  skipAll .documentEnd
  if (← peek).isSome then throw .severalDocuments else pure ⟨root⟩

end Parsing

/-- The document that tokens form. -/
def Document.ofTokens (tokens : List Token) : Except Error Document :=
  match (Parsing.document (4 * tokens.length + 4)).run ⟨tokens, []⟩ with
  | .ok document _ => .ok document
  | .error error _ => .error error

/-- The document that is written in a text. -/
def Document.ofText (text : String) : Except Error Document := do
  let tokens ← Token.ofText text
  Document.ofTokens tokens

/-! ## Readings

What a node is read as depends on what is asked for, not on how it looks: each scalar is a text,
also one that looks like a number, and an empty plain scalar is an empty list, map or record as
well.  Tags do not count.

Aliases are followed where they are met.  To keep small texts from standing for huge values, they
may be followed a hundred times for each part of the document.
-/

/-- A computation that may still follow some aliases. -/
abbrev Reading := EStateM Error Nat

/-- How often aliases may be followed for each part of the document. -/
def aliasesPerPart : Nat := 100

namespace Reading

/-- The node without its anchor. -/
def unanchored : Node → Node
  | .anchored _ node => unanchored node
  | node => node

/-- The node itself, or the one that it is an alias of. -/
def follow (document : Document) (node : Node) : Reading Node :=
  match unanchored node with
  | .reference anchor => do
    let left ← get
    match left, document.target? anchor with
    | left + 1, some target =>
      set left
      pure (unanchored target)
    | 0, _ => throw .tooManyAliases
    | _, none => throw .undefinedAlias
  | node => pure node

/-- Reads a text. -/
def text (document : Document) (node : Node) : Reading String := do
  match ← follow document node with
  | .scalar _ text => pure text
  | _ => throw .expectedText

/-- The elements of a sequence. -/
def elements (document : Document) (node : Node) : Reading (List Node) := do
  match ← follow document node with
  | .sequence elements => pure elements
  | .scalar true "" => pure []
  | _ => throw .expectedSequence

/-- Reads the nodes of a list in order. -/
def each {α : Type} (read : Node → Reading α) : List Node → Reading (List α)
  | [] => pure []
  | node :: rest => do
    let value ← read node
    let values ← each read rest
    pure (value :: values)

/-- Reads a list. -/
def list {α : Type} (document : Document) (read : Node → Reading α) (node : Node) :
    Reading (List α) := do
  each read (← elements document node)

/-- Reads the members of a mapping in order. -/
def eachMember (document : Document) : List (Node × Node) → Reading (List (String × String))
  | [] => pure []
  | (key, value) :: rest => do
    let key ← text document key
    let value ← text document value
    let members ← eachMember document rest
    pure ((key, value) :: members)

/-- Reads a map from texts to texts, in the order of the text. -/
def members (document : Document) (node : Node) : Reading (List (String × String)) := do
  match ← follow document node with
  | .mapping members => eachMember document members
  | .scalar true "" => pure []
  | _ => throw .expectedMapping

/-- The members of a mapping whose keys are among given names, none of them twice. -/
def known (document : Document) (names : List String) :
    List (Node × Node) → Reading (List (String × Node))
  | [] => pure []
  | (key, value) :: rest => do
    let key ← text document key
    let fields ← known document names rest
    if names.contains key then
      if (fields.lookup key).isSome then throw (.repeatedField key)
      else pure ((key, value) :: fields)
    else pure fields

/-- The fields of a record: given by name, or without names and in order. -/
def record (document : Document) (names : List String) (node : Node) :
    Reading (List (Option Node)) := do
  match ← follow document node with
  | .mapping members =>
    let fields ← known document names members
    pure (names.map fun name => fields.lookup name)
  | .sequence elements =>
    if names.length < elements.length then throw .superfluousElements
    else pure ((elements.map some) ++ List.replicate (names.length - elements.length) none)
  | .scalar true "" => pure (names.map fun _ => none)
  | _ => throw .expectedMapping

/-- Reads a field that has to be there. -/
def field {α : Type} (name : String) (read : Node → Reading α) : Option Node → Reading α
  | some node => read node
  | none => throw (.missingField name)

/-- Reads a field that may be missing. -/
def optional {α : Type} (default : α) (read : Node → Reading α) : Option Node → Reading α
  | some node => read node
  | none => pure default

end Reading

/-- Reads the document of a text. -/
def read {α : Type} (read : Document → Node → Reading α) (text : String) : Except Error α := do
  let document ← Document.ofText text
  match (read document document.root).run (aliasesPerPart * document.root.size) with
  | .ok value _ => pure value
  | .error error _ => throw error

/-- Reads a list of texts. -/
def readTexts (text : String) : Except Error (List String) :=
  read (fun document node => Reading.list document (Reading.text document) node) text

end Pushdown.Yaml
