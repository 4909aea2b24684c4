import SecretMount.Yaml.Token

/-!
# YAML nodes

`Node.readDocument` is the grammar of YAML: it builds the one node of a document from its tokens.
An alias refers to an anchor by a number. The number of an anchor is how many different anchor
names stand before it, so that a name used again moves on to a new number, which the next new name
shares; `Document.target?` finds the last node with a number. Every call in the grammar takes one
unit of fuel.
-/

namespace SecretMount.Yaml

/-- A node. A scalar says whether it is plain, and keeps its tag. -/
inductive Node where
  | scalar (text : String) (plain : Bool) (tag : Option String)
  | sequence (items : List Node)
  | mapping (entries : List (Node × Node))
  | aliasOf (anchor : Nat)
  | anchored (anchor : Nat) (node : Node)
deriving Repr

namespace Node

/-- The node that stands where nothing is written. -/
def empty : Node := .scalar "" true none

/-- What the grammar keeps: the tokens that are left, what tag handles stand for, and the numbers
of the anchor names so far, newest first. -/
structure Reading where
  tokens : List Token
  handles : List (String × String) := []
  anchors : List (String × Nat) := []

/-- A part of the grammar. -/
abbrev Reader := StateT Reading Option

/-- The next token, if there is one. -/
def peek : Reader (Option Token) := do
  pure (← get).tokens.head?

/-- Past the next token. -/
def skip : Reader Unit :=
  modify fun s => { s with tokens := s.tokens.drop 1 }

/-- The number of an anchor; the same name has a new number from then on. -/
def newAnchor (name : String) : Reader Nat := do
  let s ← get
  let number := s.anchors.length
  set { s with anchors := (name, number) :: s.anchors.filter fun e => e.1 ≠ name }
  pure number

/-- The number that an anchor name has now. -/
def anchorNumber (name : String) : Reader Nat := do
  match (← get).anchors.find? fun e => e.1 = name with
  | some e => pure e.2
  | none => failure

/-- The handles that stand for something without a directive. -/
def standardHandles : List (String × String) :=
  [("!", "!"), ("!!", "tag:yaml.org,2002:")]

/-- A whole tag; its handle must be known. -/
def wholeTag (handle suffix : String) : Reader String := do
  if handle = "" then pure suffix
  else
    match ((← get).handles ++ standardHandles).find? fun e => e.1 = handle with
    | some e => pure (e.2 ++ suffix)
    | none => failure

/-- The anchor of a node, if the next token is one. -/
def readAnchor : Reader (Option String) := do
  match ← peek with
  | some (.anchor name) => do
    skip
    pure (some name)
  | _ => pure none

/-- The tag of a node, if the next token is one. -/
def readTag : Reader (Option String) := do
  match ← peek with
  | some (.tag handle suffix) => do
    skip
    pure (some (← wholeTag handle suffix))
  | _ => pure none

/-- The anchor and the tag of a node, in either order. -/
def readProperties : Reader (Option String × Option String) := do
  match ← readAnchor with
  | some name => pure (some name, ← readTag)
  | none => do
    let tag ← readTag
    if tag.isSome then pure (← readAnchor, tag) else pure (none, none)

/-- The node under an anchor. -/
def underAnchor : Option Nat → Node → Node
  | some number, node => .anchored number node
  | none, node => node

/-- Whether the next token is one of those that leave the place before it empty. -/
def emptyBefore (tokens : List Token) : Reader Bool := do
  match ← peek with
  | some t => pure (tokens.contains t)
  | none => pure false

mutual

/-- A node, in block style if that is allowed here; as the value of a key it may be a sequence
whose entries stand at the column of the key. -/
def readNode : Nat → Bool → Bool → Reader Node
  | 0, _, _ => failure
  | fuel + 1, block, indentless => do
    match ← peek with
    | some (.aliasOf name) => do
      let number ← anchorNumber name
      skip
      pure (.aliasOf number)
    | _ => do
      let (anchor, tag) ← readProperties
      let bare := anchor.isNone && tag.isNone
      let number ← anchor.mapM newAnchor
      let content ←
        match ← peek with
        | some (.scalar text plain) => do
          skip
          pure (.scalar text plain (if tag = some "!" then none else tag))
        | some .flowSequenceStart => do
          skip
          pure (.sequence (← readFlowItems fuel true))
        | some .flowMappingStart => do
          skip
          pure (.mapping (← readFlowEntries fuel true))
        | some .blockSequenceStart =>
          if block then do
            skip
            pure (.sequence (← readBlockItems fuel))
          else if bare then failure
          else pure (.scalar "" true tag)
        | some .blockMappingStart =>
          if block then do
            skip
            pure (.mapping (← readBlockEntries fuel))
          else if bare then failure
          else pure (.scalar "" true tag)
        | some .blockEntry =>
          if indentless then do pure (.sequence (← readIndentlessItems fuel))
          else if bare then failure
          else pure (.scalar "" true tag)
        | _ => if bare then failure else pure (.scalar "" true tag)
      pure (underAnchor number content)

/-- The entries of a block sequence and its end. -/
def readBlockItems : Nat → Reader (List Node)
  | 0 => failure
  | fuel + 1 => do
    match ← peek with
    | some .blockEntry => do
      skip
      let item ← if ← emptyBefore [.blockEntry, .blockEnd] then pure empty
        else readNode fuel true false
      pure (item :: (← readBlockItems fuel))
    | some .blockEnd => do
      skip
      pure []
    | _ => failure

/-- The entries of a sequence that has no indentation of its own. -/
def readIndentlessItems : Nat → Reader (List Node)
  | 0 => failure
  | fuel + 1 => do
    match ← peek with
    | some .blockEntry => do
      skip
      let item ← if ← emptyBefore [.blockEntry, .key, .value, .blockEnd] then pure empty
        else readNode fuel true false
      pure (item :: (← readIndentlessItems fuel))
    | _ => pure []

/-- A key or value of a block mapping after its token. -/
def readBlockPart : Nat → Reader Node
  | 0 => failure
  | fuel + 1 => do
    if ← emptyBefore [.key, .value, .blockEnd] then pure empty else readNode fuel true true

/-- The value of a block mapping's entry, empty if there is no token for one. -/
def readBlockValue : Nat → Reader Node
  | 0 => failure
  | fuel + 1 => do
    match ← peek with
    | some .value => do
      skip
      readBlockPart fuel
    | _ => pure empty

/-- The entries of a block mapping and its end. -/
def readBlockEntries : Nat → Reader (List (Node × Node))
  | 0 => failure
  | fuel + 1 => do
    match ← peek with
    | some .key => do
      skip
      let key ← readBlockPart fuel
      let item ← readBlockValue fuel
      pure ((key, item) :: (← readBlockEntries fuel))
    | some .blockEnd => do
      skip
      pure []
    | _ => failure

/-- The items of a sequence in brackets and its end. A key among them makes a mapping of one
entry. -/
def readFlowItems : Nat → Bool → Reader (List Node)
  | 0, _ => failure
  | fuel + 1, first => do
    if (← peek) = some .flowSequenceEnd then
      skip
      pure []
    else
      if !first then
        if (← peek) = some .flowEntry then skip else failure
      match ← peek with
      | some .flowSequenceEnd => do
        skip
        pure []
      | some .key => do
        skip
        let item ← readFlowPair fuel
        pure (item :: (← readFlowItems fuel false))
      | _ => do
        let item ← readNode fuel false false
        pure (item :: (← readFlowItems fuel false))

/-- A mapping of one entry, after the token of its key. Where the key is missing, the token after it
is passed over. -/
def readFlowPair : Nat → Reader Node
  | 0 => failure
  | fuel + 1 => do
    let key ← if ← emptyBefore [.value, .flowEntry, .flowSequenceEnd] then do
        skip
        pure empty
      else readNode fuel false false
    let item ← readFlowValue fuel .flowSequenceEnd
    pure (.mapping [(key, item)])

/-- The value of an entry in brackets, empty if there is no token for one. -/
def readFlowValue : Nat → Token → Reader Node
  | 0, _ => failure
  | fuel + 1, close => do
    match ← peek with
    | some .value => do
      skip
      if ← emptyBefore [.flowEntry, close] then pure empty else readNode fuel false false
    | _ => pure empty

/-- The entries of a mapping in brackets and its end. A node without the token of a key is a key
without a value. -/
def readFlowEntries : Nat → Bool → Reader (List (Node × Node))
  | 0, _ => failure
  | fuel + 1, first => do
    if (← peek) = some .flowMappingEnd then
      skip
      pure []
    else
      if !first then
        if (← peek) = some .flowEntry then skip else failure
      match ← peek with
      | some .flowMappingEnd => do
        skip
        pure []
      | some .key => do
        skip
        let key ← if ← emptyBefore [.value, .flowEntry, .flowMappingEnd] then pure empty
          else readNode fuel false false
        let item ← readFlowValue fuel .flowMappingEnd
        pure ((key, item) :: (← readFlowEntries fuel false))
      | _ => do
        let key ← readNode fuel false false
        pure ((key, empty) :: (← readFlowEntries fuel false))

end

/-- The directives before a document: one version at most, of YAML 1.1 or 1.2, and each handle
once. -/
def readDirectives : Nat → Bool → Reader Unit
  | 0, _ => failure
  | fuel + 1, versioned => do
    match ← peek with
    | some (.versionDirective major minor) =>
      if versioned then failure
      else if major = 1 ∧ (minor = 1 ∨ minor = 2) then do
        skip
        readDirectives fuel true
      else failure
    | some (.tagDirective handle stem) => do
      let s ← get
      if s.handles.any fun e => e.1 = handle then failure
      skip
      modify fun s => { s with handles := (handle, stem) :: s.handles }
      readDirectives fuel versioned
    | _ => pure ()

/-- Whether a token belongs to the frame of documents. -/
def isFrame : Token → Bool
  | .versionDirective _ _ | .tagDirective _ _ | .documentStart | .documentEnd => true
  | _ => false

/-- The node of a document after its start. -/
def readContent (fuel : Nat) : Reader Node := do
  match ← peek with
  | none => pure empty
  | some t => if isFrame t then pure empty else readNode fuel true false

/-- Past the indicators of a document's end. -/
def skipEnds : Nat → Reader Unit
  | 0 => failure
  | fuel + 1 => do
    if (← peek) = some .documentEnd then
      skip
      skipEnds fuel

/-- The node of the one document that the tokens make, or nothing if there is none. -/
def readDocument (fuel : Nat) : Reader (Option Node) := do
  match ← peek with
  | none => pure none
  | some t =>
    let node ←
      match t with
      | .versionDirective _ _ | .tagDirective _ _ | .documentStart => do
        readDirectives fuel false
        if (← peek) = some .documentStart then
          skip
          readContent fuel
        else failure
      | _ => readNode fuel true false
    skipEnds fuel
    if (← peek).isSome then failure
    pure (some node)

mutual

/-- The anchored nodes in the order of their starts. -/
def targets : Node → List (Nat × Node)
  | .sequence items => targetsOfItems items
  | .mapping entries => targetsOfEntries entries
  | .anchored number node => (number, node) :: targets node
  | _ => []

/-- The anchored nodes of several nodes. -/
def targetsOfItems : List Node → List (Nat × Node)
  | [] => []
  | item :: rest => targets item ++ targetsOfItems rest

/-- The anchored nodes of the entries of a mapping. -/
def targetsOfEntries : List (Node × Node) → List (Nat × Node)
  | [] => []
  | (key, item) :: rest => targets key ++ targets item ++ targetsOfEntries rest

end

mutual

/-- The size of a node: scalars and aliases count one, collections two and their parts. -/
def size : Node → Nat
  | .sequence items => 2 + sizeOfItems items
  | .mapping entries => 2 + sizeOfEntries entries
  | .anchored _ node => size node
  | _ => 1

/-- The size of several nodes. -/
def sizeOfItems : List Node → Nat
  | [] => 0
  | item :: rest => size item + sizeOfItems rest

/-- The size of the entries of a mapping. -/
def sizeOfEntries : List (Node × Node) → Nat
  | [] => 0
  | (key, item) :: rest => size key + size item + sizeOfEntries rest

end

end Node

/-- A document: its node and the nodes that aliases can refer to. -/
structure Document where
  root : Node
  targets : List (Nat × Node)

/-- The node that an alias with the given number stands for, the last one that starts with it. -/
def Document.target? (d : Document) (number : Nat) : Option Node :=
  (d.targets.reverse.find? fun e => e.1 = number).map Prod.snd

/-- The document of a list of tokens; nothing in the inner option if there are none. -/
def Document.ofTokens? (tokens : List Token) : Option (Option Document) := do
  let fuel := 4 * tokens.length + 4
  let (root, _) ← (Node.readDocument fuel).run { tokens }
  pure (root.map fun node => ⟨node, node.targets⟩)

end SecretMount.Yaml
