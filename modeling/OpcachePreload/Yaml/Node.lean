import OpcachePreload.Yaml.TokenList
import OpcachePreload.Yaml.Tag

/-!
# YAML nodes

A document is a tree of scalars, sequences and mappings, each with its kind. An alias stands for the
node with its anchor; inside that node itself it is only a mark. Nodes may be nested to any depth.
-/

namespace OpcachePreload.Yaml

/-- A node of a document. -/
inductive Node where
  | scalar (tag : Tag) (text : String)
  | sequence (tag : Tag) (items : List Node)
  | mapping (tag : Tag) (entries : List (Node × Node))
  /-- A collection met again inside itself; `keyed` for a mapping. -/
  | cycle (keyed : Bool)
  deriving Repr, Inhabited

/-- A scalar without text. -/
def Node.empty : Node := .scalar .null ""

/-- What an anchor names: a node, or a collection that is not complete. -/
inductive Anchored where
  | complete (node : Node)
  | open (keyed : Bool)

/-- The state of building nodes: the tokens that are left, with the fault that ends them if there is
one, the expansions of handles, and the anchors. -/
structure Builder extends TokenStream where
  handles : List (String × String) := []
  anchors : List (String × Anchored) := []

/-- Building something from the tokens at the front. -/
abbrev Build (α : Type) := StateT Builder (Except Fault) α

namespace Builder

/-- Reject the text. -/
def reject {α : Type} (problem : Problem) : Build α :=
  throw (.malformed problem)

/-- The next token. The fault that ends the tokens is noticed where the next one is needed. -/
def peek : Build (Option Token) := do
  let builder ← get
  match builder.tokens, builder.fault? with
  | [], some fault => throw fault
  | tokens, _ => return tokens.head?

/-- Move over the next token. -/
def skip : Build Unit :=
  modify fun builder => { builder with tokens := builder.tokens.tail }

/-- Move over the next token if it is the given one. -/
def accept (token : Token) : Build Bool := do
  if (← peek) = some token then
    skip
    return true
  else return false

/-- Whether the next token is one of some. -/
def isNext (tokens : List Token) : Build Bool := do
  return (← peek).any tokens.contains

/-- Note what an anchor names. -/
def note (name : String) (anchored : Anchored) : Build Unit :=
  modify fun builder =>
    { builder with anchors := (name, anchored) :: builder.anchors.filter (·.1 != name) }

/-- The node that an alias stands for. -/
def aliased (name : String) : Build Node := do
  match (← get).anchors.find? (·.1 == name) with
  | some (_, .complete node) => return node
  | some (_, .open keyed) => return .cycle keyed
  | none => reject .undefinedAlias

/-- The properties of a node: its anchor and its tag, in either order. -/
structure Properties where
  anchor : Option String := none
  tag : Option String := none

/-- The full name of a tag. -/
def tagName (handle : Option String) (suffix : String) : Build String := do
  match handle with
  | none => return suffix
  | some handle =>
    match (← get).handles.find? (·.1 == handle) with
    | none => reject .undefinedHandle
    | some (_, expansion) => return expansion ++ suffix

/-- Read the tag at the front, if there is one: its handle and what follows it. -/
def tag? : Build (Option (Option String × String)) := do
  match ← peek with
  | some (.tag handle suffix) =>
    skip
    return some (handle, suffix)
  | _ => return none

/-- Read the anchor at the front, if there is one. -/
def anchor? : Build (Option String) := do
  match ← peek with
  | some (.anchor name) =>
    skip
    return some name
  | _ => return none

/-- Read the properties at the front. The tag is made out when both have been read. -/
def properties : Build Properties := do
  let first ← anchor?
  match ← tag? with
  | none => return ⟨first, none⟩
  | some (handle, suffix) =>
    let anchor ← if first.isSome then pure first else anchor?
    return ⟨anchor, some (← tagName handle suffix)⟩

/-- The kind of a collection with the given properties. -/
def Properties.kind (properties : Properties) (usual : Tag) : Tag :=
  match properties.tag with
  | none => usual
  | some "!" => usual
  | some name => .ofName name

/-- The kind of a scalar with the given properties. -/
def Properties.scalarKind (properties : Properties) (plain : Bool) (text : String) : Tag :=
  match properties.tag with
  | none => if plain then Scalar.resolve text.toList else .text
  | some "!" => Scalar.resolve text.toList
  | some name => .ofName name

/-- Check that the anchor of a node is new. -/
def checkAnchor (properties : Properties) : Build Unit := do
  if let some name := properties.anchor then
    if (← get).anchors.any (·.1 == name) then reject .duplicateAnchor

/-- Note the anchor of a node. -/
def noteAnchor (properties : Properties) (anchored : Anchored) : Build Unit := do
  if let some name := properties.anchor then note name anchored

/-- Where a node stands decides which tokens may start it: block collections, or a sequence that is
not indented. -/
inductive Setting where
  | flow
  | block
  | blockOrSequence
  deriving DecidableEq

mutual

/-- Build a node. -/
def node : (fuel : Nat) → Setting → Build Node
  | 0, _ => reject .expectedNode
  | fuel + 1, setting => do
    if let some (.alias name) := ← peek then
      skip
      return ← aliased name
    let properties ← properties
    let next ← peek
    checkAnchor properties
    let collection (keyed : Bool) (content : Build Node) : Build Node := do
      noteAnchor properties (.open keyed)
      let found ← content
      noteAnchor properties (.complete found)
      return found
    let scalar (text : String) (plain : Bool) : Build Node := do
      let found := Node.scalar (properties.scalarKind plain text) text
      noteAnchor properties (.complete found)
      return found
    let ofItems (items : Build (List Node)) : Build Node :=
      collection false do return .sequence (properties.kind .sequence) (← items)
    let ofEntries (entries : Build (List (Node × Node))) : Build Node :=
      collection true do return .mapping (properties.kind .mapping) (← entries)
    match next with
    | some .blockEntry =>
      if setting = .blockOrSequence then ofItems (looseItems fuel)
      else if properties.anchor.isSome || properties.tag.isSome then scalar "" true
      else reject .expectedNode
    | some (.scalar text plain) =>
      skip
      scalar text plain
    | some .flowSequenceStart =>
      skip
      ofItems (flowItems fuel true)
    | some .flowMappingStart =>
      skip
      ofEntries (flowEntries fuel true)
    | some .blockSequenceStart =>
      if setting = .flow then
        if properties.anchor.isSome || properties.tag.isSome then scalar "" true
        else reject .expectedNode
      else
        skip
        ofItems (blockItems fuel)
    | some .blockMappingStart =>
      if setting = .flow then
        if properties.anchor.isSome || properties.tag.isSome then scalar "" true
        else reject .expectedNode
      else
        skip
        ofEntries (blockEntries fuel)
    | _ =>
      if properties.anchor.isSome || properties.tag.isSome then scalar "" true
      else reject .expectedNode

/-- Build a node, or an empty scalar if one of some tokens (or none at all) is next. -/
def nodeUnless : (fuel : Nat) → Setting → (ends : List Token) → Build Node
  | 0, _, _ => reject .expectedNode
  | fuel + 1, setting, ends => do
    if ← isNext ends then return .empty else node fuel setting

/-- Build the items of a block sequence. -/
def blockItems : (fuel : Nat) → Build (List Node)
  | 0 => reject .expectedBlockEnd
  | fuel + 1 => do
    if ← accept .blockEntry then
      let item ← nodeUnless fuel .block [.blockEntry, .blockEnd]
      return item :: (← blockItems fuel)
    else if ← accept .blockEnd then return []
    else reject .expectedBlockEnd

/-- Build the items of a sequence that is not indented. -/
def looseItems : (fuel : Nat) → Build (List Node)
  | 0 => reject .expectedBlockEnd
  | fuel + 1 => do
    if ← accept .blockEntry then
      let item ← nodeUnless fuel .block [.blockEntry, .key, .value, .blockEnd]
      return item :: (← looseItems fuel)
    else return []

/-- Build the entries of a block mapping. -/
def blockEntries : (fuel : Nat) → Build (List (Node × Node))
  | 0 => reject .expectedBlockEnd
  | fuel + 1 => do
    if ← accept .key then
      let key ← nodeUnless fuel .blockOrSequence [.key, .value, .blockEnd]
      let value ←
        if ← accept .value then nodeUnless fuel .blockOrSequence [.key, .value, .blockEnd]
        else pure .empty
      return (key, value) :: (← blockEntries fuel)
    else if ← accept .blockEnd then return []
    else reject .expectedBlockEnd

/-- Build the items of a sequence in brackets. A key starts a mapping of one entry. -/
def flowItems : (fuel : Nat) → (first : Bool) → Build (List Node)
  | 0, _ => reject .expectedFlowEntry
  | fuel + 1, first => do
    if ← accept .flowSequenceEnd then return []
    if !first then
      if !(← accept .flowEntry) then reject .expectedFlowEntry
    if ← accept .key then
      let key ← nodeUnless fuel .flow [.value, .flowEntry, .flowSequenceEnd]
      let value ←
        if ← accept .value then nodeUnless fuel .flow [.flowEntry, .flowSequenceEnd]
        else pure .empty
      return .mapping .mapping [(key, value)] :: (← flowItems fuel false)
    else if ← accept .flowSequenceEnd then return []
    else
      let item ← node fuel .flow
      return item :: (← flowItems fuel false)

/-- Build the entries of a mapping in braces. -/
def flowEntries : (fuel : Nat) → (first : Bool) → Build (List (Node × Node))
  | 0, _ => reject .expectedFlowEntry
  | fuel + 1, first => do
    if ← accept .flowMappingEnd then return []
    if !first then
      if !(← accept .flowEntry) then reject .expectedFlowEntry
    if ← accept .key then
      let key ← nodeUnless fuel .flow [.value, .flowEntry, .flowMappingEnd]
      let value ←
        if ← accept .value then nodeUnless fuel .flow [.flowEntry, .flowMappingEnd]
        else pure .empty
      return (key, value) :: (← flowEntries fuel false)
    else if ← accept .flowMappingEnd then return []
    else
      let key ← node fuel .flow
      return (key, .empty) :: (← flowEntries fuel false)

end

/-- Read the directives at the front and check that they fit together. -/
def directives : (fuel : Nat) → (versions : Nat) → Build Unit
  | 0, _ => return ()
  | fuel + 1, versions => do
    match ← peek with
    | some (.directive directive) =>
      skip
      match directive with
      | .version major =>
        if versions != 0 || major != 1 then reject .badDirective
        directives fuel (versions + 1)
      | .handle handle expansion =>
        if (← get).handles.any (·.1 == handle) then reject .badDirective
        modify fun builder => { builder with handles := builder.handles ++ [(handle, expansion)] }
        directives fuel versions
      | .other => directives fuel versions
    | _ => return ()

/-- The handles that need no directive. -/
def usualHandles : List (String × String) := [("!", "!"), ("!!", standardHandle)]

/-- Move over the ends of documents. -/
def skipEnds : (fuel : Nat) → Build Unit
  | 0 => return ()
  | fuel + 1 => do
    if ← accept .documentEnd then skipEnds fuel

/-- Check that no other document follows. Its directives are looked at before it is rejected. -/
def checkEnd (size : Nat) : Build Unit := do
  skipEnds size
  if (← peek).isSome then
    modify fun builder => { builder with handles := [] }
    directives size 0
    if ← accept .documentStart then reject .severalDocuments else reject .expectedDocumentStart

/-- Build the only document; nothing if there is none. -/
def document : Build (Option Node) := do
  let size := (← get).tokens.length
  let fuel := 4 * size + 4
  match ← peek with
  | none => return none
  | some (.directive _) | some .documentStart =>
    directives size 0
    modify fun builder => { builder with
      handles := builder.handles ++
        usualHandles.filter fun usual => !builder.handles.any (·.1 == usual.1) }
    if !(← accept .documentStart) then reject .expectedDocumentStart
    let next ← peek
    let isEmpty := match next with
      | none | some (.directive _) | some .documentStart | some .documentEnd => true
      | _ => false
    let found ← if isEmpty then pure .empty else node fuel .block
    checkEnd size
    return some found
  | some _ =>
    modify fun builder => { builder with handles := usualHandles }
    let found ← node fuel .block
    checkEnd size
    return some found

end Builder

/-- The node that some tokens make. -/
def Node.ofTokens (stream : TokenStream) : Except Fault (Option Node) :=
  (Builder.document.run { stream with }).map Prod.fst

end OpcachePreload.Yaml
