import GoFixtures.Yaml.Tag
import GoFixtures.Yaml.Token

/-!
# Nodes of a document

The tokens of a document make up scalars, sequences and mappings. Nodes are numbered, and a collection holds
the numbers of its parts: a node that has a name can stand at several places, even within itself.

* `Document.ofTokens` builds the nodes of a stream that holds at most one document.
-/

namespace GoFixtures.Yaml

/-- What is written at a node: the code points of a scalar, or the numbers of other nodes. -/
inductive Content
  | scalar (codes : List Nat)
  | sequence (items : List Nat)
  | mapping (entries : List (Nat × Nat))
deriving DecidableEq

/-- A node. -/
structure Node where
  tag : Tag
  content : Content
deriving DecidableEq

/-- A scalar of which nothing is written. -/
def Node.nothing : Node := ⟨.null, .scalar []⟩

/-- The nodes of a document, and the number of the outermost one. -/
structure Document where
  nodes : Array Node
  root : Nat

/-- What is known in the middle of the tokens: those that are left, what keeps more from being read, the nodes
so far, the nodes that have a name, and what the handles of tags stand for. -/
structure Build where
  tokens : List Token
  fault : Option Error
  nodes : Array Node
  anchors : List (String × Nat)
  handles : List (String × String)

/-- Takes tokens and makes something of them. -/
abbrev Builder := StateT Build (Except Error)

namespace Builder

/-- The kind of the next token. Behind the last token there is the end of the stream. -/
def peek : Builder TokenKind := do
  let b ← get
  match b.tokens.head?, b.fault with
  | some t, _ => return t.kind
  | none, some e => throw e
  | none, none => return .streamEnd

/-- Takes the next token. -/
def take : Builder Unit := modify fun b => { b with tokens := b.tokens.tail }

/-- Stops here. -/
def fail {α : Type} (reason : Reason) : Builder α := do
  match (← get).tokens.head? with
  | some t => throw ⟨reason, t.line, t.column⟩
  | none => throw ⟨reason, 0, 0⟩

/-- Adds a node. -/
def add (n : Node) : Builder Nat :=
  modifyGet fun b => (b.nodes.size, { b with nodes := b.nodes.push n })

/-- Adds a scalar of which nothing is written. -/
def addNothing : Builder Nat := add .nothing

/-- Says what is written at a node. -/
def fill (id : Nat) (content : Content) : Builder Unit :=
  modify fun b => { b with nodes := b.nodes.modify id fun n => { n with content } }

/-- The full name of a tag. -/
def tagName (handle : Option String) (suffix : String) : Builder String := do
  match handle with
  | none => return suffix
  | some handle =>
    match (← get).handles.find? fun h => h.1 = handle with
    | some (_, start) => return start ++ suffix
    | none => fail (.unknownHandle handle)

/-- The tag before a node, as it is written. -/
def tag? : Builder (Option (Option String × String)) := do
  match ← peek with
  | .tag handle suffix =>
    take
    return some (handle, suffix)
  | _ => return none

/-- The name before a node. -/
def anchor? : Builder (Option String) := do
  match ← peek with
  | .anchor name =>
    take
    return some name
  | _ => return none

/-- The name and the tag before a node, in either order. What a tag means is asked when both are known. -/
def properties : Builder (Option String × Option String) := do
  let (anchor, tag) ← match ← anchor? with
    | some name => pure (some name, ← tag?)
    | none =>
      let tag ← tag?
      pure (← if tag.isSome then anchor? else pure none, tag)
  match tag with
  | some (handle, suffix) => return (anchor, some (← tagName handle suffix))
  | none => return (anchor, none)

/-- Gives a node a name that no other node has. -/
def define (anchor : Option String) (id : Nat) : Builder Unit := do
  match anchor with
  | none => return
  | some name =>
    if (← get).anchors.any fun a => a.1 = name then fail (.repeatedAnchor name)
    else modify fun b => { b with anchors := (name, id) :: b.anchors }

/-- Adds a node that may have a name. -/
def addNamed (anchor : Option String) (n : Node) : Builder Nat := do
  let id ← add n
  define anchor id
  return id

/-- The tag of a collection that has one for itself; an exclamation mark alone says nothing. -/
def collectionTag (tag : Option String) (standard : Tag) : Tag :=
  match tag with
  | none => standard
  | some name => if name = "!" then standard else .ofName name

/-- The tag of a scalar. -/
def scalarTag (tag : Option String) ( isPlain : Bool) (codes : List Nat) : Tag :=
  match tag with
  | none => if isPlain then .ofPlain codes else .string
  | some name => if name = "!" then .ofPlain codes else .ofName name

/-- Where a node stands decides which collections it can be. -/
inductive Place
  | flow
  | block
  | blockOrEntries

mutual

/-- A node. `depth` bounds the way down. -/
def node : Nat → Place → Builder Nat
  | 0, _ => fail .noContent
  | depth + 1, place => do
    match ← peek with
    | .reference name =>
      match (← get).anchors.find? fun a => a.1 = name with
      | some (_, id) =>
        take
        return id
      | none => fail (.unknownAlias name)
    | _ =>
      let (anchor, tag) ← properties
      let addSequence := addNamed anchor ⟨collectionTag tag .sequence, .sequence []⟩
      let addMapping := addNamed anchor ⟨collectionTag tag .mapping, .mapping []⟩
      match ← peek, place with
      | .blockEntry, .blockOrEntries =>
        let id ← addSequence
        fill id (.sequence (← entries depth))
        return id
      | .scalar codes isPlain, _ =>
        take
        addNamed anchor ⟨scalarTag tag isPlain codes, .scalar codes⟩
      | .flowSequenceStart, _ =>
        let id ← addSequence
        take
        fill id (.sequence (← flowItems depth true))
        return id
      | .flowMappingStart, _ =>
        let id ← addMapping
        take
        fill id (.mapping (← flowMembers depth true))
        return id
      | .sequenceStart, .block | .sequenceStart, .blockOrEntries =>
        let id ← addSequence
        take
        fill id (.sequence (← items depth))
        return id
      | .mappingStart, .block | .mappingStart, .blockOrEntries =>
        let id ← addMapping
        take
        fill id (.mapping (← members depth))
        return id
      | _, _ =>
        if anchor.isSome || tag.isSome then addNamed anchor ⟨scalarTag tag true [], .scalar []⟩
        else fail .noContent

/-- The items of a block up to its end. -/
def items : Nat → Builder (List Nat)
  | 0 => fail .unclosedBlock
  | depth + 1 => do
    match ← peek with
    | .blockEntry =>
      take
      let first ← match ← peek with
        | .blockEntry | .blockEnd => addNothing
        | _ => node depth .block
      return first :: (← items depth)
    | .blockEnd =>
      take
      return []
    | _ => fail .unclosedBlock

/-- Items that are not indented further than the key before them. -/
def entries : Nat → Builder (List Nat)
  | 0 => fail .unclosedBlock
  | depth + 1 => do
    match ← peek with
    | .blockEntry =>
      take
      let first ← match ← peek with
        | .blockEntry | .key | .value | .blockEnd => addNothing
        | _ => node depth .block
      return first :: (← entries depth)
    | _ => return []

/-- The keys and values of a block up to its end. -/
def members : Nat → Builder (List (Nat × Nat))
  | 0 => fail .unclosedBlock
  | depth + 1 => do
    match ← peek with
    | .key =>
      take
      let key ← blockPart depth
      let value ← match ← peek with
        | .value =>
          take
          blockPart depth
        | _ => addNothing
      return (key, value) :: (← members depth)
    | .blockEnd =>
      take
      return []
    | _ => fail .unclosedBlock

/-- A key or a value of a block. -/
def blockPart : Nat → Builder Nat
  | 0 => fail .noContent
  | depth + 1 => do
    match ← peek with
    | .key | .value | .blockEnd => addNothing
    | _ => node depth .blockOrEntries

/-- The value behind a key of a flow collection. -/
def flowValue : Nat → Builder Nat
  | 0 => fail .noContent
  | depth + 1 => do
    match ← peek with
    | .value =>
      take
      match ← peek with
      | .flowEntry | .flowSequenceEnd | .flowMappingEnd => addNothing
      | _ => node depth .flow
    | _ => addNothing

/-- A key of a flow collection. -/
def flowKey : Nat → Builder Nat
  | 0 => fail .noContent
  | depth + 1 => do
    match ← peek with
    | .value | .flowEntry | .flowSequenceEnd | .flowMappingEnd => addNothing
    | _ => node depth .flow

/-- The items of a flow sequence up to its bracket; an item can be a mapping of one key. -/
def flowItems : Nat → Bool → Builder (List Nat)
  | 0, _ => fail .unclosedFlow
  | depth + 1, isFirst => do
    if (← peek) = .flowSequenceEnd then
      take
      return []
    else
      if !isFirst then
        if (← peek) = .flowEntry then take else fail .unclosedFlow
      match ← peek with
      | .flowSequenceEnd =>
        take
        return []
      | .key =>
        take
        let key ← flowKey depth
        let value ← flowValue depth
        let first ← add ⟨.mapping, .mapping [(key, value)]⟩
        return first :: (← flowItems depth false)
      | _ =>
        let first ← node depth .flow
        return first :: (← flowItems depth false)

/-- The keys and values of a flow mapping up to its bracket; a node without a colon is a key. -/
def flowMembers : Nat → Bool → Builder (List (Nat × Nat))
  | 0, _ => fail .unclosedFlow
  | depth + 1, isFirst => do
    if (← peek) = .flowMappingEnd then
      take
      return []
    else
      if !isFirst then
        if (← peek) = .flowEntry then take else fail .unclosedFlow
      match ← peek with
      | .flowMappingEnd =>
        take
        return []
      | .key =>
        take
        let key ← flowKey depth
        let value ← flowValue depth
        return (key, value) :: (← flowMembers depth false)
      | _ =>
        let key ← node depth .flow
        let value ← addNothing
        return (key, value) :: (← flowMembers depth false)

end

/-- The handles that need no directive. -/
def standardHandles : List (String × String) := [("!", "!"), ("!!", standardStart)]

/-- Directives before a document; `rounds` bounds their number. -/
def directives : Nat → Bool → List (String × String) → Builder (List (String × String))
  | 0, _, handles => return handles
  | rounds + 1, hasVersion, handles => do
    match ← peek with
    | .directive (.version major) =>
      if hasVersion then fail .repeatedDirective
      else if major ≠ 1 then fail .badVersion
      else
        take
        directives rounds true handles
    | .directive (.tag handle start) =>
      if handles.any fun h => h.1 = handle then fail .repeatedDirective
      else
        take
        directives rounds hasVersion (handles ++ [(handle, start)])
    | .directive .other =>
      take
      directives rounds hasVersion handles
    | _ => return handles

/-- The beginning of a document with its directives. -/
def explicitStart (depth : Nat) : Builder Unit := do
  let handles ← directives depth false []
  modify fun b => { b with handles := handles ++ standardHandles }
  if (← peek) = .documentStart then take else fail .noDocument

/-- The node of the document that begins here. -/
def document (depth : Nat) : Builder Nat := do
  match ← peek with
  | .directive _ | .documentStart =>
    explicitStart depth
    match ← peek with
    | .directive _ | .documentStart | .documentEnd | .streamEnd => addNothing
    | _ => node depth .block
  | _ => node depth .block

/-- Markers behind a document; `rounds` bounds their number. -/
def endMarkers : Nat → Builder Unit
  | 0 => return
  | rounds + 1 => do
    if (← peek) = .documentEnd then
      take
      endMarkers rounds

/-- The only document of a stream, if there is one. -/
def stream (depth : Nat) : Builder (Option Nat) := do
  if (← peek) = .streamEnd then return none
  else
    let root ← document depth
    endMarkers depth
    if (← peek) = .streamEnd then return some root
    else
      explicitStart depth
      fail .secondDocument

end Builder

/-- The document that tokens make up, if there is one. -/
def Document.ofTokens (s : TokenStream) : Except Error (Option Document) := do
  let build := Builder.stream (2 * s.tokens.length + 2)
  let (root, b) ← build.run ⟨s.tokens, s.fault, #[], [], Builder.standardHandles⟩
  return root.map fun id => ⟨b.nodes, id⟩

/-- The document in a text, if there is one. -/
def Document.read (text : String) : Except Error (Option Document) := ofTokens (Token.scan text)

end GoFixtures.Yaml
