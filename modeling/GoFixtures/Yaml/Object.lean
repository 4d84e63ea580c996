import GoFixtures.Yaml.Node
import GoFixtures.Yaml.Scalar

/-!
# Objects of a document

Every node stands for one object, wherever it is mentioned. A scalar has its value at once. A collection
begins empty and is filled later, the outer ones before the inner ones, so that it can be a part of itself.
Before a mapping is filled, the mappings that are to be merged are put into it; this changes its node.

* `Document.objects` gives the objects of the nodes that are part of the document.
-/

namespace GoFixtures.Yaml

/-- A key: a scalar, and the node that it comes from. -/
structure Key where
  node : Nat
  scalar : Scalar
deriving DecidableEq

/-- Whether two keys are the same. A node is the same key as itself, whatever its value. -/
def Key.isSame (a b : Key) : Bool := a.node = b.node || a.scalar.isSame b.scalar

/-- What a node stands for; parts are given by the numbers of their nodes. -/
inductive Object
  | scalar (value : Scalar)
  | sequence (items : List Nat)
  | pairs (items : List (Nat × Nat))
  | mapping (entries : List (Key × Nat))
  | set (members : List Key)
deriving DecidableEq

/-- What is known in the middle of the work: the nodes as merging has changed them, the objects so far, and
the nodes whose collections are to be filled. -/
structure Construction where
  nodes : Array Node
  objects : Array (Option Object)
  waiting : List Nat

/-- Makes objects. -/
abbrev Constructor := StateT Construction (Except Reason)

namespace Constructor

/-- A node. -/
def node (id : Nat) : Constructor Node := do return ((← get).nodes[id]?).getD .nothing

/-- The object of a node, if it has one already. -/
def object? (id : Nat) : Constructor (Option Object) := do return ((← get).objects[id]?).join

/-- Gives a node an object. -/
def setObject (id : Nat) (o : Object) : Constructor Unit :=
  modify fun c => { c with objects := c.objects.setIfInBounds id (some o) }

/-- Changes a node. -/
def modifyNode (id : Nat) (f : Node → Node) : Constructor Unit :=
  modify fun c => { c with nodes := c.nodes.modify id f }

/-! ### Merging -/

/-- The keys and values that are written at a node. -/
def entries (id : Nat) : Constructor (List (Nat × Nat)) := do
  match (← node id).content with
  | .mapping es => return es
  | _ => return []

/-- Says which keys and values are written at a node. -/
def setEntries (id : Nat) (es : List (Nat × Nat)) : Constructor Unit :=
  modifyNode id fun n => { n with content := .mapping es }

/-- Whether a node is the key under which other mappings are merged. -/
def isMergeKey (nodes : Array Node) (id : Nat) : Bool := (nodes[id]?).any fun n => n.tag = .merge

/-- The key for a default is a string like others. -/
def plainKey (id : Nat) : Constructor Unit :=
  modifyNode id fun n => if n.tag = .default then { n with tag := .string } else n

/-- The keys and values of a node that is a mapping; `flat` merges into it before. -/
def mergedMapping (flat : Nat → Constructor Unit) (id : Nat) : Constructor (List (Nat × Nat)) := do
  match (← node id).content with
  | .mapping _ =>
    flat id
    entries id
  | _ => throw .badMerge

/-- The keys and values that a node contributes where it is merged; of several mappings, the first one counts. -/
def merged (flat : Nat → Constructor Unit) (id : Nat) : Constructor (List (Nat × Nat)) := do
  match (← node id).content with
  | .mapping _ => mergedMapping flat id
  | .sequence items => return (← items.mapM (mergedMapping flat)).reverse.flatten
  | .scalar _ => throw .badMerge

/-- Puts into a mapping what is merged from its place `index` on, and before everything else what has been
`found` so far. Every key for merging is taken away when it is met; `keys` bounds how many there are. -/
def flattenFrom : Nat → Nat → Nat → List (Nat × Nat) → Constructor Unit
  | 0, _, _, _ => return
  | keys + 1, id, index, found => do
    let es ← entries id
    let nodes := (← get).nodes
    let before := (es.drop index).takeWhile fun e => !isMergeKey nodes e.1
    before.forM fun e => plainKey e.1
    let place := index + before.length
    match es.drop place with
    | [] => setEntries id (found ++ es)
    | (_, value) :: _ =>
      setEntries id (es.eraseIdx place)
      let more ← merged (fun part => flattenFrom keys part 0 []) value
      flattenFrom keys id place (found ++ more)

/-- Puts into a mapping what is merged. -/
def flatten (id : Nat) : Constructor Unit := do
  let nodes := (← get).nodes
  let keys := nodes.foldl (fun n x => match x.content with
    | .mapping es => n + es.length
    | _ => n) 0
  flattenFrom (keys + 1) id 0 []

/-! ### Scalars -/

/-- The text of a node that is to be a scalar. A mapping stands for the value under its key for a default.
`depth` bounds how often that is asked for. -/
def scalarText : Nat → Nat → Constructor (List Nat)
  | 0, _ => throw (.noValue .endless)
  | depth + 1, id => do
    match (← node id).content with
    | .scalar codes => return codes
    | .sequence _ => throw .notScalar
    | .mapping es =>
      let nodes := (← get).nodes
      match es.find? fun e => (nodes[e.1]?).any fun n => n.tag = .default with
      | some (_, value) => scalarText depth value
      | none => throw .notScalar

/-- The scalar that a text stands for under a tag. A timestamp is not taken from a mapping. -/
def scalar (id : Nat) (tag : Tag) : Constructor Scalar := do
  if !Scalar.hasTag tag then throw .unknownTag
  let text ← scalarText ((← get).nodes.size + 1) id
  match (← node id).content, tag with
  | .mapping _, .timestamp => throw (.noValue .timestampOfMapping)
  | _, _ => Scalar.ofText tag text

/-! ### Collections -/

/-- A collection that is empty, for a tag of collections. -/
def emptyObject? : Tag → Option Object
  | .sequence => some (.sequence [])
  | .orderedMap => some (.pairs [])
  | .pairs => some (.pairs [])
  | .mapping => some (.mapping [])
  | .set => some (.set [])
  | _ => none

/-- The object of a node. A collection is filled later. -/
def construct (id : Nat) : Constructor Object := do
  match ← object? id with
  | some o => return o
  | none =>
    let tag := (← node id).tag
    match emptyObject? tag with
    | some o =>
      setObject id o
      modify fun c => { c with waiting := c.waiting ++ [id] }
      return o
    | none =>
      let o := Object.scalar (← scalar id tag)
      setObject id o
      return o

/-- Sets the value of a key: at the place of the key if it is there, else at the end. -/
def put (key : Key) (value : Nat) : List (Key × Nat) → List (Key × Nat)
  | [] => [(key, value)]
  | e :: es => if e.1.isSame key then (e.1, value) :: es else e :: put key value es

/-- The key that a node stands for. Only scalars can be keys. -/
def key (id : Nat) : Constructor Key := do
  match ← construct id with
  | .scalar s => return ⟨id, s⟩
  | _ => throw .badKey

/-- The entries of a mapping. -/
def members (id : Nat) : Constructor (List (Key × Nat)) := do
  match (← node id).content with
  | .mapping _ =>
    flatten id
    (← entries id).foldlM (fun done e => do
      let key ← key e.1
      let _ ← construct e.2
      return put key e.2 done) []
  | _ => throw .notMapping

/-- The parts of a sequence. -/
def items (id : Nat) : Constructor (List Nat) := do
  match (← node id).content with
  | .sequence items =>
    items.forM fun i => do let _ ← construct i
    return items
  | _ => throw .notSequence

/-- The pair that a mapping of one key stands for. -/
def pair (id : Nat) : Constructor (Nat × Nat) := do
  match (← node id).content with
  | .mapping [e] =>
    let _ ← construct e.1
    let _ ← construct e.2
    return e
  | _ => throw .badPair

/-- The pairs of a sequence. -/
def pairItems (id : Nat) : Constructor (List (Nat × Nat)) := do
  match (← node id).content with
  | .sequence items => items.mapM pair
  | _ => throw .notSequence

/-- Fills the collection of a node. -/
def fill (id : Nat) : Constructor Unit := do
  match ← object? id with
  | some (.sequence _) => setObject id (.sequence (← items id))
  | some (.pairs _) => setObject id (.pairs (← pairItems id))
  | some (.mapping _) => setObject id (.mapping (← members id))
  | some (.set _) => setObject id (.set ((← members id).map Prod.fst))
  | _ => return

/-- Fills the collections that wait; `rounds` bounds their number. -/
def fillAll : Nat → Constructor Unit
  | 0 => return
  | rounds + 1 => do
    match (← get).waiting with
    | [] => return
    | id :: more =>
      modify fun c => { c with waiting := more }
      fill id
      fillAll rounds

end Constructor

/-- The objects of a document. -/
def Document.objects (d : Document) : Except Reason (Array (Option Object)) := do
  let work : Constructor Unit := do
    let _ ← Constructor.construct d.root
    Constructor.fillAll (d.nodes.size + 1)
  let ((), c) ← work.run ⟨d.nodes, Array.replicate d.nodes.size none, []⟩
  return c.objects

end GoFixtures.Yaml
