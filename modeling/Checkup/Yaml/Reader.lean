import Checkup.Yaml.Document
import Checkup.Yaml.ScalarValue

/-!
# Reading YAML

The values that a YAML text writes. Every node is built once. Scalars are built
where they are met; collections are put into a line and filled one after the
other, those that are met first before those that they hold. So of several
flaws the first in this order is reported.
-/

namespace Checkup.Yaml

/-- A document that is being built. -/
structure Building where
  /-- The nodes; merging changes the entries of mappings. -/
  graph : Graph
  /-- The values so far by the numbers of their nodes. -/
  cells : Array (Option Cell)
  /-- The collections that are not filled yet, the last one first. -/
  waiting : List Nat := []

/-- The text of a scalar, or of a mapping that stands for one. The fuel bounds
how far mappings stand for each other. -/
def standInText? (fuel : Nat) (graph : Graph) (number : Nat) : Option String :=
  match fuel, graph[number]? with
  | _, some (.scalar _ _ text) => some text
  | fuel + 1, some (.mapping _ entries) =>
    match entries.find? fun entry => (graph[entry.1]?).any fun key => key.kind = .standIn with
    | some (_, value) => standInText? fuel graph value
    | none => none
  | _, _ => none

/-- The cell of a collection of a kind before it is filled. -/
def Kind.hollow? : Kind → Option Cell
  | .list => some (.list [])
  | .pairs => some (.pairs [])
  | .mapping => some (.mapping [])
  | .set => some (.set [])
  | _ => none

namespace Building

/-- The number of nodes. -/
def size (building : Building) : Nat := building.graph.size

/-- Put a value in its place. -/
def put (building : Building) (number : Nat) (cell : Cell) : Building :=
  { building with cells := building.cells.setIfInBounds number (some cell) }

/-- The value of a scalar node of a kind. A time has to be written by the node
itself, as its text is read again. -/
def scalarAt (building : Building) (number : Nat) (kind : Kind) : Except Flaw Scalar :=
  match standInText? (building.size + 1) building.graph number, building.graph[number]? with
  | none, _ => .error .malformed
  | some text, some (.mapping _ _) =>
    if kind = .moment then
      .error (.fault (.wrongKind "expected string or bytes-like object, got 'list'"))
    else scalarValue kind text
  | some text, _ => scalarValue kind text

/-- Build a node unless that was done before. -/
def visit (building : Building) (number : Nat) : Except Flaw Building :=
  match building.cells[number]?, building.graph[number]? with
  | some none, some node =>
    match node.kind.hollow? with
    | some cell => .ok { building.put number cell with waiting := number :: building.waiting }
    | none => do .ok (building.put number (.scalar (← building.scalarAt number node.kind)))
  | _, _ => .ok building

/-- Build some nodes in order. -/
def visitAll (building : Building) (numbers : List Nat) : Except Flaw Building :=
  numbers.foldlM visit building

/-- The entries of a mapping node. -/
def entriesAt? (graph : Graph) (number : Nat) : Option (List (Nat × Nat)) :=
  match graph[number]? with
  | some (.mapping _ entries) => some entries
  | _ => none

/-- The graph with other entries of a mapping. -/
def setEntries (graph : Graph) (number : Nat) (entries : List (Nat × Nat)) : Graph :=
  graph.modify number fun
    | .mapping tag _ => .mapping tag entries
    | node => node

mutual

/-- Merge into a mapping what its entries say from a place on, behind what is
merged in already. Merged entries come before the own ones. Every merging
entry is removed before it is followed, so the fuel bounds the depth. -/
def merge (fuel : Nat) (graph : Graph) (number index : Nat) (inherited : List (Nat × Nat)) :
    Except Flaw Graph :=
  match fuel with
  | 0 => .error .malformed
  | fuel + 1 =>
    match entriesAt? graph number with
    | none => .error .malformed
    | some entries =>
      match entries[index]? with
      | none =>
        .ok (if inherited.isEmpty then graph else setEntries graph number (inherited ++ entries))
      | some (key, value) =>
        match (graph[key]?).map Node.kind with
        | some .merge => do
          let graph := setEntries graph number (entries.eraseIdx index)
          let (graph, further) ← mergeSource fuel graph value
          merge fuel graph number index (inherited ++ further)
        | some .standIn =>
          let graph := graph.modify key (Node.retag (.named "tag:yaml.org,2002:str"))
          merge fuel graph number (index + 1) inherited
        | _ => merge fuel graph number (index + 1) inherited

/-- The entries that a mapping, or each of a list of mappings, has to give. Of
several mappings the first counts most and comes last. -/
def mergeSource (fuel : Nat) (graph : Graph) (number : Nat) :
    Except Flaw (Graph × List (Nat × Nat)) :=
  match fuel with
  | 0 => .error .malformed
  | fuel + 1 =>
    match graph[number]? with
    | some (.mapping _ _) => mergeMapping fuel graph number
    | some (.sequence _ items) => mergeAll fuel graph items
    | _ => .error .malformed

/-- The entries that a mapping has to give. -/
def mergeMapping (fuel : Nat) (graph : Graph) (number : Nat) :
    Except Flaw (Graph × List (Nat × Nat)) :=
  match fuel with
  | 0 => .error .malformed
  | fuel + 1 =>
    match entriesAt? graph number with
    | none => .error .malformed
    | some _ => do
      let graph ← merge fuel graph number 0 []
      .ok (graph, (entriesAt? graph number).getD [])

/-- The entries that some mappings have to give, those of the last first. -/
def mergeAll (fuel : Nat) (graph : Graph) (numbers : List Nat) :
    Except Flaw (Graph × List (Nat × Nat)) :=
  match fuel, numbers with
  | 0, _ => .error .malformed
  | _, [] => .ok (graph, [])
  | fuel + 1, number :: rest => do
    let (graph, first) ← mergeMapping fuel graph number
    let (graph, more) ← mergeAll fuel graph rest
    .ok (graph, more ++ first)

end

/-- Number of entries and items of a node. -/
def partCount : Node → Nat
  | .scalar _ _ _ => 0
  | .sequence _ items => items.length
  | .mapping _ entries => entries.length

/-- How deep merging can get. -/
def mergeFuel (graph : Graph) : Nat :=
  let parts := graph.foldl (fun count node => count + partCount node) 0
  Nat.pow (parts + 4) 8

/-- Add an entry. The key has to be a scalar; the last of two entries with the
same key counts, at the place of the first. -/
def addEntry (state : Building × List (Scalar × Nat)) (entry : Nat × Nat) :
    Except Flaw (Building × List (Scalar × Nat)) := do
  let (building, entries) := state
  let building ← building.visit entry.1
  match building.cells[entry.1]? with
  | some (some (.scalar key)) =>
    let building ← building.visit entry.2
    .ok (building, insertKey entries key entry.2)
  | _ => .error .malformed
where
  /-- The entries with one more. -/
  insertKey (entries : List (Scalar × Nat)) (key : Scalar) (value : Nat) : List (Scalar × Nat) :=
    match entries with
    | [] => [(key, value)]
    | (k, v) :: rest =>
      if Scalar.sameKey k key then (k, value) :: rest else (k, v) :: insertKey rest key value

/-- The entries of a mapping with all that is merged in. -/
def mappingEntries (building : Building) (number : Nat) :
    Except Flaw (Building × List (Scalar × Nat)) := do
  let graph ← merge (mergeFuel building.graph) building.graph number 0 []
  ((entriesAt? graph number).getD []).foldlM addEntry ({ building with graph }, [])

/-- Add the pair that a mapping with one entry stands for. -/
def addPair (state : Building × List (Nat × Nat)) (number : Nat) :
    Except Flaw (Building × List (Nat × Nat)) := do
  let (building, pairs) := state
  match entriesAt? building.graph number with
  | some [(key, value)] =>
    let building ← building.visitAll [key, value]
    .ok (building, pairs ++ [(key, value)])
  | _ => .error .malformed

/-- Fill a collection. -/
def fill (building : Building) (number : Nat) : Except Flaw Building :=
  match building.graph[number]? with
  | none => .ok building
  | some node =>
    match node.kind, node with
    | .list, .sequence _ items => do .ok ((← building.visitAll items).put number (.list items))
    | .pairs, .sequence _ items => do
      let (building, pairs) ← items.foldlM addPair (building, [])
      .ok (building.put number (.pairs pairs))
    | .mapping, .mapping _ _ => do
      let (building, entries) ← building.mappingEntries number
      .ok (building.put number (.mapping entries))
    | .set, .mapping _ _ => do
      let (building, entries) ← building.mappingEntries number
      .ok (building.put number (.set (entries.map Prod.fst)))
    | _, _ => .error .malformed

/-- Fill the collections in line, and then those that got into line meanwhile.
Every node gets into line once, so the fuel bounds the rounds. -/
def fillAll (fuel : Nat) (building : Building) : Except Flaw Building :=
  match fuel, building.waiting with
  | _, [] => .ok building
  | 0, _ => .ok building
  | fuel + 1, waiting => do
    fillAll fuel (← waiting.reverse.foldlM fill { building with waiting := [] })

end Building

/-- The outermost value of a document. -/
def Composed.build (document : Composed) : Except Flaw Item := do
  let building : Building :=
    { graph := document.graph, cells := Array.replicate document.graph.size none }
  let building ← (← building.visit document.root).fillAll (document.graph.size + 1)
  .ok ⟨building.cells.map fun cell => cell.getD .null, document.root⟩

/-- The outermost value that a YAML text writes; a text without a document has none. -/
def read (supply : Supply) : Except Flaw (Option Item) := do
  match ← document? (tokens supply) with
  | none => .ok none
  | some document => some <$> document.build

end Checkup.Yaml
