import GraphSchema.Graph.Registry
import GraphSchema.Graph.Validation
import GraphSchema.Logging.Event

/-! The store: nodes and edges of one graph in the order in which they were added. Removing a node
removes its edges; a refused operation changes nothing. -/
namespace GraphSchema

structure Store where
  nodes : Registry Node := []
  edges : Registry Edge := []
  deriving Repr, Inhabited

inductive StoreError where
  | nodeExists (id : String)
  | edgeExists (id : String)
  | noNode (id : String)
  | noEdge (id : String)
  | refused (refusal : Refusal)
  | computed (model : Model) (name : String)
  | unhashable (kind : String)
  | overlong
  deriving DecidableEq, Repr

def StoreError.message : StoreError → String
  | .nodeExists id => "Node '" ++ id ++ "' already exists"
  | .edgeExists id => "Edge '" ++ id ++ "' already exists"
  | .noNode id => "Node '" ++ id ++ "' does not exist"
  | .noEdge id => "Edge '" ++ id ++ "' does not exist"
  | .refused r => r.message
  | .computed m name =>
    "property '" ++ name ++ "' of '" ++ m.name ++ "' object has no setter"
  | .unhashable kind => "unhashable type: '" ++ kind ++ "'"
  | .overlong => WritingLimit.digits.message

/-- The error of a check, by its faults. -/
def StoreError.ofFaults (model : Model) (fs : List Fault) : StoreError :=
  if Fault.breaksOff fs then .overlong else .refused ⟨model, fs⟩

namespace Store

def empty : Store := {}

def size (s : Store) : Nat := s.nodes.length

def allNodes (s : Store) : List Node := s.nodes.entities
def allEdges (s : Store) : List Edge := s.edges.entities

def getNode? (s : Store) (id : String) : Option Node := s.nodes.get? id
def getEdge? (s : Store) (id : String) : Option Edge := s.edges.get? id

def requireNode (s : Store) (id : String) : Except StoreError Node :=
  match s.getNode? id with
  | some n => .ok n
  | none => .error (.noNode id)

def requireEdge (s : Store) (id : String) : Except StoreError Edge :=
  match s.getEdge? id with
  | some e => .ok e
  | none => .error (.noEdge id)

def addNode (s : Store) (n : Node) : Except StoreError Store :=
  if s.nodes.has n.id then .error (.nodeExists n.id)
  else .ok { s with nodes := s.nodes.add n.id n }

/-- Adds an edge whether or not its nodes are there. -/
def registerEdge (s : Store) (e : Edge) : Except StoreError Store :=
  if s.edges.has e.id then .error (.edgeExists e.id)
  else .ok { s with edges := s.edges.add e.id e }

/-- Adds an edge between two nodes of the store. -/
def addEdge (s : Store) (e : Edge) : Except StoreError Store :=
  match s.requireNode e.startId with
  | .error x => .error x
  | .ok _ =>
    match s.requireNode e.endId with
    | .error x => .error x
    | .ok _ => s.registerEdge e

def touches (id : String) (e : Edge) : Bool := e.startId = id || e.endId = id

def attached (s : Store) (id : String) : List Edge := s.allEdges.filter (touches id)

def removeNode (s : Store) (id : String) : Except StoreError Store :=
  match s.requireNode id with
  | .error x => .error x
  | .ok _ =>
    .ok { nodes := s.nodes.remove id, edges := s.edges.filter fun e => !touches id e.2 }

def removeEdge (s : Store) (id : String) : Except StoreError Store :=
  match s.requireEdge id with
  | .error x => .error x
  | .ok _ => .ok { s with edges := s.edges.remove id }

/-- Changes a node in its place by a checked step. -/
def changeNode (s : Store) (id : String) (change : Node → Checked Node) :
    Except StoreError Store :=
  match s.requireNode id with
  | .error x => .error x
  | .ok n =>
    match change n with
    | .error fs => .error (.ofFaults .node fs)
    | .ok n => .ok { s with nodes := s.nodes.replace id n }

def changeEdge (s : Store) (id : String) (change : Edge → Checked Edge) :
    Except StoreError Store :=
  match s.requireEdge id with
  | .error x => .error x
  | .ok e =>
    match change e with
    | .error fs => .error (.ofFaults .edge fs)
    | .ok e => .ok { s with edges := s.edges.replace id e }

def setNodeLabel (s : Store) (id : String) (label : Value) : Except StoreError Store :=
  s.changeNode id (·.assign "label" label)

def setEdgeLabel (s : Store) (id : String) (label : Value) : Except StoreError Store :=
  s.changeEdge id (·.assign "label" label)

def setNodeProperties (s : Store) (id : String) (ds : Drafts) : Except StoreError Store :=
  s.changeNode id fun n =>
    Checked.within (.field "properties") (ds.check.map fun ps => { n with properties := ps })

def setEdgeProperties (s : Store) (id : String) (ds : Drafts) : Except StoreError Store :=
  s.changeEdge id fun e =>
    Checked.within (.field "properties") (ds.check.map fun ps => { e with properties := ps })

def startingAt (s : Store) (id : String) : List Edge := s.allEdges.filter (·.startId = id)
def endingAt (s : Store) (id : String) : List Edge := s.allEdges.filter (·.endId = id)

end Store
end GraphSchema
