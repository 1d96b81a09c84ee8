import GraphSchema.Graph.Store

/-! Edits: the changes a user makes to a store, as data, and what each one logs. -/
namespace GraphSchema

/-- Ids are values, because a user may ask for anything; only texts can name an entity. -/
inductive Edit where
  | addNode (n : Node)
  | addEdge (e : Edge)
  | removeNode (id : Value)
  | removeEdge (id : Value)
  | setNodeLabel (id label : Value)
  | setEdgeLabel (id label : Value)
  | setNodeProperties (id : Value) (ds : Drafts)
  | setEdgeProperties (id : Value) (ds : Drafts)
  | clear
  deriving Repr

namespace Store

/-- Asks for what an id names. A value that is no text names nothing, and if it cannot be looked up, or
not be put into the message, that is what fails. -/
def named {α : Type} (id : Value) (missing : String → StoreError)
    (f : String → Except StoreError α) : Except StoreError α :=
  match id with
  | .text s => f s
  | .list _ => .error (.unhashable "list")
  | .object _ => .error (.unhashable "dict")
  | .int n => .error (if Value.isLong n then .overlong else missing (Value.int n).toText)
  | v => .error (missing v.toText)

/-- Looks up what an id names, if it is one that can be looked up. -/
def find? {α : Type} (get? : String → Option α) : Value → Except StoreError (Option α)
  | .text s => .ok (get? s)
  | .list _ => .error (.unhashable "list")
  | .object _ => .error (.unhashable "dict")
  | _ => .ok none

def findNode? (s : Store) : Value → Except StoreError (Option Node) := find? s.getNode?

def findEdge? (s : Store) : Value → Except StoreError (Option Edge) := find? s.getEdge?

def contains (s : Store) (id : Value) : Except StoreError Bool :=
  (s.findNode? id).map Option.isSome

def edgesFrom (s : Store) : Value → List Edge
  | .text id => s.startingAt id
  | _ => []

def edgesTo (s : Store) : Value → List Edge
  | .text id => s.endingAt id
  | _ => []

def perform (s : Store) : Edit → Except StoreError Store
  | .addNode n => s.addNode n
  | .addEdge e => s.addEdge e
  | .removeNode id => named id .noNode s.removeNode
  | .removeEdge id => named id .noEdge s.removeEdge
  | .setNodeLabel id label => named id .noNode fun i => s.setNodeLabel i label
  | .setEdgeLabel id label => named id .noEdge fun i => s.setEdgeLabel i label
  | .setNodeProperties id ds => named id .noNode fun i => s.setNodeProperties i ds
  | .setEdgeProperties id ds => named id .noEdge fun i => s.setEdgeProperties i ds
  | .clear => .ok empty

/-- The event of an edit that succeeds on a store. -/
def eventOf (s : Store) : Edit → List Event
  | .addNode n => [.nodeAdded n.id n.label]
  | .addEdge e => [.edgeAdded e.id e.label]
  | .removeNode (.text id) => [.nodeRemoved id (s.attached id).length]
  | _ => []

/-- A refused edit leaves the store as it is. -/
def after (s : Store) (e : Edit) : Store :=
  match s.perform e with
  | .ok t => t
  | .error _ => s

def afterAll (s : Store) (es : List Edit) : Store := es.foldl after s

/-- Performs edits in order up to the first that is refused. -/
def performAll (s : Store) : List Edit → List Event × Except StoreError Store
  | [] => ([], .ok s)
  | e :: es =>
    match s.perform e with
    | .error x => ([], .error x)
    | .ok t =>
      let (events, r) := t.performAll es
      (s.eventOf e ++ events, r)

/-- The edits that build a store from nodes and edges. -/
def construction (nodes : List Node) (edges : List Edge) : List Edit :=
  nodes.map .addNode ++ edges.map .addEdge

/-- Sets a field of a property, the first with the key. -/
def assignProperty (key field : String) (v : Value) :
    List Property → Option (Checked (List Property))
  | [] => none
  | p :: ps =>
    if p.key = key then some ((p.assign field v).map (· :: ps))
    else (assignProperty key field v ps).map fun c => c.map (p :: ·)

/-- The outcome of setting an attribute of an entity that is there. -/
def settable {α : Type} (m : Model) (field : String) (outcome : Checked α) :
    Except StoreError α :=
  if m.computed.contains field then .error (.computed m field)
  else outcome.mapError (.ofFaults m)

/-- Sets a field of a node; the store keeps it under the key it was added by. -/
def assignNode (s : Store) (id field : String) (v : Value) : Except StoreError Store :=
  match s.requireNode id with
  | .error x => .error x
  | .ok n =>
    (settable .node field (n.assign field v)).map fun n =>
      { s with nodes := s.nodes.replace id n }

def assignEdge (s : Store) (id field : String) (v : Value) : Except StoreError Store :=
  match s.requireEdge id with
  | .error x => .error x
  | .ok e =>
    (settable .edge field (e.assign field v)).map fun e =>
      { s with edges := s.edges.replace id e }

def assignNodeProperty (s : Store) (id key field : String) (v : Value) :
    Except StoreError Store :=
  match s.requireNode id with
  | .error x => .error x
  | .ok n =>
    match assignProperty key field v n.properties with
    | none => .error (.noNode id)
    | some outcome =>
      (settable .property field outcome).map fun ps =>
        { s with nodes := s.nodes.replace id { n with properties := ps } }

def assignEdgeProperty (s : Store) (id key field : String) (v : Value) :
    Except StoreError Store :=
  match s.requireEdge id with
  | .error x => .error x
  | .ok e =>
    match assignProperty key field v e.properties with
    | none => .error (.noEdge id)
    | some outcome =>
      (settable .property field outcome).map fun ps =>
        { s with edges := s.edges.replace id { e with properties := ps } }

end Store
end GraphSchema
