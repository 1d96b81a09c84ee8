import GraphSchema.Graph.Edit

/-! Graph documents: objects with a list of nodes and a list of edges, loaded into a store. A strict
load refuses an edge whose nodes are missing; a lenient one keeps it. -/
namespace GraphSchema

inductive LoadError where
  | notObject
  | notList (kind : String)
  | refused (refusal : Refusal)
  | store (error : StoreError)
  | overlong
  deriving DecidableEq, Repr

def LoadError.message : LoadError → String
  | .notObject => "Graph document must be a JSON object"
  | .notList kind => "'" ++ kind ++ "' object is not iterable"
  | .refused r => r.message
  | .store e => e.message
  | .overlong => WritingLimit.digits.message

def LoadError.ofFaults (model : Model) (fs : List Fault) : LoadError :=
  if Fault.breaksOff fs then .overlong else .refused ⟨model, fs⟩

/-- A load in progress: the store so far, the fresh ids used, the events, and the fault that
stopped it. -/
structure Load where
  store : Store := {}
  used : Nat := 0
  events : List Event := []
  failure : Option LoadError := none
  deriving Repr

namespace Load

def outcome (l : Load) : Except LoadError Store :=
  match l.failure with
  | some e => .error e
  | none => .ok l.store

def fail (l : Load) (e : LoadError) : Load := { l with failure := some e }

def accept (l : Load) (s : Store) (e : Event) : Load :=
  { l with store := s, events := l.events ++ [e] }

def takeNode (l : Load) (v : Value) : Load :=
  if l.failure.isSome then l
  else
    let next := { l with used := idsAfter l.used v }
    match Node.check l.used v with
    | .error fs => next.fail (.ofFaults .node fs)
    | .ok n =>
      match l.store.addNode n with
      | .error e => next.fail (.store e)
      | .ok s => next.accept s (.nodeAdded n.id n.label)

def insertEdge (strict : Bool) (s : Store) (e : Edge) : Except StoreError Store :=
  if strict then s.addEdge e else s.registerEdge e

def takeEdge (strict : Bool) (l : Load) (v : Value) : Load :=
  if l.failure.isSome then l
  else
    let next := { l with used := idsAfter l.used v }
    match Edge.check l.used v with
    | .error fs => next.fail (.ofFaults .edge fs)
    | .ok e =>
      match insertEdge strict l.store e with
      | .error x => next.fail (.store x)
      | .ok s => next.accept s (.edgeAdded e.id e.label)

/-- The parts of what stands where a list should: a text has its characters, an object its names,
and a value that does not count has none. -/
def parts (v : Value) : Except LoadError (List Value) :=
  if !v.counts then .ok []
  else
    match v with
    | .list vs => .ok vs
    | .text s => .ok (s.toList.map fun c => .text (String.singleton c))
    | .object fields => .ok (fields.map fun f => .text f.1)
    | .bool _ => .error (.notList "bool")
    | .int _ => .error (.notList "int")
    | .float _ => .error (.notList "float")
    | .null => .ok []

def takeAll (take : Load → Value → Load) (v : Value) (l : Load) : Load :=
  if l.failure.isSome then l
  else
    match parts v with
    | .error e => l.fail e
    | .ok vs => vs.foldl take l

/-- Loads a document; `used` fresh ids have been given before. -/
def document (strict : Bool) (used : Nat) : Value → Load
  | .object fields =>
    let nodes := (fields.lookup "nodes").getD .null
    let edges := (fields.lookup "edges").getD .null
    let l := takeAll (takeEdge strict) edges (takeAll takeNode nodes { used })
    if l.failure.isSome then l
    else
      let loaded := Event.graphLoaded l.store.nodes.length l.store.edges.length
      { l with events := l.events ++ [loaded] }
  | _ => { used, failure := some .notObject }

end Load
end GraphSchema
