import GraphSchema.Graph.Store
import GraphSchema.Schema.Diagnostics

/-! Generation of the schema document from whatever provides nodes and edges. Edges are resolved and
names are checked before any text is made. -/
namespace GraphSchema

inductive CollisionPolicy where
  | warn | error | ignore
  deriving DecidableEq, Repr

def CollisionPolicy.name : CollisionPolicy → String
  | warn => "warn"
  | error => "error"
  | ignore => "ignore"

/-- Which of the diagnostics are wanted. -/
structure Diagnosis where
  collisions : CollisionPolicy := .warn
  checkIdentifiers : Bool := true
  deriving DecidableEq, Repr

/-- The graph as generation reads it. -/
structure Provider where
  nodes : List Node
  edges : List Edge
  node? : String → Option Node
  startingAt : String → List Edge

def Store.provider (s : Store) : Provider where
  nodes := s.allNodes
  edges := s.allEdges
  node? := s.getNode?
  startingAt := s.startingAt

inductive Role where
  | start | finish
  deriving DecidableEq, Repr

def Role.name : Role → String
  | .start => "start"
  | .finish => "end"

inductive GenerationError where
  | missingEndpoint (edgeId nodeId : String) (role : Role)
  | collisions (messages : List String)
  | field (e : FieldError)
  deriving Repr

def GenerationError.message : GenerationError → String
  | .missingEndpoint e n r =>
    "Edge '" ++ e ++ "' references missing " ++ r.name ++ " node '" ++ n ++ "'"
  | .collisions ms => "Naming collisions detected: " ++ "; ".intercalate ms
  | .field e => e.message

namespace Provider

def resolve (p : Provider) (e : Edge) : Except GenerationError Link :=
  match p.node? e.startId with
  | none => .error (.missingEndpoint e.id e.startId .start)
  | some start =>
    match p.node? e.endId with
    | none => .error (.missingEndpoint e.id e.endId .finish)
    | some finish => .ok ⟨e, start, finish⟩

/-- Applies a step to each item in order, up to the first that fails. -/
def eachOk {ε α β : Type} (step : α → Except ε β) : List α → Except ε (List β)
  | [] => .ok []
  | a :: as =>
    match step a with
    | .error e => .error e
    | .ok b =>
      match eachOk step as with
      | .error e => .error e
      | .ok bs => .ok (b :: bs)

def resolveAll (p : Provider) (es : List Edge) : Except GenerationError (List Link) :=
  eachOk p.resolve es

/-- The link of the last edge with an id. -/
def lastWithId (links : List Link) (id : String) : Option Link :=
  links.reverse.find? (·.edge.id = id)

/-- A link that was resolved before stands for every edge with its id. -/
def resolveKnown (p : Provider) (links : List Link) (e : Edge) : Except GenerationError Link :=
  match lastWithId links e.id with
  | some l => .ok l
  | none => p.resolve e

def outgoing (p : Provider) (links : List Link) : Except GenerationError Outgoing :=
  eachOk (fun n => (eachOk (p.resolveKnown links) (p.startingAt n.id)).map (n.id, ·)) p.nodes

end Provider

structure Generated where
  document : String
  nodeCount : Nat
  edgeCount : Nat
  warnings : List String
  deriving DecidableEq, Repr

/-- The diagnostics of a graph; under the policy that forbids them, collisions are an error. -/
def Diagnosis.warnings (d : Diagnosis) (nodes : List Node) (links : List Link)
    (outgoing : Outgoing) : Except GenerationError (List String) :=
  let collisions := if d.collisions = .ignore then [] else namingCollisions nodes links outgoing
  if d.collisions = .error ∧ collisions ≠ [] then .error (.collisions collisions)
  else
    .ok (collisions ++ if d.checkIdentifiers then invalidIdentifiers nodes links else [])

/-- An outcome with the events on the way to it. -/
structure Journal (α : Type) where
  events : List Event
  outcome : Except GenerationError α
  deriving Repr

/-- Makes the text once edges are resolved; events say how far it came. -/
def render (p : Provider) (links : List Link) (outgoing : Outgoing) : Journal String :=
  match Provider.eachOk (fun n => n.fragment (outgoing.of n)) p.nodes with
  | .error e => ⟨[], .error (.field e)⟩
  | .ok nodeTexts =>
    match Provider.eachOk Link.edgeFragment links with
    | .error e => ⟨[.nodesRendered nodeTexts.length], .error (.field e)⟩
    | .ok edgeTexts =>
      let document := assemble nodeTexts edgeTexts (links.map Link.connectionFragment)
        (queryType p.nodes) (mutationType p.nodes outgoing)
      ⟨[.nodesRendered nodeTexts.length, .edgesRendered edgeTexts.length,
        .generated document.length], .ok document⟩

/-- What is decided before any text is made. -/
structure Plan where
  links : List Link
  outgoing : Outgoing
  warnings : List String

def Diagnosis.plan (d : Diagnosis) (p : Provider) : Except GenerationError Plan :=
  match p.resolveAll p.edges with
  | .error e => .error e
  | .ok links =>
    match p.outgoing links with
    | .error e => .error e
    | .ok outgoing =>
      match d.warnings p.nodes links outgoing with
      | .error e => .error e
      | .ok warnings => .ok ⟨links, outgoing, warnings⟩

def Diagnosis.generate (d : Diagnosis) (p : Provider) : Journal Generated :=
  let started := Event.generationStarted p.nodes.length p.edges.length
  match d.plan p with
  | .error e => ⟨[started], .error e⟩
  | .ok plan =>
    let text := render p plan.links plan.outgoing
    { events := started :: plan.warnings.map .warned ++ text.events
      outcome := text.outcome.map fun document =>
        ⟨document, p.nodes.length, p.edges.length, plan.warnings⟩ }

end GraphSchema
