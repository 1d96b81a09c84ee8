/-! What is worth a line in the log: events with their level, their source and their wording. -/
namespace GraphSchema

inductive Level where
  | debug | info | warning | error | critical
  deriving DecidableEq, Repr

namespace Level

def name : Level → String
  | debug => "DEBUG"
  | info => "INFO"
  | warning => "WARNING"
  | error => "ERROR"
  | critical => "CRITICAL"

/-- A higher number is more severe. -/
def severity : Level → Nat
  | debug => 10
  | info => 20
  | warning => 30
  | error => 40
  | critical => 50

end Level

inductive Event where
  | nodeAdded (id label : String)
  | nodeRemoved (id : String) (attached : Nat)
  | edgeAdded (id label : String)
  | graphLoaded (nodes edges : Nat)
  | generationStarted (nodes edges : Nat)
  | warned (text : String)
  | nodesRendered (count : Nat)
  | edgesRendered (count : Nat)
  | generated (characters : Nat)
  | delivered (target : String)
  deriving DecidableEq, Repr

namespace Event

def storeSource : String := "graphdesigner.services.graph_model.store"
def generationSource : String := "graphdesigner.services.schema_generation.service"

def level : Event → Level
  | graphLoaded .. | generationStarted .. | generated .. => .info
  | warned .. => .warning
  | _ => .debug

def source : Event → String
  | nodeAdded .. | nodeRemoved .. | edgeAdded .. | graphLoaded .. => storeSource
  | _ => generationSource

/-- The wording of an event; `elapsed` is how long generation took. -/
def message (elapsed : String) : Event → String
  | nodeAdded id label => "Added node " ++ id ++ " (" ++ label ++ ")"
  | nodeRemoved id attached =>
    "Removed node " ++ id ++ " and " ++ toString attached ++ " attached edges"
  | edgeAdded id label => "Added edge " ++ id ++ " (" ++ label ++ ")"
  | graphLoaded nodes edges =>
    "Loaded graph with " ++ toString nodes ++ " nodes and " ++ toString edges ++ " edges"
  | generationStarted nodes edges =>
    "Generating schema for " ++ toString nodes ++ " nodes and " ++ toString edges ++ " edges"
  | warned text => text
  | nodesRendered n => "Rendered " ++ toString n ++ " node types"
  | edgesRendered n => "Rendered " ++ toString n ++ " edge and connection types"
  | generated n => "Schema generated in " ++ elapsed ++ " (" ++ toString n ++ " characters)"
  | delivered target => "Document delivered to " ++ target

end Event
end GraphSchema
