import GraphSchema.CommandLine.Help
import GraphSchema.Delivery
import GraphSchema.Graph.File
import GraphSchema.Logging.Logger
import GraphSchema.Settings.Sources

/-! Runs of the program as functions: arguments, environment and disk go in; the exit, both output
streams and the disk come out. The output is written in UTF-8, so that half of a surrogate pair,
which a graph file may bring in, breaks the run; the other stream shows it as an escape. The
arguments and the variables hold no halves. -/
namespace GraphSchema.CommandLine

/-- What a run finds; the time of each log line and the duration of generation are given. -/
structure Surroundings where
  environment : Settings.Environment := []
  disk : Disk := {}
  stamp : String := ""
  elapsed : String := ""
  deriving Repr

/-- What ends a command early. -/
inductive Failure where
  | settings (error : Settings.Error)
  | file (error : FileError)
  | setUp (error : SetUpError)
  | load (error : LoadError)
  | run (error : RunError)
  | output (error : Text.EncodeError)
  deriving Repr

namespace Failure

def message : Failure → String
  | settings e => e.message
  | file e => e.message
  | setUp e => e.message
  | load e => e.message
  | run e => e.message
  | output e => e.message

/-- Failures that a user may cause in ordinary use are told in one line; all others break the run.
-/
def isExpected : Failure → Bool
  | settings (.undecodable _) | file .nullInPath | file (.undecodable _) | file (.beyond _) | setUp _
  | load (.notList _) | load .overlong | run (.generation (.field (.beyond _)))
  | run (.delivery .nullInPath) | run (.delivery (.cannotEncode _)) | output _ => false
  | _ => true

end Failure

/-- A run in progress: the settings, once they have been asked for, the logger, the disk, and what
has been written to the two streams. In `err` a half stands where the stream shows its escape. -/
structure Session where
  settings? : Option Settings := none
  logger : Logger := {}
  disk : Disk
  out : String := ""
  err : String := ""
  deriving Repr

/-- A session after a step, and how the step ended. -/
abbrev Ended (α : Type) := Session × Except Failure α

namespace Session

def say (s : Session) (text : String) : Session := { s with out := s.out ++ text }
def warn (s : Session) (text : String) : Session := { s with err := s.err ++ text }

/-- Writes a text that may hold halves to the output; if it does, nothing of it is written. -/
def print (s : Session) (text : String) : Ended Unit :=
  match Text.encode .utf8 text.toList with
  | .error e => (s, .error (.output e))
  | .ok _ => (s.say text, .ok ())

/-- Writes texts in order, up to the first that cannot be written. -/
def printAll (s : Session) : List String → Ended Unit
  | [] => (s, .ok ())
  | text :: texts =>
    match s.print text with
    | (s, .error f) => (s, .error f)
    | (s, .ok ()) => s.printAll texts

def logOne (w : Surroundings) (s : Session) (e : Event) : Session :=
  let shown := s.logger.emit w.stamp (s.disk, s.err) (e.record w.elapsed)
  { s with disk := shown.1, err := shown.2 }

def log (w : Surroundings) (s : Session) (es : List Event) : Session := es.foldl (logOne w) s

/-- The settings, which are loaded when they are first asked for. -/
def settle (w : Surroundings) (s : Session) : Ended Settings :=
  match s.settings? with
  | some settings => (s, .ok settings)
  | none =>
    let loaded := Settings.load [] w.environment s.disk
    let s := s.warn (String.join loaded.complaints)
    match loaded.outcome with
    | .error e => (s, .error (.settings e))
    | .ok settings => ({ s with settings? := some settings }, .ok settings)

/-- Loads a graph file. The logger is set up once the file turns out to hold an object. -/
def load (w : Surroundings) (s : Session) (path : Path) (strict : Bool) : Ended Store :=
  match s.disk.readGraph path with
  | .error e => (s, .error (.file e))
  | .ok (.object fields) =>
    match s.settle w with
    | (s, .error e) => (s, .error e)
    | (s, .ok settings) =>
      match s.logger.setUp settings {} s.disk with
      | (logger, disk, .error e) => ({ s with logger, disk }, .error (.setUp e))
      | (logger, disk, .ok ()) =>
        let loaded := Load.document strict 0 (.object fields)
        (({ s with logger, disk } : Session).log w loaded.events,
          loaded.outcome.mapError .load)
  | .ok _ => (s, .error (.load .notObject))

/-- Hands a finished document to the file at a path, or to the output. -/
def hand (s : Session) (path? : Option Path) (document : String) :
    Session × String × Except DeliveryError Unit :=
  match path? with
  | none =>
    let stream : Stream := ⟨s.out⟩
    match Text.encode .utf8 (document ++ "\n").toList with
    | .error e => (s, (Target.stream stream).name, .error (.cannotEncode e))
    | .ok _ =>
      ({ s with out := (stream.take document).written }, (Target.stream stream).name, .ok ())
  | some path =>
    let file : FileTarget := ⟨path, .utf8⟩
    let (disk, r) := file.take s.disk document
    ({ s with disk }, (Target.file file).name, r)

def warningLine (warning : String) : String := "⚠️  " ++ warning ++ "\n"

def writtenLine (made : Generated) (output : String) : String :=
  "✅ Schema for " ++ toString made.nodeCount ++ " nodes and " ++ toString made.edgeCount ++
    " edges written to: " ++ output ++ "\n"

/-- Generates the document of a store. The log tells of each step when it is done, and the user is
told of warnings and of the file at the end. -/
def produce (w : Surroundings) (s : Session) (store : Store) (d : Diagnosis)
    (output : Option String) : Ended Unit :=
  let journal := d.generate store.provider
  let s := s.log w journal.events
  match journal.outcome with
  | .error e => (s, .error (.run (.generation e)))
  | .ok made =>
    match s.hand (output.map Path.ofString) made.document with
    | (s, _, .error e) => (s, .error (.run (.delivery e)))
    | (s, target, .ok ()) =>
      let s := (s.log w [.delivered target]).warn (String.join (made.warnings.map warningLine))
      match output with
      | none => (s, .ok ())
      | some path => (s.say (writtenLine made path), .ok ())

/-- Where a document goes: the file asked for, else the one of the settings, else the output. -/
def outputOf (settings : Settings) (o : GenerateOptions) : Option String :=
  match o.output.filter (· ≠ "") with
  | some path => some path
  | none => settings.defaultOutputFile.map Path.toString

/-- The settings with the policy of the arguments, if they give one. -/
def diagnosisOf (settings : Settings) (o : GenerateOptions) : Diagnosis :=
  { settings.diagnosis with
    collisions := o.policy.getD settings.diagnosis.collisions }

def generate (w : Surroundings) (s : Session) (o : GenerateOptions) : Ended Unit :=
  match s.settle w with
  | (s, .error e) => (s, .error e)
  | (s, .ok settings) =>
    match s.load w (Path.ofString o.graph) o.strict with
    | (s, .error e) => (s, .error e)
    | (s, .ok store) =>
      s.produce w store (diagnosisOf settings o) (outputOf settings o)

def nodeLine (n : Node) : String :=
  "  - " ++ n.label ++ ": type " ++ n.typeName ++ ", input " ++ n.inputName ++ ", query " ++
    n.queryName ++ ", " ++ toString n.properties.length ++ " properties\n"

/-- The names of a link, or what is missing. -/
def edgeLine (e : Edge) (resolved : Except GenerationError Link) : String :=
  "  - " ++ e.label ++ ": " ++
    (match resolved with
    | .ok l => l.start.label ++ " -> " ++ l.finish.label ++ ", " ++ l.edgeName ++ " / " ++
        l.connectionName
    | .error x => "❌ " ++ x.message) ++ "\n"

def summary (store : Store) : List String :=
  ["📋 Nodes (" ++ toString store.allNodes.length ++ "):\n"] ++ store.allNodes.map nodeLine ++
    ["\n🔗 Edges (" ++ toString store.allEdges.length ++ "):\n"] ++
    store.allEdges.map fun e => edgeLine e (store.provider.resolve e)

/-- The edges that lack a node. -/
def dangling (store : Store) : List Edge :=
  store.allEdges.filter fun e => !(store.provider.resolve e).isOk

/-- Shows the names that a graph generates, and whether every edge has its nodes. -/
def inspect (w : Surroundings) (s : Session) (graph : String) : Ended Bool :=
  match s.load w (Path.ofString graph) false with
  | (s, .error e) => (s, .error e)
  | (s, .ok store) =>
    match s.printAll (summary store) with
    | (s, .error f) => (s, .error f)
    | (s, .ok ()) => (s, .ok (dangling store).isEmpty)

end Session

/-- How a run ends: with a code, or broken by a failure, which leaves the code 1 as well. -/
inductive Exit where
  | code (n : Nat)
  | broken (failure : Failure)
  deriving Repr

structure Outcome where
  exit : Exit
  out : String := ""
  err : String := ""
  disk : Disk
  deriving Repr

def Session.finish (s : Session) (exit : Exit) : Outcome := ⟨exit, s.out, s.err, s.disk⟩

/-- The code of a step that ended well, or the end that a failure makes. -/
def conclude {α : Type} (code : α → Nat) : Ended α → Outcome
  | (s, .ok a) => s.finish (.code (code a))
  | (s, .error f) =>
    if f.isExpected then (s.warn ("❌ Error: " ++ f.message ++ "\n")).finish (.code 1)
    else s.finish (.broken f)

def run (w : Surroundings) (arguments : List String) : Outcome :=
  let s : Session := { disk := w.disk }
  match Request.ofArguments arguments with
  | .overview => (s.say Page.overview).finish (.code 1)
  | .help page => (s.say page.help).finish (.code 0)
  | .refused page fault => (s.warn (page.refusal fault)).finish (.code 2)
  | .generate options => conclude (fun _ => 0) (s.generate w options)
  | .inspect graph => conclude (fun fine => if fine then 0 else 1) (s.inspect w graph)

/-- The paths that a request reads or writes under some settings, besides the file of variables. -/
def Request.paths (settings : Settings) : Request → List Path
  | .generate o =>
    Path.ofString o.graph :: settings.logFile.toList ++
      ((Session.outputOf settings o).map Path.ofString).toList
  | .inspect graph => Path.ofString graph :: settings.logFile.toList
  | _ => []

end GraphSchema.CommandLine
