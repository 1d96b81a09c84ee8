import GraphSchema.Files.Disk
import GraphSchema.Schema.Generation

/-! Targets that take finished documents: a buffer for the last one, a stream of all of them, a
file. -/
namespace GraphSchema
open Text (Encoding EncodeError)

/-- Holds the latest document and counts all of them. -/
structure Buffer where
  content : Option String := none
  count : Nat := 0
  deriving DecidableEq, Repr, Inhabited

def Buffer.take (b : Buffer) (document : String) : Buffer := ⟨some document, b.count + 1⟩

/-- A text stream, as what has been written to it. -/
structure Stream where
  written : String := ""
  deriving DecidableEq, Repr, Inhabited

def Stream.take (s : Stream) (document : String) : Stream := ⟨s.written ++ document ++ "\n"⟩

structure FileTarget where
  path : Path
  encoding : Encoding := .utf8
  deriving DecidableEq, Repr, Inhabited

inductive DeliveryError where
  | nullInPath
  | cannotWrite (path : Path) (error : DiskError)
  | cannotEncode (error : EncodeError)
  deriving DecidableEq, Repr

def DeliveryError.message : DeliveryError → String
  | .nullInPath => Path.nullMessage
  | .cannotWrite p e => "Cannot write schema to " ++ p.toString ++ ": " ++ e.message
  | .cannotEncode e => e.message

/-- Replaces the content of the file. The file is emptied before the document is encoded, so that a
document that does not fit the encoding leaves an empty file. A disk here fails at opening only, so
the second write, to the file that is open by then, succeeds. -/
def FileTarget.replace (t : FileTarget) (d : Disk) (document : String) :
    Disk × Except DeliveryError Unit :=
  match d.write t.path [] with
  | .error fault => (d, .error (.cannotWrite t.path ⟨fault, t.path.toString⟩))
  | .ok emptied =>
    match Text.encode t.encoding (document ++ "\n").toList with
    | .error e => (emptied, .error (.cannotEncode e))
    | .ok bytes =>
      match emptied.write t.path bytes with
      | .error fault => (emptied, .error (.cannotWrite t.path ⟨fault, t.path.toString⟩))
      | .ok written => (written, .ok ())

/-- Makes the directory of the file and replaces the content of the file by the document. -/
def FileTarget.take (t : FileTarget) (d : Disk) (document : String) :
    Disk × Except DeliveryError Unit :=
  if t.path.parent.hasNull then (d, .error .nullInPath)
  else
    match d.ensureDirectory t.path.parent with
    | (d, .error e) => (d, .error (.cannotWrite t.path e))
    | (d, .ok ()) =>
      if t.path.hasNull then (d, .error .nullInPath) else t.replace d document

inductive Target where
  | buffer (b : Buffer)
  | stream (s : Stream)
  | file (t : FileTarget)
  deriving DecidableEq, Repr, Inhabited

namespace Target

/-- How a target is named in the log. -/
def name : Target → String
  | buffer _ => "BufferTarget()"
  | stream _ => "StreamTarget()"
  | file t => "FileTarget(" ++ String.ofList (Text.quote t.path.toString.toList) ++ ")"

def take (t : Target) (d : Disk) (document : String) : Target × Disk × Except DeliveryError Unit :=
  match t with
  | buffer b => (buffer (b.take document), d, .ok ())
  | stream s => (stream (s.take document), d, .ok ())
  | file f =>
    let (d, r) := f.take d document
    (file f, d, r)

end Target

inductive RunError where
  | generation (e : GenerationError)
  | delivery (e : DeliveryError)
  deriving Repr

def RunError.message : RunError → String
  | .generation e => e.message
  | .delivery e => e.message

/-- What is left after a document was made and handed over, or was not. -/
structure Delivered where
  events : List Event
  target : Target
  disk : Disk
  outcome : Except RunError Generated
  deriving Repr

/-- Generates a document and hands it to a target. The target is asked only once the whole document
is there. -/
def Diagnosis.deliver (d : Diagnosis) (p : Provider) (target : Target) (disk : Disk) : Delivered :=
  let journal := d.generate p
  match journal.outcome with
  | .error e => ⟨journal.events, target, disk, .error (.generation e)⟩
  | .ok made =>
    match target.take disk made.document with
    | (after, disk, .error e) => ⟨journal.events, after, disk, .error (.delivery e)⟩
    | (after, disk, .ok ()) =>
      ⟨journal.events ++ [.delivered target.name], after, disk, .ok made⟩

end GraphSchema
