import GraphSchema.Files.Path
import GraphSchema.Text.Encoding

/-! A disk as a value: directories and files under a root, and the operations that read and change
them, with the faults that a path can meet. -/
namespace GraphSchema
open Text (Bytes)

/-- The names that lead from the root to an entry. -/
abbrev Place := List String

inductive Entry where
  | directory
  | file (content : Bytes)
  deriving DecidableEq, Repr

inductive DiskFault where
  | noEntry | exists | notDirectory | isDirectory | nameTooLong
  deriving DecidableEq, Repr

namespace DiskFault

def number : DiskFault → Nat
  | noEntry => 2
  | «exists» => 17
  | notDirectory => 20
  | isDirectory => 21
  | nameTooLong => 36

def text : DiskFault → String
  | noEntry => "No such file or directory"
  | «exists» => "File exists"
  | notDirectory => "Not a directory"
  | isDirectory => "Is a directory"
  | nameTooLong => "File name too long"

end DiskFault

/-- A fault and the path, as it was given, that met it. -/
structure DiskError where
  fault : DiskFault
  path : String
  deriving DecidableEq, Repr

def DiskError.message (e : DiskError) : String :=
  "[Errno " ++ toString e.fault.number ++ "] " ++ e.fault.text ++ ": " ++
    String.ofList (Text.quote e.path.toList)

/-- Paths without an anchor start at the working directory. -/
structure Disk where
  working : Place := []
  entries : List (Place × Entry) := []
  deriving Repr, Inhabited

namespace Disk

def entry? (d : Disk) (p : Place) : Option Entry :=
  if p = [] then some .directory else d.entries.lookup p

def put (d : Disk) (p : Place) (e : Entry) : Disk :=
  if (d.entries.lookup p).isSome then
    { d with entries := d.entries.map fun x => if x.1 = p then (p, e) else x }
  else { d with entries := d.entries ++ [(p, e)] }

def move (p : Place) (part : String) : Place := if part = ".." then p.dropLast else p ++ [part]

/-- The number of bytes that a name may have. -/
def nameLimit : Nat := 255

/-- The number of bytes that a path may have. -/
def pathLimit : Nat := 4095

def moveTo (p : Place) (part : String) : Except DiskFault Place :=
  if nameLimit < part.utf8ByteSize then .error .nameTooLong else .ok (move p part)

/-- Follows parts of a path; all but the last must be directories. -/
def follow (d : Disk) (p : Place) : List String → Except DiskFault Place
  | [] => .ok p
  | [last] => moveTo p last
  | part :: next :: rest =>
    match moveTo p part with
    | .error fault => .error fault
    | .ok q =>
      match d.entry? q with
      | none => .error .noEntry
      | some (.file _) => .error .notDirectory
      | some .directory => d.follow q (next :: rest)

def locate (d : Disk) (path : Path) : Except DiskFault Place :=
  if pathLimit < path.toString.utf8ByteSize then .error .nameTooLong
  else d.follow (if path.anchor = "" then d.working else []) path.parts

def isDirectory (d : Disk) (path : Path) : Bool :=
  match d.locate path with
  | .ok p => d.entry? p = some .directory
  | .error _ => false

def isFile (d : Disk) (path : Path) : Bool :=
  match d.locate path with
  | .ok p =>
    match d.entry? p with
    | some (.file _) => true
    | _ => false
  | .error _ => false

def read (d : Disk) (path : Path) : Except DiskFault Bytes := do
  let p ← d.locate path
  match d.entry? p with
  | none => .error .noEntry
  | some .directory => .error .isDirectory
  | some (.file content) => .ok content

/-- Changes the content of a file, which is empty if the file is new. -/
def change (d : Disk) (path : Path) (f : Bytes → Bytes) : Except DiskFault Disk := do
  let p ← d.locate path
  match d.entry? p with
  | none => .ok (d.put p (.file (f [])))
  | some .directory => .error .isDirectory
  | some (.file content) => .ok (d.put p (.file (f content)))

def write (d : Disk) (path : Path) (content : Bytes) : Except DiskFault Disk :=
  d.change path fun _ => content

def append (d : Disk) (path : Path) (content : Bytes) : Except DiskFault Disk :=
  d.change path (· ++ content)

def makeDirectory (d : Disk) (path : Path) : Except DiskFault Disk := do
  let p ← d.locate path
  match d.entry? p with
  | none => .ok (d.put p .directory)
  | some _ => .error .exists

/-- Makes a directory, or leaves one that is there. -/
def ensureOne (d : Disk) (path : Path) : Except DiskError Disk :=
  match d.makeDirectory path with
  | .ok d => .ok d
  | .error fault =>
    if fault ≠ .noEntry ∧ d.isDirectory path then .ok d else .error ⟨fault, path.toString⟩

/-- Makes a directory and those above it that are missing; `above` are these, the nearest first. -/
def ensureWith (d : Disk) (path : Path) : (above : List Path) → Disk × Except DiskError Unit
  | [] =>
    match d.ensureOne path with
    | .ok d => (d, .ok ())
    | .error e => (d, .error e)
  | parent :: above =>
    match d.makeDirectory path with
    | .ok d => (d, .ok ())
    | .error .noEntry =>
      match d.ensureWith parent above with
      | (d, .error e) => (d, .error e)
      | (d, .ok ()) =>
        match d.ensureOne path with
        | .ok d => (d, .ok ())
        | .error e => (d, .error e)
    | .error fault =>
      if d.isDirectory path then (d, .ok ()) else (d, .error ⟨fault, path.toString⟩)

def ensureDirectory (d : Disk) (path : Path) : Disk × Except DiskError Unit :=
  d.ensureWith path path.parents

/-- The absolute form of a path, without following it. -/
def absolute (d : Disk) (path : Path) : String :=
  let start := if path.anchor = "" then d.working else []
  (if path.anchor = "//" then "//" else "/") ++ "/".intercalate (path.parts.foldl move start)

end Disk
end GraphSchema
