import GraphSchema.Data.Json
import GraphSchema.Files.Disk
import GraphSchema.Graph.Document
import GraphSchema.Text.Lines

/-! Graph files: documents on disk as JSON text in UTF-8. -/
namespace GraphSchema
open Text (DecodeError)

inductive FileError where
  | nullInPath
  | cannotRead (path : Path) (error : DiskError)
  | undecodable (error : DecodeError)
  | notJson (path : Path) (text : List Char) (fault : Json.Fault) (position : Nat)
  | beyond (excess : Json.Excess)
  deriving DecidableEq, Repr

def FileError.message : FileError → String
  | .nullInPath => Path.nullMessage
  | .cannotRead p e => "Cannot read graph document " ++ p.toString ++ ": " ++ e.message
  | .undecodable e => e.message
  | .notJson p text fault position =>
    "Graph document " ++ p.toString ++ " is not valid JSON: " ++ fault.messageAt position text
  | .beyond x => x.message

/-- The value that a file holds. -/
def Disk.readGraph (d : Disk) (path : Path) : Except FileError Value :=
  if path.hasNull then .error .nullInPath
  else
    match d.read path with
    | .error fault => .error (.cannotRead path ⟨fault, path.toString⟩)
    | .ok bytes =>
      match Text.decode bytes with
      | .error e => .error (.undecodable e)
      | .ok cs =>
        let text := Text.unifyNewlines cs
        match Json.read text with
        | .error (.malformed fault position) => .error (.notJson path text fault position)
        | .error (.beyond x) => .error (.beyond x)
        | .ok v => .ok v

end GraphSchema
