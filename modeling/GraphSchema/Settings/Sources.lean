import GraphSchema.Files.Disk
import GraphSchema.Settings.Basic
import GraphSchema.Settings.EnvFile

/-! Where settings come from: given values, the environment, and the file of variables in the
working directory, the first of them that has a field. -/
namespace GraphSchema.Settings
open Text (DecodeError)

abbrev Environment := List (String × String)

inductive Error where
  | refused (refusal : Refusal)
  | undecodable (error : DecodeError)
  deriving DecidableEq, Repr

def Error.message : Error → String
  | .refused r => r.message
  | .undecodable e => e.message

/-- What the names of variables begin with. -/
def variablePrefix : String := "graph_designer_"

def lowered (s : String) : String := String.ofList (Text.lower s.toList)

/-- The last of the entries whose name, in small letters, is the given one. -/
def lastNamed {α : Type} (name : String) (entries : List (String × α)) : Option α :=
  (entries.reverse.find? fun e => lowered e.1 = name).map (·.2)

/-- The given value of a field: an entry with capitals in its name goes before the one that has the
very name. -/
def givenValue (values : List (String × Value)) (name : String) : Option Value :=
  match lastNamed name (values.filter (·.1 ≠ name)) with
  | some v => some v
  | none => values.lookup name

/-- The value of a field from the first source that has it. -/
def fieldValue (values : List (String × Value)) (environment : Environment)
    (file : List EnvFile.Binding) (name : String) : Option Value :=
  match givenValue values name with
  | some v => some v
  | none =>
    match lastNamed (variablePrefix ++ name) environment with
    | some s => some (.text s)
    | none => (lastNamed (variablePrefix ++ name) file).join.map .text

def gather (values : List (String × Value)) (environment : Environment)
    (file : List EnvFile.Binding) : List (String × Value) :=
  fieldNames.filterMap fun name => (fieldValue values environment file name).map (name, ·)

/-- The settings from values, the environment and bindings of a file. -/
def ofSources (values : List (String × Value)) (environment : Environment)
    (file : List EnvFile.Binding) : Except Refusal Settings :=
  Checked.refuseAs .settings (check (gather values environment file))

def filePath : Path := Path.ofString ".env"

/-- What the file of variables holds; a file that is not there is empty. -/
def fileContents (environment : Environment) (d : Disk) : Except DecodeError EnvFile.Contents :=
  if d.isFile filePath then
    match d.read filePath with
    | .error _ => .ok {}
    | .ok bytes => (Text.decode bytes).map (EnvFile.read environment)
  else .ok {}

/-- How loading ended, and what it told of the file of variables on the way. -/
structure Loaded where
  complaints : List String := []
  outcome : Except Error Settings

def load (values : List (String × Value)) (environment : Environment) (d : Disk) : Loaded :=
  match fileContents environment d with
  | .error e => { outcome := .error (.undecodable e) }
  | .ok file =>
    { complaints := file.unreadable.map EnvFile.complaint
      outcome := (ofSources values environment file.bindings).mapError .refused }

end GraphSchema.Settings
