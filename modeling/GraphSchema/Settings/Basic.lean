import GraphSchema.Files.Path
import GraphSchema.Graph.Validation
import GraphSchema.Schema.Generation

/-! Settings: the fields, their rules, and what logging and generation take from them. -/
namespace GraphSchema

structure Settings where
  appName : String := "Graph Schema Designer"
  appVersion : String := "1.0.0"
  debug : Bool := false
  logLevel : String := "INFO"
  logFile : Option Path := none
  collisionPolicy : CollisionPolicy := .warn
  checkIdentifiers : Bool := true
  defaultOutputFile : Option Path := none
  deriving DecidableEq, Repr, Inhabited

namespace Settings

def logLevels : List String := ["DEBUG", "INFO", "WARNING", "ERROR", "CRITICAL"]

def checkLogLevel (v : Value) : Checked String :=
  match Check.text v with
  | .error fs => .error fs
  | .ok s =>
    let raised := String.ofList (Text.upper s.toList)
    if logLevels.contains raised then .ok raised else Checked.fault .logLevel

def checkCollisionPolicy (v : Value) : Checked CollisionPolicy :=
  match Check.text v with
  | .error fs => .error fs
  | .ok s =>
    let lowered := String.ofList (Text.lower s.toList)
    match [CollisionPolicy.warn, .error, .ignore].find? (·.name = lowered) with
    | some p => .ok p
    | none => Checked.fault .collisionPolicy

def checkPath : Value → Checked (Option Path)
  | .null => .ok none
  | .text s => .ok (some (Path.ofString s))
  | _ => Checked.fault .notPath

def appNameField : FieldName := ⟨"app_name", none⟩
def appVersionField : FieldName := ⟨"app_version", none⟩
def debugField : FieldName := ⟨"debug", none⟩
def logLevelField : FieldName := ⟨"log_level", none⟩
def logFileField : FieldName := ⟨"log_file", none⟩
def collisionPolicyField : FieldName := ⟨"collision_policy", none⟩
def checkIdentifiersField : FieldName := ⟨"check_identifiers", none⟩
def defaultOutputFileField : FieldName := ⟨"default_output_file", none⟩

def fieldNames : List String :=
  [appNameField, appVersionField, debugField, logLevelField, logFileField, collisionPolicyField,
    checkIdentifiersField, defaultOutputFileField].map (·.name)

def check (fields : List (String × Value)) : Checked Settings :=
  let standard : Settings := {}
  (Checked.andAlso (.ok Settings.mk) (appNameField.optional standard.appName Check.text fields))
    |>.andAlso (appVersionField.optional standard.appVersion Check.text fields)
    |>.andAlso (debugField.optional standard.debug Check.boolean fields)
    |>.andAlso (logLevelField.optional standard.logLevel checkLogLevel fields)
    |>.andAlso (logFileField.optional standard.logFile checkPath fields)
    |>.andAlso
      (collisionPolicyField.optional standard.collisionPolicy checkCollisionPolicy fields)
    |>.andAlso (checkIdentifiersField.optional standard.checkIdentifiers Check.boolean fields)
    |>.andAlso (defaultOutputFileField.optional standard.defaultOutputFile checkPath fields)

/-- The level that logging is set to. -/
def effectiveLevel (s : Settings) : String := if s.debug then "DEBUG" else s.logLevel

def diagnosis (s : Settings) : Diagnosis := ⟨s.collisionPolicy, s.checkIdentifiers⟩

end Settings
end GraphSchema
