import GraphSchema.Files.Disk
import GraphSchema.Logging.Event
import GraphSchema.Settings.Basic
import GraphSchema.Text.Case

/-! The logger of the package: its level and handlers, how a set-up replaces them, and which lines a
record leaves. A set-up that was done before with the same arguments is not done again. -/
namespace GraphSchema

/-- A line for the log before its layout. -/
structure Record where
  level : Level
  source : String
  message : String
  deriving DecidableEq, Repr

def Event.record (elapsed : String) (e : Event) : Record := ⟨e.level, e.source, e.message elapsed⟩

inductive Outlet where
  | console
  | file (path : Path)
  deriving DecidableEq, Repr

/-- A handler passes on the records of its level and above, with the time in front if stamped. -/
structure Handler where
  outlet : Outlet
  level : Nat
  stamped : Bool
  deriving DecidableEq, Repr

namespace Handler

/-- The layout of a line, with placeholders for its parts. -/
def pattern (h : Handler) : String :=
  (if h.stamped then "%(asctime)s - " else "") ++ "%(name)s - %(levelname)s - %(message)s"

/-- The layout of the time, where it is shown. -/
def timePattern? (h : Handler) : Option String :=
  if h.stamped then some "%Y-%m-%d %H:%M:%S" else none

/-- The line of a record at the time `stamp`. -/
def line (h : Handler) (stamp : String) (r : Record) : String :=
  (if h.stamped then stamp ++ " - " else "") ++
    r.source ++ " - " ++ r.level.name ++ " - " ++ r.message ++ "\n"

end Handler

/-- The arguments of a set-up, given by their names. An absent argument and an explicit null ask for
the same but are remembered apart; arguments given by place, which would be remembered apart from
these as well, are left aside. -/
structure SetUp where
  level : Option (Option String) := none
  file : Option (Option String) := none
  stamped : Option Bool := none
  deriving DecidableEq, Repr, Inhabited

structure Logger where
  level : Nat := 0
  handlers : List Handler := []
  /-- The set-ups that were done, the latest first. -/
  remembered : List SetUp := []
  deriving DecidableEq, Repr, Inhabited

inductive SetUpError where
  /-- The name stands for a text and not for a level. -/
  | notLevel (text : String)
  /-- The name stands for neither a level nor a text. -/
  | notText (shown : String)
  | nullInPath
  | cannotOpen (error : DiskError)
  deriving DecidableEq, Repr

def SetUpError.message : SetUpError → String
  | .notLevel text => "Unknown level: " ++ String.ofList (Text.quote text.toList)
  | .notText shown => "Level not an integer or a valid string: " ++ shown
  | .nullInPath => Path.nullMessage
  | .cannotOpen e => e.message

namespace Level

/-- The numbers of the names of levels; two of the levels have two names, and zero is no level. -/
def numbers : List (String × Nat) :=
  [("DEBUG", 10), ("INFO", 20), ("WARNING", 30), ("WARN", 30), ("ERROR", 40), ("CRITICAL", 50),
    ("FATAL", 50), ("NOTSET", 0)]

/-- The table of the ways to write a layout, as it is shown. -/
def layoutTable : String :=
  "\x7b'%': (<class 'logging.PercentStyle'>, '%(levelname)s:%(name)s:%(message)s'), " ++
    "'\x7b': (<class 'logging.StrFormatStyle'>, " ++
    "'\x7blevelname\x7d:\x7bname\x7d:\x7bmessage\x7d'), " ++
    "'$': (<class 'logging.StringTemplateStyle'>, " ++
    "'$\x7blevelname\x7d:$\x7bname\x7d:$\x7bmessage\x7d')\x7d"

/-- The number of a name in any case. An unknown name means the level of information; the names of a
line layout and of the table of layouts are refused. -/
def ofName (name : String) : Except SetUpError Nat :=
  let raised := String.ofList (Text.upper name.toList)
  if raised = "BASIC_FORMAT" then .error (.notLevel "%(levelname)s:%(name)s:%(message)s")
  else if raised = "_STYLES" then .error (.notText layoutTable)
  else .ok ((numbers.lookup raised).getD info.severity)

end Level

/-- The text that was given unless it is empty. -/
def nonempty (given : Option (Option String)) : Option String := given.join.filter (· ≠ "")

namespace SetUp

def levelName (r : SetUp) (s : Settings) : String := (nonempty r.level).getD s.effectiveLevel

def path? (r : SetUp) (s : Settings) : Option Path :=
  match nonempty r.file with
  | some text => some (Path.ofString text)
  | none => s.logFile

def isStamped (r : SetUp) : Bool := r.stamped.getD true

end SetUp

namespace Logger

/-- How many set-ups are remembered. -/
def memory : Nat := 128

def remember (l : Logger) (r : SetUp) : Logger :=
  { l with remembered := (r :: l.remembered.erase r).take memory }

/-- Makes the directory of a log file and opens the file at its end. -/
def openLog (d : Disk) (path : Path) : Disk × Except SetUpError Path :=
  if path.parent.hasNull then (d, .error .nullInPath)
  else
    match d.ensureDirectory path.parent with
    | (d, .error e) => (d, .error (.cannotOpen e))
    | (d, .ok ()) =>
      let full := d.absolute path
      if path.hasNull then (d, .error .nullInPath)
      else
        match d.append (Path.ofString full) [] with
        | .error fault => (d, .error (.cannotOpen ⟨fault, full⟩))
        | .ok d => (d, .ok (Path.ofString full))

/-- Replaces the handlers by one for the console and one for the file, if a file is asked for. The
console is there even where the file cannot be opened. -/
def replaceHandlers (l : Logger) (level : Nat) (stamped : Bool) (path? : Option Path) (d : Disk) :
    Logger × Disk × Except SetUpError Unit :=
  let console : Handler := ⟨.console, level, stamped⟩
  let bare := { l with level, handlers := [console] }
  match path? with
  | none => (bare, d, .ok ())
  | some path =>
    match openLog d path with
    | (d, .error e) => (bare, d, .error e)
    | (d, .ok full) =>
      ({ bare with handlers := [console, ⟨.file full, level, stamped⟩] }, d, .ok ())

def setUp (l : Logger) (s : Settings) (r : SetUp) (d : Disk) :
    Logger × Disk × Except SetUpError Unit :=
  if l.remembered.contains r then (l.remember r, d, .ok ())
  else
    match Level.ofName (r.levelName s) with
    | .error e => (l, d, .error e)
    | .ok level =>
      match l.replaceHandlers level r.isStamped (r.path? s) d with
      | (l, d, .error e) => (l, d, .error e)
      | (l, d, .ok ()) => (l.remember r, d, .ok ())

/-- The name of the logger; the loggers of its parts have a point behind it. -/
def packageName : List Char := "graphdesigner".toList

def covers (source : String) : Bool :=
  source.toList = packageName || (packageName ++ ['.']).isPrefixOf source.toList

/-- The least severity that passes; a logger with no level of its own passes warnings. -/
def threshold (l : Logger) : Nat := if l.level = 0 then Level.warning.severity else l.level

/-- A disk, and text on the console. -/
abbrev Shown := Disk × String

/-- The console takes every line. A file takes the lines that can be written in UTF-8; of any other
the logging of the language complains on the console, which is left out here. -/
def handle (stamp : String) (r : Record) (w : Shown) (h : Handler) : Shown :=
  if h.level ≤ r.level.severity then
    match h.outlet with
    | .console => (w.1, w.2 ++ h.line stamp r)
    | .file path =>
      match Text.encode .utf8 (h.line stamp r).toList with
      | .error _ => w
      | .ok bytes =>
        match w.1.append path bytes with
        | .ok d => (d, w.2)
        | .error _ => w
  else w

/-- Where no handler is responsible, warnings and worse show on the console as they are. -/
def handleBare (r : Record) (w : Shown) : Shown :=
  if Level.warning.severity ≤ r.level.severity then (w.1, w.2 ++ r.message ++ "\n") else w

def emit (l : Logger) (stamp : String) (w : Shown) (r : Record) : Shown :=
  if covers r.source then
    if r.level.severity < l.threshold then w
    else if l.handlers.isEmpty then handleBare r w
    else l.handlers.foldl (handle stamp r) w
  else handleBare r w

end Logger
end GraphSchema
