import GraphSchema.Schema.Generation
import GraphSchema.Text.Digit
import GraphSchema.Text.Quoted

/-! The arguments of the program: options in any order among the operands, values behind an equals
sign or as the next argument, shortened long options, letters bundled behind one dash, and two
dashes after which all arguments are operands. -/
namespace GraphSchema.CommandLine

inductive Flag where
  | help | output | collisionPolicy | strict
  deriving DecidableEq, Repr

namespace Flag

def spellings : Flag → List String
  | help => ["-h", "--help"]
  | output => ["--output", "-o"]
  | collisionPolicy => ["--collision-policy"]
  | strict => ["--strict"]

def takesValue : Flag → Bool
  | output | collisionPolicy => true
  | help | strict => false

def title (f : Flag) : String := "/".intercalate f.spellings

end Flag

/-- The program as a whole and its two commands, each with its own options and its own help. -/
inductive Page where
  | main | generate | inspect
  deriving DecidableEq, Repr

namespace Page

def flags : Page → List Flag
  | main => [.help]
  | generate => [.help, .output, .collisionPolicy, .strict]
  | inspect => [.help]

/-- Every spelling of an option with the option, in the order of the options. -/
def spelled (p : Page) : List (List Char × Flag) :=
  p.flags.flatMap fun f => f.spellings.map fun s => (s.toList, f)

end Page

inductive UsageFault where
  | ambiguous (argument : String) (candidates : List String)
  | needlessValue (flag : Flag) (value : List Char)
  | missingValue (flag : Flag)
  | badChoice (title value : String) (choices : List String)
  | missingGraph
  | unrecognized (arguments : List String)
  deriving DecidableEq, Repr

namespace UsageFault

def quoted (s : List Char) : String := String.ofList (Text.quote s)

def message : UsageFault → String
  | ambiguous argument candidates =>
    "ambiguous option: " ++ argument ++ " could match " ++ ", ".intercalate candidates
  | needlessValue flag value =>
    "argument " ++ flag.title ++ ": ignored explicit argument " ++ quoted value
  | missingValue flag => "argument " ++ flag.title ++ ": expected one argument"
  | badChoice title value choices =>
    "argument " ++ title ++ ": invalid choice: " ++ quoted value.toList ++ " (choose from " ++
      ", ".intercalate (choices.map fun c => quoted c.toList) ++ ")"
  | missingGraph => "the following arguments are required: graph"
  | unrecognized arguments => "unrecognized arguments: " ++ " ".intercalate arguments

end UsageFault

inductive Token where
  | operand (argument : String)
  | unknown (argument : String)
  /-- Two dashes alone. -/
  | marker
  /-- An option with the text that hangs on it, perhaps behind an equals sign. -/
  | option (flag : Flag) (short : Bool) (attached : Option (List Char))
  deriving DecidableEq, Repr

/-- A dash and digits, perhaps with a point that digits follow; a line feed may end it. -/
def isNegativeNumber : List Char → Bool
  | '-' :: cs =>
    let cs := if cs.getLast? = some '\n' then cs.dropLast else cs
    match cs.dropWhile Text.isDigit with
    | [] => !cs.isEmpty
    | '.' :: more => !more.isEmpty && more.all Text.isDigit
    | _ => false
  | _ => false

def isShort (spelling : List Char) : Bool := spelling.length = 2

/-- The options that an argument with a dash in front may stand for, when it is none as it is. -/
def candidates (p : Page) (cs : List Char) : List (List Char × Token) :=
  match cs with
  | '-' :: '-' :: _ =>
    let name := cs.takeWhile (· ≠ '=')
    let attached :=
      match cs.dropWhile (· ≠ '=') with
      | _ :: text => some text
      | [] => none
    (p.spelled.filter fun s => name.isPrefixOf s.1).map fun s =>
      (s.1, .option s.2 (isShort s.1) attached)
  | _ =>
    (p.spelled.filter fun s => s.1 = cs.take 2).map fun s =>
      (s.1, .option s.2 true (some (cs.drop 2)))

/-- What an argument is, other than two dashes alone. -/
def classify (p : Page) (argument : String) : Except UsageFault Token :=
  let cs := argument.toList
  if cs.head? ≠ some '-' ∨ cs = ['-'] then .ok (.operand argument)
  else
    match p.spelled.lookup cs, p.spelled.lookup (cs.takeWhile (· ≠ '=')) with
    | some f, _ => .ok (.option f (isShort cs) none)
    | none, some f =>
      let name := cs.takeWhile (· ≠ '=')
      .ok (.option f (isShort name) (some (cs.drop (name.length + 1))))
    | none, none =>
      match candidates p cs with
      | [(_, t)] => .ok t
      | [] =>
        if isNegativeNumber cs || cs.contains ' ' then .ok (.operand argument)
        else .ok (.unknown argument)
      | many => .error (.ambiguous argument (many.map fun m => String.ofList m.1))

/-- What the arguments are. After two dashes all of them are operands. -/
def tokens (p : Page) : List String → Except UsageFault (List Token)
  | [] => .ok []
  | a :: as =>
    if a = "--" then .ok (.marker :: as.map .operand)
    else
      match classify p a with
      | .error e => .error e
      | .ok t =>
        match tokens p as with
        | .error e => .error e
        | .ok ts => .ok (t :: ts)

/-- The options of one argument: those without a value, then perhaps one with a value, which may be
still to come. -/
structure Bundle where
  plain : List Flag := []
  valued : Option (Flag × Option String) := none
  deriving DecidableEq, Repr

namespace Bundle

def before (f : Flag) (b : Bundle) : Bundle := { b with plain := f :: b.plain }

def single (f : Flag) : Bundle :=
  if f.takesValue then { valued := some (f, none) } else { plain := [f] }

/-- Takes apart what hangs on an option. A short option without a value passes letters on to the
next option, which their first letter has to name. -/
def ofAttached (p : Page) (f : Flag) (short : Bool) : List Char → Except UsageFault Bundle
  | [] =>
    if f.takesValue then .ok { valued := some (f, some "") } else .error (.needlessValue f [])
  | c :: cs =>
    if f.takesValue then .ok { valued := some (f, some (String.ofList (c :: cs))) }
    else if !short then .error (.needlessValue f (c :: cs))
    else
      match p.spelled.lookup ['-', c] with
      | none => .error (.needlessValue f (c :: cs))
      | some g =>
        match cs with
        | [] => .ok ((single g).before f)
        | more => (ofAttached p g true more).map (before f)

def ofOption (p : Page) (f : Flag) (short : Bool) : Option (List Char) → Except UsageFault Bundle
  | none => .ok (single f)
  | some text => ofAttached p f short text

end Bundle

/-- What has been given to a command so far. -/
structure Given where
  graph : Option String := none
  output : Option String := none
  policy : Option CollisionPolicy := none
  strict : Bool := false
  extra : List String := []
  deriving DecidableEq, Repr

/-- Why reading stops before the end. -/
inductive Stop where
  | help
  | fault (f : UsageFault)
  deriving DecidableEq, Repr

namespace Given

def addExtra (g : Given) (arguments : List String) : Given :=
  { g with extra := g.extra ++ arguments }

def policies : List CollisionPolicy := [.warn, .error, .ignore]

/-- Sets an option to its value, which is empty for an option that takes none. Two dashes as the
value take back what was given before. -/
def set (g : Given) (f : Flag) (value : String) : Except Stop Given :=
  match f with
  | .help => .error .help
  | .strict => .ok { g with strict := true }
  | .output => .ok { g with output := if value = "--" then none else some value }
  | .collisionPolicy =>
    if value = "--" then .ok { g with policy := none }
    else
      match policies.find? (·.name = value) with
      | some p => .ok { g with policy := some p }
      | none => .error (.fault (.badChoice f.title value (policies.map (·.name))))

def setPlain (g : Given) : List Flag → Except Stop Given
  | [] => .ok g
  | f :: fs =>
    match g.set f "" with
    | .error s => .error s
    | .ok g => g.setPlain fs

/-- Sets the options of a bundle whose value, if one is wanted, is there. -/
def setAll (g : Given) (b : Bundle) (value : Option (Flag × String)) : Except Stop Given :=
  match g.setPlain b.plain with
  | .error s => .error s
  | .ok g =>
    match value with
    | none => .ok g
    | some (f, v) => g.set f v

/-- Reads what the arguments of a command give. The first operand is the graph; the marker belongs
to it if it stands right before or right behind (`adjacent`), and is an extra argument otherwise.
-/
def scan (p : Page) (g : Given) (adjacent : Bool) : List Token → Except Stop Given
  | [] => .ok g
  | .operand a :: ts =>
    if g.graph.isNone then scan p { g with graph := some a } true ts
    else scan p (g.addExtra [a]) false ts
  | .unknown a :: ts => scan p (g.addExtra [a]) false ts
  | .marker :: ts =>
    if adjacent || (g.graph.isNone && !ts.isEmpty) then scan p g false ts
    else scan p (g.addExtra ["--"]) false ts
  | .option f short attached :: ts =>
    match Bundle.ofOption p f short attached with
    | .error e => .error (.fault e)
    | .ok b =>
      match b.valued with
      | none =>
        match g.setAll b none with
        | .error s => .error s
        | .ok g => scan p g false ts
      | some (f, some v) =>
        match g.setAll b (some (f, v)) with
        | .error s => .error s
        | .ok g => scan p g false ts
      | some (f, none) =>
        match ts with
        | .operand v :: ts =>
          match g.setAll b (some (f, v)) with
          | .error s => .error s
          | .ok g => scan p g false ts
        | _ => .error (.fault (.missingValue f))

/-- Reads the arguments of a command; the graph has to be among them. -/
def read (p : Page) (arguments : List String) : Except Stop (String × Given) :=
  match tokens p arguments with
  | .error e => .error (.fault e)
  | .ok ts =>
    match scan p {} false ts with
    | .error s => .error s
    | .ok g =>
      match g.graph with
      | none => .error (.fault .missingGraph)
      | some path => .ok (path, g)

end Given

structure GenerateOptions where
  graph : String
  output : Option String := none
  policy : Option CollisionPolicy := none
  strict : Bool := false
  deriving DecidableEq, Repr

/-- What the arguments ask for. -/
inductive Request where
  | overview
  | help (page : Page)
  | refused (page : Page) (fault : UsageFault)
  | generate (options : GenerateOptions)
  | inspect (graph : String)
  deriving DecidableEq, Repr

namespace Request

def commands : List String := ["generate", "inspect"]

def badCommand (command : String) : Request :=
  .refused .main (.badChoice "command" command commands)

/-- Reads the arguments of a command, where `extra` stood in front of the command. Arguments that
nothing takes are refused last. -/
def ofCommand (extra : List String) (page : Page) (arguments : List String) : Request :=
  match Given.read page arguments with
  | .error .help => .help page
  | .error (.fault f) => .refused page f
  | .ok (graph, g) =>
    if extra ++ g.extra ≠ [] then .refused .main (.unrecognized (extra ++ g.extra))
    else if page = .inspect then .inspect graph
    else .generate ⟨graph, g.output, g.policy, g.strict⟩

/-- Finds the command, the first operand; what follows it is left to the command. -/
def find (extra : List String) : List String → Request
  | [] => if extra = [] then .overview else .refused .main (.unrecognized extra)
  | a :: as =>
    if a = "--" then
      if as = [] then .refused .main (.unrecognized (extra ++ [a])) else badCommand a
    else
      match classify .main a with
      | .error e => .refused .main e
      | .ok (.operand _) =>
        if a = "generate" then ofCommand extra .generate as
        else if a = "inspect" then ofCommand extra .inspect as
        else badCommand a
      | .ok (.option f short attached) =>
        match Bundle.ofOption .main f short attached with
        | .error e => .refused .main e
        | .ok _ => .help .main
      | .ok _ => find (extra ++ [a]) as

def ofArguments (arguments : List String) : Request := find [] arguments

end Request
end GraphSchema.CommandLine
