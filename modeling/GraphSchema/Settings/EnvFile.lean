import GraphSchema.Text.Blank
import GraphSchema.Text.Lines

/-! Files of variables: a name and a value on a line, quotes and comments, and values that refer to
earlier ones. A statement that does not fit is passed over, and the line where it begins is told. -/
namespace GraphSchema.EnvFile
open Text

/-- A variable with its text as it stands, before references in it are replaced; a name without a
value takes the variable away. -/
abbrev Binding := String × Option String

def isInlineBlank (c : Char) : Bool := isBlank c && c ≠ '\n' && c ≠ '\r'

def isInline (c : Char) : Bool := c ≠ '\n' && c ≠ '\r'

def skipInline (cs : List Char) : List Char := cs.dropWhile isInlineBlank

/-- What follows the end of the line; the line must hold nothing else but a comment. -/
def endLine (cs : List Char) : Option (List Char) :=
  let bare :=
    match skipInline cs with
    | '#' :: more => more.dropWhile isInline
    | _ => cs
  match skipInline bare with
  | [] => some []
  | '\n' :: rest => some rest
  | '\r' :: rest => some rest
  | _ => none

def skipLine (cs : List Char) : List Char := (cs.dropWhile isInline).drop 1

def skipExport (cs : List Char) : List Char :=
  match cs with
  | 'e' :: 'x' :: 'p' :: 'o' :: 'r' :: 't' :: c :: rest =>
    if isInlineBlank c then skipInline rest else cs
  | _ => cs

/-- The text up to the closing quote, and what follows the quote. A backslash keeps the character
behind it from closing. -/
def upToQuote (mark : Char) : List Char → Option (List Char × List Char)
  | [] => none
  | '\\' :: c :: cs => (upToQuote mark cs).map fun r => ('\\' :: c :: r.1, r.2)
  | c :: cs =>
    if c = mark then some ([], cs) else (upToQuote mark cs).map fun r => (c :: r.1, r.2)

/-- The character that a letter stands for after a backslash between quotes of a kind. -/
def unescape (mark : Char) (c : Char) : Option Char :=
  if c = '\\' || c = '\'' then some c
  else if mark = '\'' then none
  else
    match c with
    | '"' => some '"'
    | 'a' => some '\x07'
    | 'b' => some '\x08'
    | 'f' => some '\x0c'
    | 'n' => some '\n'
    | 'r' => some '\r'
    | 't' => some '\t'
    | 'v' => some '\x0b'
    | _ => none

def unescapeAll (mark : Char) : List Char → List Char
  | [] => []
  | '\\' :: c :: cs =>
    match unescape mark c with
    | some d => d :: unescapeAll mark cs
    | none => '\\' :: unescapeAll mark (c :: cs)
  | c :: cs => c :: unescapeAll mark cs

/-- Cuts a comment that stands behind a blank. -/
def dropComment : List Char → List Char
  | [] => []
  | c :: cs =>
    if isBlank c && (cs.dropWhile isBlank).head? = some '#' then [] else c :: dropComment cs

/-- A value without quotes; a hash sign at its front is part of it. -/
def readBare (cs : List Char) : List Char × List Char :=
  (trimRight isBlank (dropComment (cs.takeWhile isInline)), cs.dropWhile isInline)

/-- The value behind an equals sign, and what follows it. A hash sign behind a blank leaves the value
empty. -/
def readValue (cs : List Char) : Option (List Char × List Char) :=
  match skipInline cs with
  | '\'' :: rest => (upToQuote '\'' rest).map fun r => (unescapeAll '\'' r.1, r.2)
  | '"' :: rest => (upToQuote '"' rest).map fun r => (unescapeAll '"' r.1, r.2)
  | '#' :: rest => if cs.head? = some '#' then some (readBare cs) else some ([], '#' :: rest)
  | rest => some (readBare rest)

def isNameChar (c : Char) : Bool := c ≠ '=' && c ≠ '#' && !isBlank c

def readName (cs : List Char) : Option (List Char × List Char) :=
  match cs with
  | '\'' :: rest =>
    match rest.takeWhile (· ≠ '\''), rest.dropWhile (· ≠ '\'') with
    | c :: name, _ :: more => some (c :: name, more)
    | _, _ => none
  | _ =>
    match cs.takeWhile isNameChar with
    | [] => none
    | name => some (name, cs.dropWhile isNameChar)

inductive Statement where
  | binding (b : Binding)
  | comment
  | unreadable
  deriving DecidableEq, Repr

/-- The statement that ends here if the rest of the line is empty, and where to go on. -/
def finish (s : Statement) (cs : List Char) : Statement × List Char :=
  match endLine cs with
  | some next => (s, next)
  | none => (.unreadable, skipLine cs)

/-- What follows the name of a variable. -/
def readBinding (name : String) (cs : List Char) : Statement × List Char :=
  match skipInline cs with
  | '=' :: rest =>
    match readValue rest with
    | none => (.unreadable, skipLine rest)
    | some (value, rest) => finish (.binding (name, some (String.ofList value))) rest
  | rest => finish (.binding (name, none)) rest

/-- One statement from its first character that is no blank, and where to go on. -/
def readStatement (cs : List Char) : Statement × List Char :=
  match skipExport cs with
  | '#' :: rest => (.comment, skipLine rest)
  | cs =>
    match readName cs with
    | none => (.unreadable, skipLine cs)
    | some (name, rest) => readBinding (String.ofList name) rest

/-- The statements of a text, each with the text from where it begins, blanks in front of it
included. Each takes a character at least, so `count` may be the length. -/
def readStatements (count : Nat) (cs : List Char) : List (Statement × List Char) :=
  match count with
  | 0 => []
  | count + 1 =>
    match cs.dropWhile isBlank with
    | [] => []
    | first :: more =>
      let (statement, rest) := readStatement (first :: more)
      (statement, cs) :: readStatements count rest

/-- The line of a text, counted from one, at which the given rest of it begins. -/
def lineOf (text rest : List Char) : Nat := text.count '\n' - rest.count '\n' + 1

def Statement.binding? : Statement → Option Binding
  | .binding b => some b
  | _ => none

/-- A reference: the name up to a colon or the closing brace, perhaps a default, and what follows.
-/
def readReference (cs : List Char) : Option (String × String × List Char) :=
  let name := cs.takeWhile fun c => c ≠ '\x7d' && c ≠ ':'
  match cs.dropWhile fun c => c ≠ '\x7d' && c ≠ ':' with
  | '\x7d' :: rest => some (String.ofList name, "", rest)
  | ':' :: '-' :: rest =>
    match rest.dropWhile (· ≠ '\x7d') with
    | _ :: more =>
      some (String.ofList name, String.ofList (rest.takeWhile (· ≠ '\x7d')), more)
    | [] => none
  | _ => none

/-- Replaces references by what `find` gives for their names, or by their defaults. -/
def expand (find : String → Option String) (length : Nat) (cs : List Char) : List Char :=
  match length with
  | 0 => cs
  | length + 1 =>
    match cs with
    | [] => []
    | '$' :: '\x7b' :: rest =>
      match readReference rest with
      | some (name, default, more) =>
        ((find name).getD default).toList ++ expand find length more
      | none => '$' :: expand find length ('\x7b' :: rest)
    | c :: rest => c :: expand find length rest

def put (b : Binding) : List Binding → List Binding
  | [] => [b]
  | c :: bs => if c.1 = b.1 then b :: bs else c :: put b bs

/-- What a name stands for: a variable of the file if it is there, else one of the environment; a
variable taken away is empty. -/
def find (environment : List (String × String)) (bs : List Binding) (name : String) :
    Option String :=
  match bs.lookup name with
  | some v => some (v.getD "")
  | none => environment.lookup name

def resolve (environment : List (String × String)) (bs : List Binding) : List Binding :=
  bs.foldl (fun done b =>
    put (b.1, b.2.map fun v =>
      String.ofList (expand (find environment done) v.toList.length v.toList)) done) []

/-- What a file holds: its variables, and the lines at which statements begin that do not fit. -/
structure Contents where
  bindings : List Binding := []
  unreadable : List Nat := []
  deriving DecidableEq, Repr, Inhabited

/-- The variables of a file in the order of their names' first lines, with references replaced. A
byte order mark in front is left out. -/
def read (environment : List (String × String)) (text : List Char) : Contents :=
  let cs := unifyNewlines (if text.head? = some '\ufeff' then text.tail else text)
  let statements := readStatements cs.length cs
  { bindings := resolve environment (statements.filterMap (·.1.binding?))
    unreadable := (statements.filter (·.1 = .unreadable)).map fun s => lineOf cs s.2 }

/-- What is told of a statement that does not fit. -/
def complaint (line : Nat) : String :=
  "python-dotenv could not parse statement starting at line " ++ toString line ++ "\n"

end GraphSchema.EnvFile
