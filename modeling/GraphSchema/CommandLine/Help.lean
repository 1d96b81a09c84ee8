import GraphSchema.CommandLine.Arguments

/-! The usage and the help of the program and of its commands. -/
namespace GraphSchema.CommandLine.Page

def program : Page → String
  | main => "graph-designer"
  | generate => "graph-designer generate"
  | inspect => "graph-designer inspect"

def block (lines : List String) : String := String.join (lines.map (· ++ "\n"))

def usage : Page → String
  | main => block ["usage: graph-designer [-h] \x7bgenerate,inspect\x7d ..."]
  | generate => block [
    "usage: graph-designer generate [-h] [--output OUTPUT]",
    "                               [--collision-policy \x7bwarn,error,ignore\x7d]",
    "                               [--strict]",
    "                               graph"]
  | inspect => block ["usage: graph-designer inspect [-h] graph"]

def details : Page → String
  | main => block [
    "",
    "Graph Schema Designer - derive schema documents from graph models",
    "",
    "positional arguments:",
    "  \x7bgenerate,inspect\x7d  Available commands",
    "    generate          Generate a schema document",
    "    inspect           Show the names a graph generates",
    "",
    "options:",
    "  -h, --help          show this help message and exit"]
  | generate => block [
    "",
    "positional arguments:",
    "  graph                 Path to a JSON graph document",
    "",
    "options:",
    "  -h, --help            show this help message and exit",
    "  --output OUTPUT, -o OUTPUT",
    "                        Write the schema to this file instead of stdout",
    "  --collision-policy \x7bwarn,error,ignore\x7d",
    "                        Override the configured collision policy",
    "  --strict              Reject edges with missing endpoints while loading"]
  | inspect => block [
    "",
    "positional arguments:",
    "  graph       Path to a JSON graph document",
    "",
    "options:",
    "  -h, --help  show this help message and exit"]

def help (p : Page) : String := p.usage ++ p.details

/-- What is shown of a fault in the arguments. -/
def refusal (p : Page) (f : UsageFault) : String :=
  p.usage ++ p.program ++ ": error: " ++ f.message ++ "\n"

/-- What is shown when no command is given. -/
def overview : String :=
  main.help ++ block [
    "",
    "💡 Examples:",
    "  graph-designer generate graph.json --output schema.graphql",
    "  graph-designer inspect graph.json"]

end GraphSchema.CommandLine.Page
