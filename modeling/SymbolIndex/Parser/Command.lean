import SymbolIndex.Host
import SymbolIndex.Json.Reader
import SymbolIndex.Parser.Fault
import SymbolIndex.Text.Blank

/-!
# Parser commands

A command reads source text and writes a tree.

- `Command` : a program with arguments and the time it may take
- `Command.ofArgv` : the command that a list of words stands for
- `Command.tree` : the tree that the end of a command gives
- `Command.parse` : the tree that a command makes of a source
-/

namespace SymbolIndex

/-- A program with arguments and the time it may take. -/
structure Command where
  /-- The name under which the program was found. -/
  name : String
  path : String
  args : List String
  timeoutMillis : Nat

namespace Command

def ofArgv (host : Host) (store : Store) (argv : List String) (timeoutMillis : Nat) :
    Except ParserFault Command :=
  match argv with
  | [] => .error .emptyCommand
  | name :: args =>
    match host.find? store name with
    | none => .error (.notFound name)
    | some path => .ok ⟨name, path, args, timeoutMillis⟩

def programName (c : Command) : String :=
  (Path.fileName? c.path).getD c.name

def tree (c : Command) : Ending → Except ParserFault Json
  | .refused cause => .error (.spawn c.path cause)
  | .lost cause => .error (.io cause)
  | .expired => .error (.timeout c.timeoutMillis)
  | .ended (some 0) output _ =>
    match Json.read none output with
    | .ok tree => .ok tree
    | .error f => .error (.invalidOutput f)
  | .ended status _ errors => .error (.failed status (Text.trim (Utf8.decodeLossy errors)))

/-- The tree that the command makes of a source, and the files afterwards. -/
def parse (c : Command) (host : Host) (source : String) (store : Store) :
    Except ParserFault Json × Store :=
  let (ending, store) := host.run store c.path c.args (Utf8.encode source) c.timeoutMillis
  (c.tree ending, store)

end Command
end SymbolIndex
