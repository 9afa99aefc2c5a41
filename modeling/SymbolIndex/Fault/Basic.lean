import SymbolIndex.Fault.Io

/-!
# Faults

- `Fault` : why a command or an operation fails
- `Fault.message` : the wording
- `Fault.code` : the exit status
-/

namespace SymbolIndex

/-- Why a command or an operation fails. -/
inductive Fault where
  | invalidArguments (message : String)
  | badRequest (message : String)
  | fileNotFound (path : String)
  | io (path : String) (cause : IoFault)
  | parser (message : String)
  | treeTooDeep (maxDepth : Nat)
  | config (message : String)
  | internal (message : String)
  deriving DecidableEq, Repr

namespace Fault

def missingFilenamesMessage : String :=
  "bad request: expected '\x7b \"filenames\": [LIST OF FILES TO PARSE] \x7d', " ++
    "but filenames list was not present"

def missingFilenames : Fault :=
  .badRequest missingFilenamesMessage

def ofIo (path : String) (cause : IoFault) : Fault :=
  if cause.isNotFound then .fileNotFound path else .io path cause

def message : Fault → String
  | .invalidArguments message => "invalid arguments: " ++ message
  | .badRequest message => message
  | .fileNotFound path => "file not found: " ++ path
  | .io path cause => "reading " ++ path ++ ": " ++ cause.message
  | .parser message => "parser error: " ++ message
  | .treeTooDeep maxDepth => "tree nesting exceeds maximum depth of " ++ toString maxDepth
  | .config message => "config error: " ++ message
  | .internal message => "internal error: " ++ message

/-- The exit status: 2 for what the caller got wrong, 3 for files, 4 for the parser, 10 for the
rest. -/
def code : Fault → Nat
  | .invalidArguments _ | .badRequest _ | .config _ => 2
  | .fileNotFound _ | .io _ _ => 3
  | .parser _ => 4
  | .treeTooDeep _ | .internal _ => 10

end Fault
end SymbolIndex
