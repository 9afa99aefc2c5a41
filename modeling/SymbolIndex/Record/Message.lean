import SymbolIndex.Fault.Basic
import SymbolIndex.Json.Printer
import SymbolIndex.Json.Reader
import SymbolIndex.Record.Summary

/-!
# Requests and responses

- `Request` : a list of files to index
- `Request.ofJson`, `Request.ofText` : a request out of a document
- `Response` : the answer to a request
- `Fault.toJson` : the answer when a command fails
- `emit` : the written form of an answer
-/

namespace SymbolIndex

/-- A list of files to index. -/
structure Request where
  filenames : List String
  /-- Whether the trees are wanted too. -/
  wantParseTree : Bool := false
  deriving DecidableEq, Repr, Inhabited

namespace Request

def maxNesting : Nat := 127

def toJson (r : Request) : Json :=
  .obj [("filenames", .strings r.filenames), ("wantParseTree", .bool r.wantParseTree)]

/-- The request that a document stands for. It must have a list of texts under `filenames`; whether
trees are wanted is false unless it is a truth value. -/
def ofJson (v : Json) : Except Fault Request :=
  match ((v.get? "filenames").bind Json.asArray?).bind fun xs => xs.mapM Json.asString? with
  | none => .error .missingFilenames
  | some filenames =>
    .ok ⟨filenames, ((v.get? "wantParseTree").bind Json.asBool?).getD false⟩

def ofText (text : String) : Except Fault Request :=
  match Json.readText (some maxNesting) text with
  | .error f => .error (.badRequest ("bad request: " ++ f.message))
  | .ok v => ofJson v

end Request

structure Response where
  files : List Summary
  elapsedMillis : Nat
  error : Option String := none
  deriving Inhabited

namespace Response

def failed (error : String) : Response :=
  { files := [], elapsedMillis := 0, error := some error }

def written (r : Response) : List (String × Json) :=
  [("files", .arr (r.files.map Summary.toJson)), ("elapsedMillis", .nat r.elapsedMillis)] ++
    Summary.optionalText "error" r.error

def toJson (r : Response) : Json :=
  .obj r.written

end Response

def Fault.toJson (f : Fault) : Json :=
  .obj [("status", .str "error"),
    ("error", .obj [("code", .nat f.code), ("message", .str f.message)])]

/-- How an answer is written: indented by two, or on one line; a line feed follows. -/
def emit (pretty : Bool) (v : Json) : String :=
  v.render (if pretty then .indented 2 else .oneLine) ++ "\n"

end SymbolIndex
