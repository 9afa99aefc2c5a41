import SymbolIndex.Index.Basic
import SymbolIndex.Parser.Basic
import SymbolIndex.Record.Message

/-!
# Batches of files

The failure of one file is part of its summary and leaves the others untouched.

- `indexSource`, `indexFile` : the summary of a source text and of a file
- `Pool` : the workers that index the files of a batch
- `indexInTurn`, `indexPooled`, `indexFiles` : the summaries of files, in turn or by several workers
- `answer` : the response to a request
- `answerText` : the response to a request in the form of text
-/

namespace SymbolIndex

def indexSource (parser : Parser) (options : Options) (filename source : String) (w : World) :
    Summary × World :=
  match parser source w with
  | (.error f, w) => (.failed filename f.message, w)
  | (.ok tree, w) =>
    match index options filename tree with
    | .ok summary => (summary, w)
    | .error f => (.failed filename f.message, w)

def indexFile (parser : Parser) (options : Options) (path : String) (w : World) : Summary × World :=
  match w.readText path with
  | (.ok source, w) => indexSource parser options path source w
  | (.error f, w) => (.failed path (Fault.ofIo path f).message, w)

def indexInTurn (parser : Parser) (options : Options) : List String → World → List Summary × World
  | [], w => ([], w)
  | path :: paths, w =>
    let (summary, w) := indexFile parser options path w
    let (summaries, w) := indexInTurn parser options paths w
    (summary :: summaries, w)

/-- Workers that index files at the same time. -/
structure Pool where
  /-- How many there are; zero stands for as many as the host likes. -/
  jobs : Nat
  /-- The order in which they take numbered files up. -/
  order : List (String × Nat) → List (String × Nat)
  order_perm : ∀ files, (order files).Perm files

def Host.pool (host : Host) (jobs : Nat) : Pool :=
  ⟨jobs, host.order, host.order_perm⟩

/-- What belongs to the numbers below `count`, in order. -/
def inOrder {α : Type} (count : Nat) (numbered : List (Nat × α)) : List α :=
  (List.range count).filterMap fun i => (numbered.find? (·.1 == i)).map Prod.snd

/-- The summaries of files that workers take up in an order of their own. -/
def indexPooled (parser : Parser) (options : Options) (pool : Pool) (paths : List String)
    (w : World) : List Summary × World :=
  let taken := pool.order paths.zipIdx
  let (summaries, w) := indexInTurn parser options (taken.map Prod.fst) w
  (inOrder paths.length ((taken.map Prod.snd).zip summaries), w)

/-- The summaries of files. Several workers are used for several files only. -/
def indexFiles (parser : Parser) (options : Options) (pool : Pool) (paths : List String)
    (w : World) : List Summary × World :=
  if paths.length ≤ 1 || pool.jobs == 1 then indexInTurn parser options paths w
  else indexPooled parser options pool paths w

/-- The options for a request, which may ask for trees. -/
def Options.forRequest (options : Options) (r : Request) : Options :=
  { options with wantParseTree := options.wantParseTree || r.wantParseTree }

def answer (parser : Parser) (options : Options) (pool : Pool) (r : Request) (w : World) :
    Response × World :=
  let (files, w) := indexFiles parser (options.forRequest r) pool r.filenames w
  ({ files, elapsedMillis := 0 }, w)

def answerText (parser : Parser) (options : Options) (pool : Pool) (body : String) (w : World) :
    Except Fault Response × World :=
  match Request.ofText body with
  | .error f => (.error f, w)
  | .ok r =>
    let (response, w) := answer parser options pool r w
    (.ok response, w)

end SymbolIndex
