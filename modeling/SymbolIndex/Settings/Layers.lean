import SymbolIndex.Fault.Basic
import SymbolIndex.Settings.OfToml
import SymbolIndex.Store.Basic
import SymbolIndex.Text.Blank
import SymbolIndex.Text.Quoted

/-!
# Layers of settings

Settings come from a file, then from variables, then from the command line; what comes later wins.

- `Settings.parse`, `Settings.load`, `Settings.loadOrDefault` : the file
- `Settings.applyVariables` : the variables
- `Overrides`, `Settings.override` : the command line
- `Settings.layered` : all three
-/

namespace SymbolIndex

/-! ## Numbers in text -/

/-- The largest number that can be set, `2 ^ 64 - 1`. -/
def maxSetting : Nat := 18446744073709551615

/-- The number that decimal digits spell; at least one is needed. -/
def decimal? (cs : List Char) : Option Nat :=
  if cs.isEmpty then none
  else cs.foldl (fun n c => n.bind fun n => (Toml.digit? c).map (10 * n + ·)) (some 0)

/-- The number that a text spells, with an optional plus sign. -/
def setting? (text : String) : Option Nat :=
  let digits :=
    match text.toList with
    | '+' :: cs => cs
    | cs => cs
  (decimal? digits).filter (· ≤ maxSetting)

namespace Settings

/-! ## File -/

def defaultFile : String := "scalaidx.toml"

def parse (text : String) : Except Fault Settings :=
  match ofText? text with
  | some s => .ok s
  | none => .error (.config "failed to parse config file: not a settings file")

def load (store : Store) (path : String) : Except Fault Settings :=
  match store.readText path with
  | .error f => .error (.config ("failed to read " ++ path ++ ": " ++ f.message))
  | .ok text => parse text

/-- The settings of the named file, or else of the usual file if there is one. -/
def loadOrDefault (store : Store) (explicit : Option String) : Except Fault Settings :=
  match explicit with
  | some path => load store path
  | none => if store.isFile defaultFile then load store defaultFile else .ok {}

/-! ## Variables -/

def commandVariable : String := "SCALAIDX_PARSER_COMMAND"

def jobsVariable : String := "SCALAIDX_JOBS"

def timeoutVariable : String := "SCALAIDX_PARSER_TIMEOUT"

/-- A parser command, unless it is blank. -/
def applyCommand (s : Settings) (value : String) : Settings :=
  match Text.words value with
  | [] => s
  | argv => { s with parser := { s.parser with command := argv, kind := .command } }

def afterCommand (s : Settings) (lookup : String → Option String) : Settings :=
  match lookup commandVariable with
  | some value => s.applyCommand value
  | none => s

/-- A number that a variable sets, if the variable is set and is not malformed. -/
def setNumber (s : Settings) (value? : Option String) (set : Settings → Nat → Settings)
    (refuse : String → Fault) : Settings × Option Fault :=
  match value? with
  | none => (s, none)
  | some value =>
    match setting? (Text.trim value) with
    | some n => (set s n, none)
    | none => (s, some (refuse value))

def jobsFault (value : String) : Fault :=
  .config (jobsVariable ++ " must be a number, got " ++ Text.quoted value)

def timeoutFault (value : String) : Fault :=
  .config (timeoutVariable ++ " must be a number of seconds, got " ++ Text.quoted value)

/-- The settings after the variables, and the fault of the first variable that is malformed. What
was set before it stays set. -/
def applyVariables (s : Settings) (lookup : String → Option String) : Settings × Option Fault :=
  match (s.afterCommand lookup).setNumber (lookup jobsVariable) (fun s n => { s with jobs := n })
      jobsFault with
  -- the variable for the time is not looked at
  | (s, some f) => (s, some f)
  | (s, none) =>
    s.setNumber (lookup timeoutVariable)
      (fun s n => { s with parser := { s.parser with timeoutSecs := n } }) timeoutFault

end Settings

/-! ## Command line -/

/-- What the command line sets. -/
structure Overrides where
  parserKind : Option ParserKind := none
  parserCommand : Option (List String) := none
  jobs : Option Nat := none
  wantParseTree : Option Bool := none
  deriving DecidableEq, Repr, Inhabited

namespace Settings

/-- The settings after the command line. A parser command implies that it is used, unless the kind
of parser is set too. -/
def override (s : Settings) (o : Overrides) : Settings :=
  { index := { s.index with wantParseTree := o.wantParseTree.getD s.index.wantParseTree }
    parser :=
      { s.parser with
        command := o.parserCommand.getD s.parser.command
        kind := o.parserKind.getD (if o.parserCommand.isSome then .command else s.parser.kind) }
    jobs := o.jobs.getD s.jobs }

def layered (store : Store) (explicit : Option String) (lookup : String → Option String)
    (o : Overrides) : Except Fault Settings :=
  match loadOrDefault store explicit with
  | .error f => .error f
  | .ok s =>
    match s.applyVariables lookup with
    | (_, some f) => .error f
    | (s, none) => .ok (s.override o)

end Settings
end SymbolIndex
