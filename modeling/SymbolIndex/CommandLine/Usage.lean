import SymbolIndex.Settings.Layers

/-!
# Command lines

- `CommandLine.Opt` : an option
- `CommandLine.scan` : the options and words of a list of arguments
- `CommandLine.Task` : what is to be done
- `CommandLine.parse` : the task that a command line asks for
-/

namespace SymbolIndex
namespace CommandLine

/-! ## Options -/

inductive Role where
  | flag
  /-- The option takes a value, which must be acceptable. -/
  | value (accepts : String → Bool)
  | help
  | version

structure Opt where
  long : String
  short : Option Char
  role : Role

/-- Any value that is not empty, such as a path. -/
def isGiven (v : String) : Bool :=
  v ≠ ""

def isNumber (v : String) : Bool :=
  (setting? v).isSome

def helpOption : Opt :=
  ⟨"help", some 'h', .help⟩

def versionOption : Opt :=
  ⟨"version", some 'V', .version⟩

/-- The options that may stand before or after the name of a task. -/
def globalOptions : List Opt :=
  [ ⟨"config", none, .value isGiven⟩,
    ⟨"parser", none, .value ["tree", "command"].contains⟩,
    ⟨"parser-command", none, .value fun _ => true⟩,
    ⟨"log-level", none, .value ["trace", "debug", "info", "warn", "error"].contains⟩,
    ⟨"log-format", none, .value ["text", "json"].contains⟩ ]

def jobsOption : Opt :=
  ⟨"jobs", some 'j', .value isNumber⟩

def prettyOption : Opt :=
  ⟨"pretty", none, .flag⟩

/-! ## Arguments -/

/-- Why the arguments are not followed to their end. -/
inductive Stop where
  | usage
  | help
  | version
  deriving DecidableEq, Repr

/-- What kind of argument it is. -/
inductive Argument where
  /-- Everything that follows is a word. -/
  | dashes
  | word
  | long (name : String) (attached : Option String)
  | short (name : Char) (attached : Option String)

/-- Classifies an argument. A lone dash is a word. -/
def classify (arg : String) : Argument :=
  match arg.toList with
  | ['-', '-'] => .dashes
  | '-' :: '-' :: cs =>
    let name := cs.takeWhile (· ≠ '=')
    match cs.drop name.length with
    | [] => .long (String.ofList name) none
    | _ :: value => .long (String.ofList name) (some (String.ofList value))
  | ['-', c] => .short c none
  | '-' :: c :: '=' :: value => .short c (some (String.ofList value))
  | '-' :: c :: value => .short c (some (String.ofList value))
  | _ => .word

/-- Whether an argument can be the value of the option before it. -/
def isValue (arg : String) : Bool :=
  match arg.toList with
  | ['-'] => true
  | '-' :: _ => false
  | _ => true

/-- The options with their values, and the words. -/
structure Found where
  options : List (String × String) := []
  words : List String := []

namespace Found

def get? (f : Found) (name : String) : Option String :=
  Assoc.find? name f.options

def has (f : Found) (name : String) : Bool :=
  (f.get? name).isSome

def number? (f : Found) (name : String) : Option Nat :=
  (f.get? name).bind setting?

/-- Sets an option, which must not have been set. -/
def set (f : Found) (name value : String) : Except Stop Found :=
  if f.has name then .error .usage else .ok { f with options := (name, value) :: f.options }

end Found

/-- Which arguments are taken. -/
structure Form where
  options : List Opt
  /-- How many words are taken; none if any number. -/
  maxWords : Option Nat
  acceptsWord : String → Bool
  /-- Whether the first word ends what is taken. -/
  stopsAtWord : Bool

namespace Form

def option? (form : Form) : Argument → Option Opt
  | .long name _ => form.options.find? (·.long = name)
  | .short name _ => form.options.find? (·.short = some name)
  | _ => none

def addWord (form : Form) (f : Found) (word : String) : Except Stop Found :=
  let fits : Bool :=
    match form.maxWords with
    | none => true
    | some n => f.words.length < n
  if fits && form.acceptsWord word then .ok { f with words := f.words ++ [word] } else .error .usage

end Form

def Argument.attached? : Argument → Option String
  | .long _ value => value
  | .short _ value => value
  | _ => none

/-- Where an option without a value stops. A long option must stand alone, a short one is followed
at once. -/
def Argument.stop (s : Stop) : Argument → Stop
  | .long _ (some _) => .usage
  | _ => s

/-- Takes arguments from the left. Returns what was found and the arguments that are left. -/
def scan (form : Form) : List String → Found → Except Stop (Found × List String)
  | [], f => .ok (f, [])
  | arg :: rest, f =>
    match classify arg with
    | .dashes =>
      -- before the name of a task no words are taken
      if form.stopsAtWord then .error .usage
      else (rest.foldlM form.addWord f).map fun f => (f, [])
    | .word =>
      if form.stopsAtWord then .ok (f, arg :: rest)
      else
        match form.addWord f arg with
        | .error s => .error s
        | .ok f => scan form rest f
    | a =>
      match form.option? a, a.attached? with
      | none, _ => .error .usage
      | some ⟨_, _, .help⟩, _ => .error (a.stop .help)
      | some ⟨_, _, .version⟩, _ => .error (a.stop .version)
      | some ⟨_, _, .flag⟩, some _ => .error .usage
      | some ⟨name, _, .flag⟩, none =>
        match f.set name "" with
        | .error s => .error s
        | .ok f => scan form rest f
      | some ⟨name, _, .value accepts⟩, some v =>
        match if accepts v then f.set name v else .error .usage with
        | .error s => .error s
        | .ok f => scan form rest f
      | some ⟨name, _, .value accepts⟩, none =>
        match rest with
        | [] => .error .usage
        | v :: rest =>
          match if isValue v && accepts v then f.set name v else .error .usage with
          | .error s => .error s
          | .ok f => scan form rest f

/-! ## Tasks -/

inductive Task where
  | index (paths : List String) (output : Option String) (pretty : Bool)
  /-- The request is read from a file, or from the input if the path is a dash. -/
  | request (path : String) (pretty : Bool)
  | serve
  deriving DecidableEq, Repr

/-- A task with what the command line sets. -/
structure Invocation where
  task : Task
  config : Option String
  overrides : Overrides

/-- The arguments before the name of the task. -/
def rootForm : Form :=
  ⟨helpOption :: versionOption :: globalOptions, some 0, fun _ => false, true⟩

/-- The arguments after the name of a task. -/
def taskForm? (name : String) : Option Form :=
  match name with
  | "index" =>
    some ⟨[helpOption, ⟨"output", some 'o', .value isGiven⟩, ⟨"tree", none, .flag⟩, jobsOption,
      prettyOption] ++ globalOptions, none, isGiven, false⟩
  | "request" =>
    some ⟨[helpOption, jobsOption, prettyOption] ++ globalOptions, some 1, fun _ => true, false⟩
  | "serve" => some ⟨[helpOption, jobsOption] ++ globalOptions, some 0, fun _ => true, false⟩
  | _ => none

def task (name : String) (f : Found) : Task :=
  match name with
  | "index" => .index f.words (f.get? "output") (f.has "pretty")
  | "request" => .request (f.words.headD "-") (f.has "pretty")
  | _ => .serve

/-- The task that was asked for. An option after the name of the task wins over the same option
before it. -/
def invocation (name : String) (before after : Found) : Invocation :=
  let get? (key : String) : Option String := (after.get? key).or (before.get? key)
  { task := task name after
    config := get? "config"
    overrides :=
      { parserKind := (get? "parser").bind ParserKind.ofWord?
        parserCommand := (get? "parser-command").map Text.words
        jobs := after.number? "jobs"
        wantParseTree := if after.has "tree" then some true else none } }

/-- What help is asked for: in general, or about a task. -/
def help (topics : List String) : Stop :=
  match topics with
  | [] => .help
  | [name] => if name = "help" || (taskForm? name).isSome then .help else .usage
  | _ => .usage

def parse (args : List String) : Except Stop Invocation :=
  match scan rootForm args {} with
  | .error s => .error s
  | .ok (_, []) => .error .usage
  | .ok (before, name :: rest) =>
    if name = "help" then .error (help rest)
    else
      match taskForm? name with
      | none => .error .usage
      | some form =>
        match scan form rest {} with
        | .error s => .error s
        | .ok (after, _) => .ok (invocation name before after)

end CommandLine
end SymbolIndex
