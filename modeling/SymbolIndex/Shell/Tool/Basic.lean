import SymbolIndex.Shell.Arithmetic
import SymbolIndex.Shell.System

/-!
# Programs of the system

- `Shell.quoteName`, `Shell.quoteAlways`, `Shell.quoteText` : names and texts in messages
- `Shell.Flag` : the options that a program knows
- `Shell.Flag.parse` : the options and other arguments of a program
- `Shell.toolSays`, `Shell.misuse`, `Shell.writeOut` : what programs write
-/

namespace SymbolIndex
namespace Shell

/-! ## Quoted names -/

def isShown (c : Char) : Bool :=
  0x20 ≤ c.toNat && c.toNat < 0x7F

/-- Whether a name needs quotes because of a character at a place. -/
def needsQuotes (size place : Nat) (c : Char) : Bool :=
  !isShown c || " !\"$&'()*;<=>?[\\^|:".toList.contains c || c.toNat == 0x60 ||
    (place == 0 && (c == '#' || c == '~')) || (size == 1 && (c == '\x7b' || c == '\x7d'))

def shownEscape (c : Char) : List Char :=
  match c with
  | '\x07' => ['\\', 'a']
  | '\x08' => ['\\', 'b']
  | '\t' => ['\\', 't']
  | '\n' => ['\\', 'n']
  | '\x0b' => ['\\', 'v']
  | '\x0c' => ['\\', 'f']
  | '\r' => ['\\', 'r']
  | c =>
    let digits := Nat.toDigits 8 c.toNat
    '\\' :: (List.replicate (3 - digits.length) '0' ++ digits)

/-- The octets of each character, and whether it can be shown. An octet that belongs to no character
stands for itself. -/
def shownParts : Nat → List Char → List (List Char × Bool)
  | 0, _ => []
  | _, [] => []
  | fuel + 1, c :: cs =>
    if c.toNat < 0x80 then ([c], isShown c) :: shownParts fuel cs
    else
      let size := ((Utf8.lead? (Octets.toByte c)).map fun l => l.more).getD 0
      let part := c :: cs.take size
      match (Utf8.decode? (part.map Octets.toByte)).map String.toList with
      | some [d] => (part, 0xA0 ≤ d.toNat) :: shownParts fuel (cs.drop size)
      | _ => ([c], false) :: shownParts fuel cs

/-- A name between quotes as the shell would have to be given it. -/
def quoteAlways (s : String) : String :=
  let cs := s.toList
  let parts := shownParts (cs.length + 1) cs
  let isPlain (c : Char) : Bool :=
    c != '"' && c != '$' && c != '\\' && c != '!' && c.toNat != 0x60 &&
    !(c != '\'' && needsQuotes 2 1 c && c != ' ')
  let isSafe (p : List Char × Bool) : Bool :=
    p.2 && (0x80 ≤ (p.1.headD ' ').toNat || p.1.all isPlain)
  if cs.contains '\'' && parts.all isSafe then
    "\"" ++ s ++ "\""
  else
    let runs := parts.splitBy fun a b => a.2 == b.2
    let body := runs.map fun run =>
      let cs := run.flatMap Prod.fst
      if (run.head?.map Prod.snd).getD true then
        cs.flatMap fun c => if c == '\'' then "'\\''".toList else [c]
      else "'$'".toList ++ cs.flatMap shownEscape ++ "''".toList
    let text := String.ofList ('\'' :: body.flatten)
    -- an escape at the end has closed the quotes already
    if (parts.getLast?.map Prod.snd).getD true then text ++ "'" else (text.dropEnd 1).toString

/-- A name, between quotes if the shell would have to be given them. -/
def quoteName (s : String) : String :=
  let cs := s.toList
  let parts := shownParts (cs.length + 1) cs
  let needs := (parts.zipIdx).any fun (p, n) =>
    !p.2 || ((p.1.headD ' ').toNat < 0x80 && needsQuotes parts.length n (p.1.headD ' '))
  if cs.isEmpty || needs then quoteAlways s else s

def quoteText (s : String) : String :=
  let cs := s.toList
  let opening := Octets.ofText "\u2018"
  let closing := Octets.ofText "\u2019"
  let body := (shownParts (cs.length + 1) cs).flatMap fun (part, shown) =>
    if !shown then part.flatMap shownEscape
    else if part == ['\\'] || String.ofList part == closing then '\\' :: part
    else part
  opening ++ String.ofList body ++ closing

/-! ## Options -/

inductive Taking where
  | nothing
  | value
  | perhaps
  deriving DecidableEq, Repr

/-- An option: its letter or another sign for it, its long name, and whether it takes a value. -/
structure Flag where
  sign : Char
  long : String := ""
  takes : Taking := .nothing
  deriving DecidableEq, Repr

/-- The signs for help and version, which have no letters. -/
def helpSign : Char := '\x01'

def versionSign : Char := '\x02'

def commonFlags : List Flag :=
  [⟨helpSign, "help", .nothing⟩, ⟨versionSign, "version", .nothing⟩]

/-- The options and arguments of a program, and what is wrong with them. -/
structure Parsed where
  options : List (Char × String) := []
  operands : List String := []
  fault : Option String := none

namespace Parsed

def has (p : Parsed) (c : Char) : Bool :=
  p.options.any (·.1 == c)

def value? (p : Parsed) (c : Char) : Option String :=
  ((p.options.filter (·.1 == c)).getLast?).map Prod.snd

end Parsed

namespace Flag

/-- The options of one cluster of letters, and the arguments that are left. -/
def parseCluster (flags : List Flag) :
    List Char → List String → List (Char × String) × List String × Option String
  | [], rest => ([], rest, none)
  | c :: cs, rest =>
    match flags.find? (·.sign == c) with
    | none => ([], rest, some ("invalid option -- '" ++ String.ofList [c] ++ "'"))
    | some f =>
      match f.takes with
      | .nothing =>
        let (more, rest, fault) := parseCluster flags cs rest
        ((c, "") :: more, rest, fault)
      | .perhaps => ([(c, String.ofList cs)], rest, none)
      | .value =>
        match cs, rest with
        | [], [] => ([], [], some ("option requires an argument -- '" ++ String.ofList [c] ++ "'"))
        | [], v :: rest => ([(c, v)], rest, none)
        | cs, rest => ([(c, String.ofList cs)], rest, none)

/-- The option with a long name, which may be cut short. -/
def parseLong (flags : List Flag) (text : String) (rest : List String) :
    List (Char × String) × List String × Option String :=
  let cs := text.toList
  let name := String.ofList (cs.takeWhile (· != '='))
  let value : Option String :=
    match cs.dropWhile (· != '=') with
    | _ :: v => some (String.ofList v)
    | [] => none
  let exact := flags.filter (·.long == name)
  let near := flags.filter fun f => f.long ≠ "" && name.isPrefixOf f.long
  let hits := if exact.isEmpty then near else exact
  let sameSign :=
    match hits with
    | [] => false
    | f :: fs => fs.all fun g => g.sign == f.sign && g.takes = f.takes
  match hits with
  | [] => ([], rest, some ("unrecognized option '--" ++ text ++ "'"))
  | f :: _ =>
    if !sameSign then
      let all := String.join (hits.map fun g => " '--" ++ g.long ++ "'")
      ([], rest, some ("option '--" ++ text ++ "' is ambiguous; possibilities:" ++ all))
    else
      match f.takes, value, rest with
      | .nothing, some _, _ =>
        ([], rest, some ("option '--" ++ f.long ++ "' doesn't allow an argument"))
      | .nothing, none, _ => ([(f.sign, "")], rest, none)
      | .perhaps, v, _ => ([(f.sign, v.getD "")], rest, none)
      | .value, some v, _ => ([(f.sign, v)], rest, none)
      | .value, none, v :: rest => ([(f.sign, v)], rest, none)
      | .value, none, [] => ([], [], some ("option '--" ++ f.long ++ "' requires an argument"))

/-- The options of arguments. They may stand behind other arguments, unless `ordered` is set. -/
def parseWith (flags : List Flag) (ordered : Bool) : Nat → List String → Parsed
  | 0, args => { operands := args }
  | _, [] => {}
  | fuel + 1, a :: rest =>
    let go (found : List (Char × String) × List String × Option String) : Parsed :=
      let (options, rest, fault) := found
      match fault with
      | some f => { options, fault := some f }
      | none =>
        let more := parseWith flags ordered fuel rest
        { more with options := options ++ more.options }
    match a.toList with
    | ['-', '-'] => { operands := rest }
    | '-' :: '-' :: cs => go (parseLong flags (String.ofList cs) rest)
    | '-' :: c :: cs => go (parseCluster flags (c :: cs) rest)
    | _ =>
      if ordered then { operands := a :: rest }
      else
        let more := parseWith flags ordered fuel rest
        { more with operands := a :: more.operands }

def parse (flags : List Flag) (args : List String) : Parsed :=
  parseWith (flags ++ commonFlags) false (args.length + 1) args

end Flag

/-! ## Output -/

def toolSays (name message : String) : Act Unit := do
  let _ ← writeText 2 (name ++ ": " ++ message ++ "\n")

def misuse (name message : String) (status : Nat) : Act Nat := do
  toolSays name message
  let _ ← writeText 2 ("Try '" ++ name ++ " --help' for more information.\n")
  return status

/-- Writes bytes, or says in these words why that is not possible. -/
def writeOutAs (name words : String) (bytes : List UInt8) : Act Bool := do
  match ← writeBytes 1 bytes with
  | .ok _ => return true
  | .error t =>
    toolSays name (words ++ ": " ++ t.message)
    return false

def writeOut (name : String) (bytes : List UInt8) : Act Bool :=
  writeOutAs name "write error" bytes

/-- How many bytes most programs collect before they write them. -/
def bufferSize : Nat := 4096

/-- Writes bytes, or says why that is not possible: in these words if there are too many to be
collected until the end. -/
def writeOutOr (name words : String) (bytes : List UInt8) : Act Bool :=
  writeOutAs name (if bytes.length < bufferSize then "write error" else words) bytes

/-- Writes bytes, or says that this is not possible: why is forgotten if they are written at once,
or too many to be collected until the end. -/
def writeOutVaguely (name : String) (direct : Bool) (bytes : List UInt8) : Act Bool := do
  match ← writeBytes 1 bytes with
  | .ok _ => return true
  | .error t =>
    let vague := t ≠ .badChannel && (direct || bufferSize ≤ bytes.length)
    toolSays name ("write error" ++ if vague then "" else ": " ++ t.message)
    return false

/-- Writes a text, or says why that is not possible, with a status of failure. -/
def writeOutStatus (name text : String) (failure : Nat) : Act Nat := do
  return if ← writeOut name (Octets.toBytes text) then 0 else failure

/-- Writes a text, or says why that is not possible. -/
def writeOutText (name text : String) : Act Nat :=
  writeOutStatus name text 1

def baseName (path : String) : String :=
  String.ofList ((path.toList.reverse.takeWhile (· != '/')).reverse)

/-- Runs a program unless its options are wrong or ask for help. -/
def withParsed (name : String) (p : Parsed) (faultStatus : Nat) (body : Parsed → Act Nat) :
    Act Nat := do
  if p.has helpSign then writeOutText name ("Usage: " ++ name ++ " [OPTION]...\n")
  else if p.has versionSign then writeOutText name (baseName name ++ " (GNU coreutils) 9.1\n")
  else
    match p.fault with
    | some f => misuse name f faultStatus
    | none => body p

def withOptions (name : String) (flags : List Flag) (args : List String) (faultStatus : Nat)
    (body : Parsed → Act Nat) : Act Nat :=
  withParsed name (Flag.parse flags args) faultStatus body

/-- Runs a program whose options stand in front of its operands. -/
def withLeadingOptions (name : String) (flags : List Flag) (args : List String) (faultStatus : Nat)
    (body : Parsed → Act Nat) : Act Nat :=
  withParsed name (Flag.parseWith (flags ++ commonFlags) true (args.length + 1) args)
    faultStatus body

/-! ## Operands -/

/-- Opens an operand and gives its channel. A dash stands for what is read. -/
def openOperand (operand : String) : Act (Except Trouble Nat) := do
  -- a channel that nothing else uses
  let spare := 1001
  if operand = "-" then return .ok 0
  match ← openPath operand .read with
  | .error t => return .error t
  | .ok id =>
    change (·.connect spare id)
    return .ok spare

def operandBytes (operand : String) : Act (Except Trouble (List UInt8)) := do
  match ← openOperand operand with
  | .error t => return .error t
  | .ok n => drain n

def orInput (operands : List String) : List String :=
  if operands.isEmpty then ["-"] else operands

/-- The bytes of operands together, or of what is read if there are none. Troubles are told. -/
def inputOf (name : String) (operands : List String) : Act (List UInt8 × Nat) :=
  (orInput operands).foldlM (fun (bytes, status) o => do
    match ← operandBytes o with
    | .ok more => return (bytes ++ more, status)
    | .error t =>
      toolSays name (quoteName o ++ ": " ++ t.message)
      return (bytes, 1)) ([], 0)

/-- Does something with each operand, and gives the largest status. -/
def forOperands (operands : List String) (act : String → Act Nat) : Act Nat :=
  operands.foldlM (fun status o => do return max status (← act o)) 0

/-! ## Lines -/

def linesOf (bytes : List UInt8) : List String :=
  let lines := (bytes.splitOn 0x0A).map Octets.ofBytes
  if lines.getLast? == some "" then lines.dropLast else lines

def joinLines (lines : List String) : String :=
  String.join (lines.map (· ++ "\n"))

end Shell
end SymbolIndex
