import SymbolIndex.Digest.Sha256
import SymbolIndex.Shell.Condition
import SymbolIndex.Shell.Format
import SymbolIndex.Shell.Tool.Basic

/-!
# Programs that write texts

- `Shell.echo`, `Shell.printfTool` : arguments as they are, or as a format says
- `Shell.seq` : numbers in a row
- `Shell.basename`, `Shell.dirname`, `Shell.pwd` : parts of paths
- `Shell.printenv` : values of variables
- `Shell.yes` : a line without end
- `Shell.sha256sum` : digests of files
-/

namespace SymbolIndex
namespace Shell

/-! ## Arguments -/

/-- The character of hexadecimal digits, at most two of them, and the rest; nothing without a
digit. -/
def hexEscape? (cs : List Char) : Option (Char × List Char) :=
  let digits := (cs.take 2).takeWhile (isDigitOf 16)
  if digits.isEmpty then none
  else some (Char.ofNat (digitsValue 16 digits), cs.drop digits.length)

/-- Escapes as the program `echo` knows them, and whether output ends at once. -/
def echoUnescape : Nat → List Char → List Char × Bool
  | 0, _ => ([], false)
  | _, [] => ([], false)
  | fuel + 1, '\\' :: rest =>
    match rest with
    | 'c' :: _ => ([], true)
    | 'x' :: after =>
      let (c, after) := (hexEscape? after).getD ('\\', rest)
      let (cs, stops) := echoUnescape fuel after
      (c :: cs, stops)
    | _ =>
      let (c, after) : Char × List Char :=
        match rest with
        | '0' :: digits => octal 3 digits
        | _ => escape? rest
      let (cs, stops) := echoUnescape fuel after
      (c :: cs, stops)
  | fuel + 1, c :: rest =>
    let (cs, stops) := echoUnescape fuel rest
    (c :: cs, stops)

/-- Whether an argument consists of options of the program `echo`. -/
def isEchoOption (a : String) : Bool :=
  match a.toList with
  | '-' :: c :: cs => (c :: cs).all fun c => c == 'n' || c == 'e' || c == 'E'
  | _ => false

def echo (name : String) (args : List String) : Act Nat := do
  match args with
  | ["--help"] => writeOutText name ("Usage: " ++ name ++ " [SHORT-OPTION]... [STRING]...\n")
  | ["--version"] => writeOutText name (baseName name ++ " (GNU coreutils) 9.1\n")
  | _ =>
    let options := (String.join (args.takeWhile isEchoOption)).toList
    let cs := (" ".intercalate (args.dropWhile isEchoOption)).toList
    let replaces := (options.reverse.find? fun c => c == 'e' || c == 'E') == some 'e'
    let (cs, stops) := if replaces then echoUnescape (cs.length + 1) cs else (cs, false)
    writeOutText name (String.ofList (if stops || options.contains 'n' then cs else cs ++ ['\n']))

/-- The character with a number of so many hexadecimal digits behind a letter, and the rest. Those
with signs of their own are not written so. -/
def wideEscape (letter : Char) (size : Nat) (cs : List Char) :
    Except String (Option (List Char) × List Char) :=
  let digits := cs.take size
  let n := digitsValue 16 digits
  if digits.length < size || !digits.all (isDigitOf 16) then
    .error "missing hexadecimal number in escape"
  else if (n ≤ 0x9F && n ≠ 0x24 && n ≠ 0x40 && n ≠ 0x60) || (0xD800 ≤ n && n ≤ 0xDFFF) then
    .error
      ("invalid universal character name \\" ++ String.ofList (letter :: digits.map Char.toLower))
  else
    let text := if n ≤ 0x10FFFF then Octets.ofText (String.ofList [Char.ofNat n]) else ""
    .ok (some text.toList, cs.drop size)

/-- Escapes of formats that only the program `printf` knows. -/
def formatEscape? (cs : List Char) : Option (Except String (Option (List Char) × List Char)) :=
  match cs with
  | 'c' :: rest => some (.ok (none, rest))
  | '"' :: rest => some (.ok (some ['"'], rest))
  | 'x' :: rest =>
    match hexEscape? rest with
    | some (c, rest) => some (.ok (some [c], rest))
    | none => some (.error "missing hexadecimal number in escape")
  | 'u' :: rest => some (wideEscape 'u' 4 rest)
  | 'U' :: rest => some (wideEscape 'U' 8 rest)
  | _ => none

/-- Whether the program `printf` has no directive with a letter after these characters. -/
def barsDirective (front : List Char) (letter : Char) : Bool :=
  let flags := front.takeWhile fun c => "#-+ 0'I".toList.contains c
  let none (flag : Char) (letters : String) : Bool :=
    flags.contains flag && letters.toList.contains letter
  if letter == 'b' || letter == 'q' then !front.isEmpty
  else none '\'' "aAceEosxX" || none '#' "cdisu" || none '0' "cs" ||
    (front.contains '.' && letter == 'c')

/-- The number of the character at the front, and what is said if something follows it. -/
def leadingCharacter (cs : List Char) : Nat × Option String :=
  match shownParts (cs.length + 1) cs with
  | [] => (0, none)
  | (part, _) :: _ =>
    let n := ((Utf8.decode? (part.map Octets.toByte)).bind fun s => s.toList.head?).map Char.toNat
    let rest := cs.drop part.length
    (n.getD ((part.head?.map Char.toNat).getD 0),
      if rest.isEmpty then none
      else some ("warning: " ++ String.ofList rest ++
        ": character(s) following character constant have been ignored"))

/-- The format as the program `printf` reads it. -/
def Dialect.program (name : String) : Dialect :=
  { complain := fun message => do
      let _ ← flush
      toolSays name message
    refuse := fun message => do
      let _ ← flush
      toolSays name message
      throw .fault
    notNumber := "expected a numeric value"
    notWhole := "value not completely converted"
    shown := quoteText
    sizes := "lLhjtz".toList
    noDirective := "invalid conversion specification"
    noLetter := none
    escape? := formatEscape?
    flags := "#-+ 0'I".toList
    bars := barsDirective
    quote? := some quoteName
    precision := .extended
    character := leadingCharacter
    needsCharacter := true }

def printfTool (name : String) (args : List String) : Act Nat := do
  match args with
  | ["--help"] => writeOutText name ("Usage: " ++ name ++ " FORMAT [ARGUMENT]...\n")
  | ["--version"] => writeOutText name (baseName name ++ " (GNU coreutils) 9.1\n")
  | _ =>
    match (if args.head? == some "--" then args.tail else args) with
    | [] => misuse name "missing operand" 1
    | format :: args =>
      let outcome ← attempt
        ((passes format.toList (args.length + 1)).run { dialect := .program name, args })
      let text := String.join (← asks Process.said).reverse
      change fun q => { q with said := [] }
      let written ← writeOutText name text
      match outcome with
      | .ok (_, s) =>
        if let extra :: _ := s.args then
          if s.args.length = args.length then
            toolSays name ("warning: ignoring excess arguments, starting with " ++ quoteText extra)
        return if s.failed then 1 else written
      | .error .fault => return 1
      | .error e => throw e

def testTool (name : String) (args : List String) : Act Nat := do
  match ← attempt (test (baseName name) args) with
  | .ok status => return status
  | .error .fault => return 2
  | .error e => throw e

/-! ## Numbers -/

/-- A number with decimals: its value without the point, and how many decimals it has. -/
def decimal? (s : String) : Option (Int × Nat) :=
  let (negative, cs) : Bool × List Char :=
    match s.toList with
    | '-' :: rest => (true, rest)
    | '+' :: rest => (false, rest)
    | cs => (false, cs)
  let whole := cs.takeWhile Char.isDigit
  let decimals : Option (List Char) :=
    match cs.drop whole.length with
    | [] => some []
    | '.' :: rest => if rest.all Char.isDigit then some rest else none
    | _ => none
  match decimals with
  | none => none
  | some ds =>
    if whole.isEmpty && ds.isEmpty then none
    else
      let n : Int := digitsValue 10 (whole ++ ds)
      some (if negative then -n else n, ds.length)

def decimalText (places : Nat) (n : Int) : List Char :=
  let digits := Nat.toDigits 10 n.natAbs
  let digits := List.replicate (places + 1 - digits.length) '0' ++ digits
  let whole := digits.take (digits.length - places)
  let decimals := digits.drop (digits.length - places)
  (if n < 0 then ['-'] else []) ++ whole ++ (if places = 0 then [] else '.' :: decimals)

/-- Numbers in steps up to a last one, as texts with something between them. -/
structure Row where
  step : Int
  last : Int
  between : String
  text : Int → String

namespace Row

def ends (r : Row) (n : Int) : Bool :=
  if 0 < r.step then r.last < n else n < r.last

def numbers (r : Row) : Nat → Int → List Int
  | 0, _ => []
  | most + 1, n => if r.ends n then [] else n :: r.numbers most (n + r.step)

/-- Writes the numbers from one on, some at a time. -/
def write (r : Row) (name : String) : Nat → Int → Act Nat
  | 0, _ => expire
  | fuel + 1, n => do
    let ns := r.numbers 800 n
    let next := n + r.step * ns.length
    let text := r.between.intercalate (ns.map r.text) ++ (if r.ends next then "\n" else r.between)
    spend (16 * ns.length)
    if !(← writeOut name (Octets.toBytes text)) then return 1
    if r.ends next then return 0 else r.write name fuel next

end Row

def zeroFilled (width : Nat) (cs : List Char) : List Char :=
  let zeros := List.replicate (width - cs.length) '0'
  match cs with
  | '-' :: rest => '-' :: (zeros ++ rest)
  | cs => zeros ++ cs

def seq (name : String) (args : List String) : Act Nat := do
  -- what looks like a negative number is no option
  let isNumber (a : String) : Bool :=
    match a.toList with
    | '-' :: c :: _ => c.isDigit || c == '.'
    | _ => false
  let front := args.takeWhile fun a => !isNumber a
  let args := if args.contains "--" then args else front ++ "--" :: args.drop front.length
  let flags : List Flag := [⟨'s', "separator", .value⟩, ⟨'w', "equal-width", .nothing⟩]
  withLeadingOptions name flags args 1 fun p => do
    let operands := p.operands.filter (· ≠ "--")
    if operands.isEmpty then return ← misuse name "missing operand" 1
    if let some extra := operands[3]? then
      return ← misuse name ("extra operand " ++ quoteText extra) 1
    match operands.find? fun o => (decimal? o).isNone with
    | some bad => misuse name ("invalid floating point argument: " ++ quoteText bad) 1
    | none =>
      let (first, step, last) : String × String × String :=
        match operands with
        | [a, b] => (a, "1", b)
        | [a, b, c] => (a, b, c)
        | operands => ("1", "1", operands.headD "1")
      let number (s : String) : Int × Nat := (decimal? s).getD (0, 0)
      let scale := max (number first).2 (max (number step).2 (number last).2)
      let scaled (s : String) : Int := (number s).1 * (Nat.pow 10 (scale - (number s).2) : Nat)
      let places := max (number first).2 (number step).2
      if scaled step = 0 then
        return ← misuse name ("invalid Zero increment value: " ++ quoteText step) 1
      let unscaled (n : Int) : Int := n / (Nat.pow 10 (scale - places) : Nat)
      let plain (n : Int) : List Char := decimalText places (unscaled n)
      let width := if p.has 'w' then max (plain (scaled first)).length (plain (scaled last)).length
        else 0
      let row : Row :=
        { step := scaled step, last := scaled last, between := (p.value? 's').getD "\n"
          text := fun n => String.ofList (zeroFilled width (plain n)) }
      if row.ends (scaled first) then return 0
      row.write name ((← asksSystem System.work) + 1) (scaled first)

/-! ## Paths -/

/-- A path without slashes at its end. Of slashes alone one is left. -/
def withoutSlashes (cs : List Char) : List Char :=
  let rest := (cs.reverse.dropWhile (· == '/')).reverse
  if rest.isEmpty then cs.take 1 else rest

def lastName (path : String) : String :=
  let cs := withoutSlashes path.toList
  if cs == ['/'] then "/" else baseName (String.ofList cs)

def directoryName (path : String) : String :=
  let cs := withoutSlashes path.toList
  let above := (cs.reverse.dropWhile (· != '/')).reverse
  if above.isEmpty then "." else String.ofList (withoutSlashes above)

/-- A name without an ending, unless that is all of it. -/
def withoutEnding (ending name : String) : String :=
  if ending ≠ name && ending.toList.isSuffixOf name.toList then
    String.ofList (name.toList.take (name.length - ending.length))
  else name

def basename (name : String) (args : List String) : Act Nat := do
  let flags : List Flag :=
    [⟨'a', "multiple", .nothing⟩, ⟨'s', "suffix", .value⟩, ⟨'z', "zero", .nothing⟩]
  withLeadingOptions name flags args 1 fun p => do
    let ends := if p.has 'z' then "\x00" else "\n"
    if p.operands.isEmpty then return ← misuse name "missing operand" 1
    if p.has 'a' || p.has 's' then
      let ending := (p.value? 's').getD ""
      return ← writeOutText name
        (String.join (p.operands.map fun o => withoutEnding ending (lastName o) ++ ends))
    if let some extra := p.operands[2]? then
      return ← misuse name ("extra operand " ++ quoteText extra) 1
    writeOutText name
      (withoutEnding ((p.operands[1]?).getD "") (lastName (p.operands.headD "")) ++ ends)

def dirname (name : String) (args : List String) : Act Nat :=
  withLeadingOptions name [⟨'z', "zero", .nothing⟩] args 1 fun p => do
    if p.operands.isEmpty then return ← misuse name "missing operand" 1
    let ends := if p.has 'z' then "\x00" else "\n"
    writeOutText name (String.join (p.operands.map fun o => directoryName o ++ ends))

def pwd (name : String) (args : List String) : Act Nat :=
  withOptions name [⟨'L', "logical", .nothing⟩, ⟨'P', "physical", .nothing⟩] args 1 fun p => do
    if !p.operands.isEmpty then toolSays name "ignoring non-option arguments"
    let place ← asks (·.place)
    writeOutText name (placeText place ++ "\n")

/-! ## Variables -/

def printenv (name : String) (args : List String) : Act Nat :=
  withLeadingOptions name [⟨'0', "null", .nothing⟩] args 2 fun p => do
    let ends := if p.has '0' then "\x00" else "\n"
    let environment ← asks (·.environment)
    let set := environment.filterMap fun (n, v) =>
      if v.exported then v.value.map fun value => (n, value) else none
    if p.operands.isEmpty then
      return ← writeOutStatus name
        (String.join (set.map fun (n, value) => n ++ "=" ++ value ++ ends)) 2
    let found := p.operands.filterMap fun o => (set.find? (·.1 == o)).map Prod.snd
    let written ← writeOutStatus name (String.join (found.map (· ++ ends))) 2
    return if found.length = p.operands.length then written else 1

/-! ## Lines without end -/

def repeatedly (name text : String) : Nat → Act Nat
  | 0 => expire
  | fuel + 1 => do
    if ← writeOutAs name "standard output" (Octets.toBytes text) then repeatedly name text fuel
    else return 1

def yes (name : String) (args : List String) : Act Nat :=
  withLeadingOptions name [] args 1 fun p => do
    let line := if p.operands.isEmpty then "y\n" else " ".intercalate p.operands ++ "\n"
    repeatedly name (String.join (List.replicate (4096 / line.length + 1) line))
      ((← asksSystem System.work) + 1)

/-! ## Digests -/

def sha256sum (name : String) (args : List String) : Act Nat :=
  withOptions name [⟨'b', "binary", .nothing⟩, ⟨'t', "text", .nothing⟩] args 1 fun p =>
    forOperands (orInput p.operands) fun o => do
      match ← operandBytes o with
      | .ok bytes =>
        let digest := Hex.encode (Sha256.hash bytes)
        let line := digest ++ (if p.has 'b' then " *" else "  ") ++ o ++ "\n"
        return if ← writeOutVaguely name true (Octets.toBytes line) then 0 else 1
      | .error t =>
        toolSays name (quoteName o ++ ": " ++ t.message)
        return 1

end Shell
end SymbolIndex
