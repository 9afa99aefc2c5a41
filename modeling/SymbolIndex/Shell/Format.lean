import SymbolIndex.Shell.Real
import SymbolIndex.Shell.System

/-!
# Formatted output

- `Shell.escape?` : what a backslash and the characters after it stand for
- `Shell.echoText` : the arguments of `echo` as one text
- `Shell.Spec` : width, precision and flags of a directive
- `Shell.printf` : arguments written as a format says
-/

namespace SymbolIndex
namespace Shell

/-! ## Escapes -/

/-- The character that a letter after a backslash stands for. -/
def letterEscape? (c : Char) : Option Char :=
  match c with
  | 'a' => some '\x07'
  | 'b' => some '\x08'
  | 'e' => some '\x1b'
  | 'f' => some '\x0c'
  | 'n' => some '\n'
  | 'r' => some '\r'
  | 't' => some '\t'
  | 'v' => some '\x0b'
  | '\\' => some '\\'
  | _ => none

/-- The character of octal digits, at most so many of them, and the rest. -/
def octal (most : Nat) (cs : List Char) : Char × List Char :=
  let digits := (cs.take most).takeWhile (isDigitOf 8)
  (Char.ofNat (digitsValue 8 digits % 256), cs.drop digits.length)

/-- What a backslash and the characters after it stand for, and the rest. A backslash that stands
for nothing else stands for itself. -/
def escape? (cs : List Char) : Char × List Char :=
  match cs with
  | [] => ('\\', [])
  | c :: rest =>
    match letterEscape? c with
    | some d => (d, rest)
    | none => if isDigitOf 8 c then octal 3 cs else ('\\', cs)

/-- A text with its escapes replaced, and whether it ends output at once. A zero may stand in front
of octal digits. -/
def unescape : Nat → List Char → List Char × Bool
  | 0, _ => ([], false)
  | _, [] => ([], false)
  | fuel + 1, '\\' :: rest =>
    match rest with
    | 'c' :: _ => ([], true)
    | '0' :: digits =>
      let (c, rest) := octal 3 digits
      let (cs, stops) := unescape fuel rest
      (c :: cs, stops)
    | _ =>
      let (c, rest) := escape? rest
      let (cs, stops) := unescape fuel rest
      (c :: cs, stops)
  | fuel + 1, c :: rest =>
    let (cs, stops) := unescape fuel rest
    (c :: cs, stops)

/-- The arguments of `echo` as one text. -/
def echoText (args : List String) : String :=
  let (newline, args) : Bool × List String :=
    match args with
    | "-n" :: args => (false, args)
    | args => (true, args)
  let cs := (" ".intercalate args).toList
  let (cs, stops) := unescape (cs.length + 1) cs
  String.ofList (if newline && !stops then cs ++ ['\n'] else cs)

/-! ## Directives -/

structure Spec where
  flags : List Char := []
  width : Nat := 0
  precision : Option Nat := none

namespace Spec

def has (s : Spec) (c : Char) : Bool :=
  s.flags.contains c

/-- Fills up to the width. Zeros go between the sign and the digits. -/
def pad (s : Spec) (zeros : Bool) (sign body : List Char) : List Char :=
  let gap := s.width - (sign.length + body.length)
  if s.has '-' then sign ++ body ++ List.replicate gap ' '
  else if zeros then sign ++ List.replicate gap '0' ++ body
  else List.replicate gap ' ' ++ sign ++ body

def text (s : Spec) (cs : List Char) : List Char :=
  s.pad false [] (match s.precision with
    | some n => cs.take n
    | none => cs)

def sign (s : Spec) (negative : Bool) : List Char :=
  if negative then ['-'] else if s.has '+' then ['+'] else if s.has ' ' then [' '] else []

/-- The digits of an integer, as many as the precision asks for. -/
def digits (s : Spec) (base n : Nat) : List Char :=
  let ds := if n = 0 && s.precision == some 0 then [] else Nat.toDigits base n
  List.replicate (s.precision.getD 1 - ds.length) '0' ++ ds

def signed (s : Spec) (n : Int) : List Char :=
  s.pad (s.has '0' && s.precision.isNone) (s.sign (n < 0)) (s.digits 10 n.natAbs)

/-- An integer without a sign, in the base that a letter stands for. -/
def unsigned (s : Spec) (letter : Char) (n : Nat) : List Char :=
  let zeros := s.has '0' && s.precision.isNone
  match letter with
  | 'o' =>
    let ds := s.digits 8 n
    s.pad zeros [] (if s.has '#' && ds.head? != some '0' then '0' :: ds else ds)
  | 'x' => s.pad zeros (if s.has '#' && n ≠ 0 then ['0', 'x'] else []) (s.digits 16 n)
  | 'X' =>
    s.pad zeros (if s.has '#' && n ≠ 0 then ['0', 'X'] else []) ((s.digits 16 n).map Char.toUpper)
  | _ => s.pad zeros [] (s.digits 10 n)

/-- A number with decimals, in the notation that a letter stands for. -/
def real (s : Spec) (letter : Char) (x : Real) : List Char :=
  let lower := letter.toLower
  let body : List Char :=
    match x with
    | .infinite _ => "inf".toList
    | .notANumber _ => "nan".toList
    | .finite x =>
      let places := s.precision.getD 6
      if lower == 'a' then Real.hexadecimal x s.precision (s.has '#')
      else if lower == 'f' then Real.fixed x places (s.has '#')
      else if lower == 'e' then Real.scientific x places (s.has '#')
      else Real.general x places (s.has '#')
  let isFinite : Bool :=
    match x with
    | .finite _ => true
    | _ => false
  let mark := if lower == 'a' && isFinite then ['0', 'x'] else []
  let upper (cs : List Char) : List Char := if letter.isUpper then cs.map Char.toUpper else cs
  s.pad (s.has '0' && isFinite) (s.sign x.isNegative ++ upper mark) (upper body)

end Spec

/-! ## Formats -/

structure Dialect where
  /-- Says something about an argument. -/
  complain : String → Act Unit
  /-- Says what is wrong with the format, and stops. -/
  refuse : String → Act Unit
  /-- The wording for an argument that is no number. -/
  notNumber : String
  /-- The wording for an argument of which only the front is a number. -/
  notWhole : String
  /-- The argument as it is shown. -/
  shown : String → String
  /-- The characters that say how wide numbers are, which makes no difference. -/
  sizes : List Char
  /-- The wording for a directive that there is not. -/
  noDirective : String
  /-- The wording for a directive that is not complete, unless it is the same. -/
  noLetter : Option String
  /-- What is particular about escapes, if anything: what they stand for, if output goes on, and the
  rest. -/
  escape? : List Char → Option (Except String (Option (List Char) × List Char))
  /-- The flags of directives. -/
  flags : List Char := "#-+ 0".toList
  /-- Whether there is no directive with a letter after these characters. -/
  bars : List Char → Char → Bool := fun _ _ => false
  /-- The text of an argument that is quoted, if there is such a directive. -/
  quote? : Option (String → String) := none
  /-- The precision of numbers with decimals. -/
  precision : Precision := .double
  /-- The number of the character behind a quote, and what is said if something follows it. -/
  character : List Char → Nat × Option String := fun cs => ((cs.head?.map Char.toNat).getD 0, none)
  /-- Whether there has to be a character behind a quote. -/
  needsCharacter : Bool := false

/-- A text with its escapes replaced, and whether it ends output at once. A zero may stand in front
of octal digits. -/
def Dialect.unescape (d : Dialect) : Nat → List Char → Except String (List Char × Bool)
  | 0, _ => .ok ([], false)
  | _, [] => .ok ([], false)
  | fuel + 1, '\\' :: rest => do
    let found : Option (List Char) × List Char ←
      match rest, d.escape? rest with
      | 'c' :: _, _ => pure (none, [])
      | '0' :: digits, _ => pure (some [(octal 3 digits).1], (octal 3 digits).2)
      | _, some (.ok found) => pure found
      | _, some (.error message) => throw message
      | _, none => pure (some [(Shell.escape? rest).1], (Shell.escape? rest).2)
    match found with
    | (none, _) => return ([], true)
    | (some front, rest) =>
      let (cs, stops) ← d.unescape fuel rest
      return (front ++ cs, stops)
  | fuel + 1, c :: rest => do
    let (cs, stops) ← d.unescape fuel rest
    return (c :: cs, stops)

def Dialect.shell : Dialect :=
  { complain := Shell.complain
    refuse := fail
    notNumber := "expected numeric value"
    notWhole := "not completely converted"
    shown := id
    sizes := []
    noDirective := "invalid directive"
    noLetter := some "missing format character"
    escape? := fun _ => none }

/-- The arguments that are left, and whether something went wrong. -/
structure Printing where
  dialect : Dialect
  args : List String
  failed : Bool := false

abbrev Print := StateT Printing Act

def nextArgument : Print (Option String) := do
  let s ← get
  match s.args with
  | [] => return none
  | a :: args =>
    set { s with args }
    return some a

/-- Says that an argument is not what it should be. -/
def doubt (arg : List Char) (found ends fits : Bool) : Print Unit := do
  let d := (← get).dialect
  let why :=
    if !ends then some (if found then d.notWhole else d.notNumber)
    else if fits then none
    else some "Numerical result out of range"
  if let some why := why then
    d.complain (d.shown (String.ofList arg) ++ ": " ++ why)
    modify fun s => { s with failed := true }

/-- The number of the character behind a quote, if that is what an argument is. -/
def quotedCharacter? (cs : List Char) : Print (Option Nat) := do
  let d := (← get).dialect
  match cs with
  | q :: rest =>
    if (q != '"' && q != '\'') || (rest.isEmpty && d.needsCharacter) then return none
    let (n, warning) := d.character rest
    if let some w := warning then d.complain w
    return some n
  | [] => return none

/-- The next argument as an integer. A quote in front gives the number of the character after it. -/
def nextInteger (isSigned : Bool) : Print Int := do
  match ← nextArgument with
  | none => return 0
  | some a =>
    let cs := a.toList
    match ← quotedCharacter? cs with
    | some n => return n
    | none =>
      let n := Numeral.scan none cs
      if isSigned || n.fits then
        doubt cs n.found n.rest.isEmpty n.fits
        return n.value
      else
        -- what is too large for a signed number may fit an unsigned one
        let body := (cs.dropWhile isSpaceChar).dropWhile fun c => c == '-' || c == '+'
        let (base, body) := Numeral.based none body
        let m := digitsValue base (body.takeWhile (isDigitOf base))
        let isNegative := (cs.dropWhile isSpaceChar).head? == some '-'
        let fits := m ≤ 18446744073709551615
        doubt cs n.found n.rest.isEmpty fits
        return if !fits then 18446744073709551615 else if isNegative then -(m : Int) else m

def nextReal : Print Real := do
  match ← nextArgument with
  | none => return .finite (.zero (← get).dialect.precision)
  | some a =>
    let cs := a.toList
    let p := (← get).dialect.precision
    match ← quotedCharacter? cs with
    | some n => return Real.ofScaled p false n 10 0
    | none =>
      let n := Real.scan p cs
      doubt cs n.found n.rest.isEmpty n.fits
      return n.value

/-- A number in a directive, which may be an argument. -/
def numberIn (cs : List Char) : Print (Int × List Char) := do
  match cs with
  | '*' :: rest => return (← nextInteger true, rest)
  | _ =>
    let digits := cs.takeWhile Char.isDigit
    return (digitsValue 10 digits, cs.drop digits.length)

/-- The directive that a percent sign starts: what it writes, whether it ends output at once, and
the rest. -/
def directive (cs : List Char) : Print (List Char × Bool × List Char) := do
  let dialect := (← get).dialect
  let flags := cs.takeWhile dialect.flags.contains
  let (width, rest) ← numberIn (cs.drop flags.length)
  let (precision, rest) : Option Int × List Char ←
    match rest with
    | '.' :: rest => do
      let (n, rest) ← numberIn rest
      pure (some n, rest)
    | rest => pure (none, rest)
  let spec : Spec :=
    { flags := if width < 0 then '-' :: flags else flags
      width := width.natAbs
      precision := precision.bind fun n => if n < 0 then none else some n.toNat }
  match rest.dropWhile dialect.sizes.contains with
  | [] =>
    dialect.refuse (dialect.noLetter.getD ("%" ++ String.ofList cs ++ ": " ++ dialect.noDirective))
    return ([], true, [])
  | letter :: rest =>
    let written (cs : List Char) : Print (List Char × Bool × List Char) := return (cs, false, rest)
    let shown := cs.take (cs.length - rest.length)
    if dialect.bars shown.dropLast letter then
      dialect.refuse ("%" ++ String.ofList shown ++ ": " ++ dialect.noDirective)
      return ([], true, rest)
    match letter with
    | 's' => written (spec.text ((← nextArgument).getD "").toList)
    -- a single character is never cut off
    | 'c' => written (spec.pad false [] [((← nextArgument).getD "").toList.head?.getD '\x00'])
    | 'b' =>
      let cs := ((← nextArgument).getD "").toList
      match dialect.unescape (cs.length + 1) cs with
      | .ok (cs, stops) => return (spec.text cs, stops, rest)
      | .error message =>
        dialect.refuse message
        return ([], true, rest)
    | 'd' | 'i' => written (spec.signed (← nextInteger true))
    | 'o' | 'u' | 'x' | 'X' =>
      let n ← nextInteger false
      written (spec.unsigned letter (BinaryOp.bits n))
    | 'a' | 'A' | 'e' | 'E' | 'f' | 'F' | 'g' | 'G' => written (spec.real letter (← nextReal))
    | _ =>
      if let some quote := dialect.quote?.filter fun _ => letter == 'q' then
        return ← written (quote ((← nextArgument).getD "")).toList
      dialect.refuse ("%" ++ String.ofList shown ++ ": " ++ dialect.noDirective)
      return ([], true, rest)

/-- One pass over a format; it says whether output ends at once. -/
def pass : Nat → List Char → Print Bool
  | 0, _ => return false
  | _, [] => return false
  | fuel + 1, '\\' :: rest => do
    let dialect := (← get).dialect
    match dialect.escape? rest with
    | some (.error message) =>
      dialect.refuse message
      return true
    | some (.ok (none, _)) => return true
    | some (.ok (some cs, rest)) =>
      say (String.ofList cs)
      pass fuel rest
    | none =>
      let (c, rest) := escape? rest
      say (String.ofList [c])
      pass fuel rest
  | fuel + 1, '%' :: '%' :: rest => do
    say "%"
    pass fuel rest
  | fuel + 1, '%' :: rest => do
    let (cs, stops, rest) ← directive rest
    say (String.ofList cs)
    if stops then return true
    pass fuel rest
  | fuel + 1, c :: rest => do
    say (String.ofList [c])
    pass fuel rest

/-- Passes over a format until no arguments are left, unless a pass takes none. -/
def passes (format : List Char) : Nat → Print Unit
  | 0 => return ()
  | fuel + 1 => do
    let before := (← get).args.length
    if ← pass (format.length + 1) format then return ()
    let after := (← get).args.length
    if after = 0 || after = before then return ()
    passes format fuel

def printf (args : List String) : Act Nat := do
  let args ←
    match args with
    | "--" :: args => pure args
    | a :: _ =>
      match a.toList with
      | '-' :: c :: _ => fail ("Illegal option -" ++ String.ofList [c])
      | _ => pure args
    | [] => pure []
  match args with
  | [] => fail "usage: printf format [arg ...]"
  | format :: args =>
    spend (8 + 4 * args.length + format.length)
    let ((), s) ← (passes format.toList (args.length + 1)).run { dialect := .shell, args }
    return if s.failed then 1 else 0

end Shell
end SymbolIndex
