import SymbolIndex.Shell.Arithmetic
import SymbolIndex.Shell.Pattern
import SymbolIndex.Shell.System

/-!
# Filling in words

- `Shell.Process.value?`, `Shell.assign` : parameters and variables
- `Shell.Atom` : a piece of a word that is being filled in, with what may still happen to it
- `Shell.Filler` : how words inside words and commands in words are filled in
- `Shell.partsAtoms` : the pieces of a word
- `Shell.fieldsOf` : the words that a word falls apart into
- `Shell.filesLike` : the names of files that match
- `Shell.expandWords`, `Shell.expandText`, `Shell.expandPattern` : words, texts and patterns
-/

namespace SymbolIndex
namespace Shell

/-! ## Parameters -/

/-- The characters at which words fall apart. -/
def Process.separators (p : Process) : List Char :=
  ((p.binding? "IFS").getD " \t\n").toList

/-- What stands between arguments when they are one text. -/
def Process.joint (p : Process) : String :=
  match p.binding? "IFS" with
  | none => " "
  | some s => String.ofList (s.toList.take 1)

/-- The letters of the options that are set. -/
def Process.flags (p : Process) : String :=
  String.ofList ("pubaCEVvxsnmiIfe".toList.filter fun c => p.options.contains c)

def Process.value? (p : Process) (name : String) : Option String :=
  if name.front.isAlpha then p.binding? name else
  match name.toList with
  | ['?'] => some (toString p.status)
  | ['#'] => some (toString p.arguments.length)
  | ['$'] => some (toString p.shell)
  | ['!'] => p.lastJob.map toString
  | ['-'] => some p.flags
  | ['@'] => some (" ".intercalate p.arguments)
  | ['*'] => some (p.joint.intercalate p.arguments)
  | cs =>
    if cs.all Char.isDigit then
      match digitsValue 10 cs with
      | 0 => some p.name
      | n + 1 => p.arguments[n]?
    else p.binding? name

def wholeNumber (s : String) : Act Nat := do
  let cs := s.toList
  let n := digitsValue 10 cs
  if cs.isEmpty || !cs.all Char.isDigit || 2147483647 < n then fail ("Illegal number: " ++ s)
  return n

/-- The variable that says how far the options among the arguments have been read. It is a
number. -/
def placeName : String := "OPTIND"

def assign (name value : String) : Act Unit := do
  let old := (← asks (·.lookup? name)).getD {}
  if old.readonly then fail (name ++ ": is read only")
  if name = placeName then
    let place : OptionPlace := ⟨max 1 (← wholeNumber value), 0⟩
    change fun p => { p with optionPlace := place }
  change fun p => p.bind name
    { old with value := some value, exported := old.exported || p.options.contains 'a' }

/-! ## Pieces of words -/

/-- A piece of a word that is being filled in. -/
inductive Atom where
  /-- A text, in which the word may fall apart if `splits` is set. -/
  | text (s : String) (quoted splits : Bool)
  /-- The border between two arguments. -/
  | edge (quoted : Bool)
  /-- A place with quotes: there is a word, even if it is empty. -/
  | mark
  /-- The start of a text at which the word may fall apart: with quotes only between arguments. -/
  | span (quoted : Bool)
  deriving DecidableEq, Repr

def atomsOfText (s : String) (quoted splits : Bool) : List Atom :=
  if s.isEmpty then [] else [.text s quoted splits]

def glyphsOfText (s : String) (quoted : Bool) : List Glyph :=
  s.toList.map fun c => ⟨c, quoted⟩

def Process.glyphsOf (p : Process) (atoms : List Atom) : List Glyph :=
  atoms.flatMap fun
    | .text s quoted _ => glyphsOfText s quoted
    | .edge quoted => glyphsOfText p.joint quoted
    | .mark | .span _ => []

def Process.textOf (p : Process) (atoms : List Atom) : String :=
  atoms.foldl (fun text a =>
    match a with
    | .text s _ _ => text ++ s
    | .edge _ => text ++ p.joint
    | .mark | .span _ => text) ""

def sizeOf (atoms : List Atom) : Nat :=
  atoms.foldl (fun n a =>
    match a with
    | .text s _ _ => n + s.utf8ByteSize
    | _ => n + 1) 0

/-- How much there is to do to copy so many bytes. Many of them do not lie at hand. -/
def copying (bytes : Nat) : Nat :=
  if bytes < 1000000 then bytes / 128 else bytes / 16

/-- Whether a character may have a meaning in a pattern. -/
def isWild (c : Char) : Bool :=
  c == '*' || c == '?' || c == '[' || c == '\\'

/-- Whether a text stands for nothing but itself in a pattern. -/
def isExact (s : String) (quoted : Bool) : Bool :=
  quoted || !s.any isWild

def Process.patternOf (p : Process) (atoms : List Atom) : Pattern :=
  let exact := atoms.all fun
    | .text s quoted _ => isExact s quoted
    | .edge quoted => isExact p.joint quoted
    | .mark | .span _ => true
  if exact then .exact (p.textOf atoms) else .ofGlyphs (p.glyphsOf atoms)

structure Setting where
  /-- Whether arguments stay apart. -/
  splits : Bool
  /-- Whether plain text may fall apart. -/
  loose : Bool := false
  /-- Whether a tilde may stand for a directory. -/
  tilde : Bool := true
  /-- Whether it may do so after a colon or equals sign. -/
  listed : Bool := false

/-- How the commands in words are run, and words inside words filled in. -/
structure Filler where
  output : Command → Act String
  atoms : Setting → Word → Act (List Atom)

def homes : List (String × String) :=
  [ ("root", "/root"), ("daemon", "/usr/sbin"), ("bin", "/bin"), ("sys", "/dev"), ("sync", "/bin"),
    ("games", "/usr/games"), ("man", "/var/cache/man"), ("lp", "/var/spool/lpd"),
    ("mail", "/var/mail"), ("news", "/var/spool/news"), ("uucp", "/var/spool/uucp"),
    ("proxy", "/bin"), ("www-data", "/var/www"), ("backup", "/var/backups"), ("list", "/var/list"),
    ("irc", "/run/ircd"), ("_apt", "/nonexistent"), ("nobody", "/nonexistent") ]

/-- The directory that a name after a tilde stands for. -/
def Process.homeOf? (p : Process) (name : String) : Option String :=
  match name with
  | "" => p.binding? "HOME"
  | _ => Assoc.find? name homes

/-- Replaces a tilde at the front. It must be followed by a slash or, if nothing else follows the
text, by its end. -/
def Process.replaceTilde (p : Process) (listed last : Bool) (cs : List Char) :
    List Atom × List Char :=
  match cs with
  | '~' :: rest =>
    let name := rest.takeWhile fun c => c != '/' && !(listed && c == ':')
    let after := rest.drop name.length
    if after.isEmpty && !last then ([], cs)
    else
      match p.homeOf? (String.ofList name) with
      | some home => (atomsOfText home true false, after)
      | none => ([], cs)
  | _ => ([], cs)

/-- The pieces of plain text with tildes replaced. `start` says that a tilde may stand at the
front. -/
def Process.plainAtoms (p : Process) (s : Setting) (last : Bool) :
    Nat → Bool → List Char → List Atom
  | 0, _, _ => []
  | fuel + 1, start, cs =>
    let (found, cs) := if start then p.replaceTilde s.listed last cs else ([], cs)
    found ++
      match cs with
      | [] => []
      | c :: rest =>
        .text (String.singleton c) false s.loose ::
          p.plainAtoms s last fuel (s.listed && s.tilde && c == ':') rest

/-- The position behind the equals sign of an assignment, if a word is one. -/
def valueStart (cs : List Char) : Nat :=
  (cs.takeWhile (· != '=')).length + 1

/-- The pieces of plain text at the front of a word or behind it. -/
def Process.textAtoms (p : Process) (s : Setting) (first last : Bool) (text : String) : List Atom :=
  if !text.contains '~' then atomsOfText text false s.loose
  else
    let cs := text.toList
    if s.listed && first && !s.loose then
      let n := valueStart cs
      atomsOfText (String.ofList (cs.take n)) false false ++
        p.plainAtoms s last (cs.length + 1) true (cs.drop n)
    else p.plainAtoms s last (cs.length + 1) (s.tilde && first) cs

def apartAtoms (quoted : Bool) (arguments : List String) : List Atom :=
  match arguments.map fun a => atomsOfText a quoted (!quoted) with
  | [] => if quoted then [] else [.span false]
  | first :: rest => .span quoted :: first ++ rest.flatMap fun part => .edge quoted :: part

def Process.argumentAtoms (p : Process) (star quoted : Bool) : List Atom :=
  if star && quoted then .mark :: atomsOfText (p.joint.intercalate p.arguments) true false
  else apartAtoms quoted p.arguments

/-- Whether a character is kept with a sign in front of it. -/
def isSigned (quoted : Bool) (c : Char) : Bool :=
  (quoted && "!*?[=~:/-]\\".toList.contains c) ||
    (0x81 ≤ c.toNat && c.toNat ≤ 0x88 && c.toNat != 0x85)

/-- How many characters of arguments that stay apart, with a border between them, are cut off or
kept when the part at their front is the longest or the one at their back the shortest. The
arguments with their signs, the pattern and, if it has signs, the first argument without them lie on
one tape. The cut goes backwards over the last of these and over all arguments at the same pace, so
it gets into the pattern if it finds nothing in the first argument. -/
def cutApart? (quoted front : Bool) (pattern : List Glyph) (first whole : List Char) : Option Nat :=
  let border := '\x00'
  let signed := whole.flatMap fun c => if isSigned quoted c then ['\x81', c] else [c]
  let spelled := Pattern.spelling false pattern
  let copies := first.any (isSigned quoted)
  let tape := signed ++ [border] ++ spelled ++ (if copies then border :: first else [])
  let start := if copies then signed.length + spelled.length + 2 else 0
  let last := if copies then tape.length else signed.length
  let before (cs : List Char) : String := String.ofList (cs.takeWhile (· != border))
  let hits (n : Nat) : Bool :=
    let place := last - (whole.length - n)
    if front then
      let tape := tape.set place border
      let p := Pattern.ofGlyphs (Pattern.ofSpelling (before (tape.drop (signed.length + 1))).toList)
      p.holds (before (tape.drop start))
    else (Pattern.ofGlyphs pattern).holds (before (tape.drop place))
  (List.range (whole.length + 1)).reverse.find? hits

/-- Arguments that stay apart, trimmed as if they were one text. The longest part at the back and
the shortest one at the front start in the first argument. -/
def trimApart (quoted front longest : Bool) (pattern : List Glyph) (arguments : List String) :
    List String :=
  let border := '\x00'
  let whole := [border].intercalate (arguments.map String.toList)
  let first := (arguments.headD "").toList
  let cut? :=
    if front == longest then cutApart? quoted front pattern first whole
    else
      (List.range (first.length + 1)).find? fun n =>
        (Pattern.ofGlyphs pattern).holds
          (String.ofList (if front then first.take n else first.drop n))
  let left :=
    match cut? with
    | some n => if front then whole.drop n else whole.take n
    | none => whole
  (left.splitOn border).map String.ofList

def valueAtoms (value : String) (quoted : Bool) : List Atom :=
  if quoted then .mark :: atomsOfText value true false
  else .span false :: atomsOfText value false true

/-- The text of a word in which nothing falls apart. -/
def textWith (f : Filler) (w : Word) : Act String := do
  let atoms ← f.atoms { splits := false, tilde := false } w
  asks (·.textOf atoms)

def parameterAtoms (f : Filler) (s : Setting) (name : String) (use : Use) (quoted : Bool) :
    Act (List Atom) := do
  let p ← asks id
  let isList := name = "@" || name = "*"
  let value := p.value? name
  let present : Act (List Atom) := do
    if isList then return p.argumentAtoms (name = "*") quoted
    return valueAtoms (value.getD "") quoted
  let absent : Act Unit := do
    if value.isNone && !isList && p.options.contains 'u' then fail (name ++ ": parameter not set")
  let innerText (w : Word) : Act String := do
    let atoms ← f.atoms { splits := false, tilde := !quoted } w
    return p.textOf atoms
  let inner (w : Word) : Act (List Atom) := do
    let atoms ← f.atoms { s with loose := !quoted, listed := false, tilde := !quoted } w
    return if quoted then .mark :: atoms else atoms
  match use with
  | .value =>
    absent
    present
  | .followed w =>
    absent
    return (← present) ++ (← inner w)
  | .length =>
    absent
    -- however arguments are listed, their length is that of one text
    let value := if isList then some (p.joint.intercalate p.arguments) else value
    return valueAtoms (toString (value.getD "").length) quoted
  | .guarded g orEmpty w =>
    let isAbsent := value.isNone || (orEmpty && value == some "")
    match g with
    | .replace => if isAbsent then inner w else present
    | .swap => if isAbsent then return (if quoted then [.mark] else []) else inner w
    | .assign =>
      if isAbsent then
        let text ← innerText w
        if !isName name then fail (name ++ ": bad variable name")
        assign name text
        return valueAtoms text quoted
      else present
    | .stop =>
      if isAbsent then
        let text ← innerText w
        if w.isEmpty then
          fail (name ++ ": parameter not set" ++ (if orEmpty then " or null" else ""))
        fail (name ++ ": " ++ text)
      else present
  | .trim front longest w =>
    absent
    let pattern ← f.atoms { splits := false, tilde := true } w
    if isList && s.splits && (name = "@" || !quoted) && !p.arguments.isEmpty then
      let glyphs := p.glyphsOf pattern
      return apartAtoms quoted (trimApart quoted front longest glyphs p.arguments)
    let pattern := p.patternOf pattern
    let text := value.getD ""
    let left := pattern.trim front longest text
    let size := text.utf8ByteSize
    -- what is looked through lies where the search starts, unless nothing is found
    let looked :=
      if left.utf8ByteSize = size then size
      else if longest then left.utf8ByteSize else size - left.utf8ByteSize
    spend (4 + copying size + pattern.effort looked)
    return valueAtoms left quoted
  | .unknown => fail "Bad substitution"

def evaluate (text : String) : Act String := do
  let wrong {α : Type} (why : String) : Act α :=
    fail ("arithmetic expression: " ++ why ++ ": \"" ++ text ++ "\"")
  spend (8 + 4 * text.length)
  let (e, rest) := Sum.parse text
  let (outcome, sets) ← asks fun p => (e.eval (fun name => (p.value? name).getD "") true).run.run []
  sets.reverse.forM fun s => assign s.1 (toString s.2)
  match outcome with
  | .error .divisionByZero => wrong "division by zero"
  | .error (.notANumber value) => fail ("Illegal number: " ++ value)
  | .error (.missing gap) => wrong gap.message
  | .ok n =>
    if !rest.isEmpty then wrong "expecting EOF"
    return toString n

/-- The pieces of a part. `first` and `last` say where it stands in its word. -/
def partAtoms (f : Filler) (s : Setting) (first last : Bool) : Part → Act (List Atom)
  | .text text quoted => do
    if quoted then return .mark :: atomsOfText text true false
    let atoms := (← asks id).textAtoms s first last text
    return if s.loose && !text.isEmpty then .span false :: atoms else atoms
  | .parameter name use quoted => parameterAtoms f s name use quoted
  | .output body quoted => do
    return valueAtoms (← f.output body) quoted
  | .arithmetic expr quoted => do
    return valueAtoms (← evaluate (← textWith f expr)) quoted

def partsAtoms (f : Filler) (s : Setting) : Bool → Word → Act (List Atom)
  | _, [] => return []
  | first, p :: ps => do
    let atoms ← partAtoms f s first ps.isEmpty p
    return atoms ++ (← partsAtoms f s false ps)

/-- The filler for words inside each other up to a depth. -/
def filler (output : Command → Act String) : Nat → Filler
  | 0 => ⟨output, fun _ _ => fail "Bad substitution"⟩
  | n + 1 => ⟨output, fun s w => partsAtoms (filler output n) s true w⟩

def maxWordDepth : Nat := 100000

/-! ## Fields -/

/-- A text of a word; a quoted one stands for itself. -/
structure Piece where
  text : String
  quoted : Bool

def pieceText (pieces : List Piece) : String :=
  pieces.foldl (fun text p => text ++ p.text) ""

structure Splitter where
  /-- The words that are done, newest first. -/
  done : List (List Piece) := []
  /-- The pieces of the word at hand, newest first. -/
  current : List Piece := []
  /-- Whether there are quotes in the word at hand. -/
  marked : Bool := false
  /-- Whether the last word ended at a blank. -/
  afterBlank : Bool := false
  /-- Whether the text at hand consists of quoted arguments, so that there is a word even if it is
  empty. -/
  apart : Bool := false
  /-- Whether every border in the text at hand ends a word, also one behind another. -/
  hard : Bool := false

namespace Splitter

def begun (s : Splitter) : Bool :=
  s.marked || !s.current.isEmpty

def close (s : Splitter) (afterBlank : Bool) : Splitter :=
  { s with done := s.current.reverse :: s.done, current := [], marked := false, afterBlank }

/-- A border, which may be a blank. -/
def border (s : Splitter) (blank : Bool) : Splitter :=
  -- the blanks in front belong to the same border
  if s.afterBlank then { s with afterBlank := blank }
  else if s.hard then s.close false
  else if blank && !s.begun then s
  else s.close blank

def push (s : Splitter) (text : String) (quoted : Bool) : Splitter :=
  { s with current := ⟨text, quoted⟩ :: s.current, afterBlank := false }

def scan (separators : List Char) : Nat → Splitter → List Char → Splitter
  | 0, s, _ => s
  | _, s, [] => s
  | fuel + 1, s, c :: cs =>
    if separators.contains c then
      scan separators fuel (s.border (c == ' ' || c == '\t' || c == '\n')) cs
    else
      let part := c :: cs.takeWhile fun c => !separators.contains c
      scan separators fuel (s.push (String.ofList part) false) (cs.drop (part.length - 1))

def step (separators : List Char) (s : Splitter) : Atom → Splitter
  | .mark => { s with marked := true, afterBlank := false }
  | .span quoted => { s with hard := s.apart || quoted, apart := quoted, afterBlank := false }
  | .edge _ => s.border true
  | .text t quoted splits =>
    if splits && !quoted && t.any separators.contains then scan separators (t.length + 1) s t.toList
    else s.push t quoted

def finish (s : Splitter) : List (List Piece) :=
  (if s.apart || s.begun then s.close false else s).done.reverse

end Splitter

def fieldsOf (separators : List Char) (atoms : List Atom) : List (List Piece) :=
  (atoms.foldl (Splitter.step separators) {}).finish

/-! ## Names of files -/

/-- The parts of a name between slashes, each with the slashes behind it. -/
def pathParts : Nat → List Glyph → List (List Glyph × List Glyph)
  | 0, _ => []
  | _, [] => []
  | fuel + 1, gs =>
    let part := gs.takeWhile fun g => g.char != '/'
    let rest := gs.drop part.length
    let slashes := rest.takeWhile fun g => g.char == '/'
    (part, slashes) :: pathParts fuel (rest.drop slashes.length)

/-- The names in a directory that match, in order. Hidden names need a dot in the pattern. -/
def namesLike (store : Store) (dir : String) (part : List Glyph) : List String :=
  match store.lookup (Octets.toText (if dir = "" then "." else dir)) with
  | .ok (.dir entries) =>
    let names := ["." , ".."] ++ entries.map fun e => Octets.ofText e.1
    let pattern := Pattern.ofGlyphs part
    let dotted := (part.head?.map Glyph.char) == some '.'
    let hits := names.filter fun n =>
      (dotted || !n.startsWith '.') && pattern.holds n
    hits.mergeSort fun a b => decide (a ≤ b)
  | _ => []

/-- The paths that match parts of a name, each starting with a path. -/
def pathsLike (store : Store) : String → List (List Glyph × List Glyph) → List String
  | path, [] => [path]
  | path, (part, slashes) :: rest =>
    let behind := glyphText slashes
    if hasWildcard part then
      (namesLike store path part).flatMap fun n =>
        let found := path ++ n
        if behind.isEmpty then
          [found]
        else if store.isDir (Octets.toText found) then pathsLike store (found ++ behind) rest
        else []
    else
      let found := path ++ glyphText part
      if rest.isEmpty && behind.isEmpty then
        if (store.lookup (Octets.toText found)).isOk then [found] else []
      else pathsLike store (found ++ behind) rest

def filesLike (store : Store) (gs : List Glyph) : List String :=
  (pathsLike store "" (pathParts (gs.length + 1) gs)).mergeSort fun a b => decide (a ≤ b)

/-! ## Words -/

/-- Whether a character may have a meaning in a word without quotes. -/
def isMeaningful (c : Char) : Bool :=
  c == '~' || isWild c

/-- The text of a word without quotes in which no character has a meaning. -/
def Word.plain? : Word → Option String
  -- a lone bracket is a command
  | [.text s false] => if s == "[" || !s.any isMeaningful then some s else none
  | _ => none

/-- Whether a word stands for nothing but itself. -/
def isExactField (pieces : List Piece) : Bool :=
  pieces.all fun piece => isExact piece.text piece.quoted

def namesFor (pieces : List Piece) : Act (List String) := do
  let text := pieceText pieces
  let p ← asks id
  if p.options.contains 'f' || isExactField pieces then return [text]
  let read := Pattern.unescape (pieces.flatMap fun piece => glyphsOfText piece.text piece.quoted)
  if !hasWildcard read then return [text]
  let store ← ownTree
  -- directories cannot be read without a channel
  match if p.lacksChannels 1 then [] else filesLike store read with
  | [] =>
    spend 40
    return [text]
  | names =>
    spend (40 * names.length)
    return names

def expandWord (f : Filler) (w : Word) : Act (List String) := do
  if let some s := w.plain? then return [s]
  let atoms ← f.atoms { splits := true } w
  let fields ← asks fun p => fieldsOf p.separators atoms
  spend (2 + 2 * fields.length + copying (sizeOf atoms))
  if fields.all isExactField then return fields.map pieceText
  let words ← fields.mapM namesFor
  return words.flatten

def expandWords (f : Filler) : List Word → Act (List String)
  | [] => return []
  | w :: ws => do
    let first ← expandWord f w
    return first ++ (← expandWords f ws)

/-- The text of a word that does not fall apart. -/
def expandText (f : Filler) (w : Word) : Act String := do
  if let some s := w.plain? then return s
  let atoms ← f.atoms { splits := false } w
  spend (3 + atoms.length + copying (sizeOf atoms))
  asks (·.textOf atoms)

def expandAssignment (f : Filler) (w : Word) : Act String := do
  if let some s := w.plain? then return s
  let atoms ← f.atoms { splits := false, listed := true } w
  spend (3 + atoms.length + copying (sizeOf atoms))
  asks (·.textOf atoms)

def expandPattern (f : Filler) (w : Word) : Act Pattern := do
  let atoms ← f.atoms { splits := false } w
  asks (·.patternOf atoms)

def expandHere (f : Filler) (number : Nat) : Act String := do
  match (← asks (·.heres)).find? (·.1 == number) with
  | some (_, w) => textWith f w
  | none => return ""

end Shell
end SymbolIndex
