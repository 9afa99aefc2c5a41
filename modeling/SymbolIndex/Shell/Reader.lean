import SymbolIndex.Shell.Language
import SymbolIndex.Sorted.Table

/-!
# Reading scripts

- `Shell.Token` : what a script consists of, with the names that messages use
- `Shell.Reader` : the rest of a script and what has been found so far
- `Shell.Read` : reading that may fail
- `Shell.next`, `Shell.nextJoined` : single characters
- `Shell.startLine` : the start of a line in a text of the script, which may be its mark
- `Shell.Pieces` : a word that is being put together
-/

namespace SymbolIndex
namespace Shell

/-! ## Tokens -/

inductive Keyword where
  | not
  | case
  | do
  | done
  | elif
  | else
  | esac
  | fi
  | for
  | if
  | in
  | then
  | until
  | while
  | opening
  | closing
  deriving DecidableEq, Repr

namespace Keyword

def all : List (String × Keyword) :=
  [ ("!", .not), ("case", .case), ("do", .do), ("done", .done), ("elif", .elif), ("else", .else),
    ("esac", .esac), ("fi", .fi), ("for", .for), ("if", .if), ("in", .in), ("then", .then),
    ("until", .until), ("while", .while), ("\x7b", .opening), ("\x7d", .closing) ]

def ofText? (s : String) : Option Keyword :=
  Assoc.find? s all

def text (k : Keyword) : String :=
  ((all.find? fun e => e.2 = k).map Prod.fst).getD ""

/-- Whether a list of commands ends in front of the keyword. -/
def endsList : Keyword → Bool
  | .do | .done | .elif | .else | .esac | .fi | .then | .closing => true
  | _ => false

end Keyword

inductive Token where
  | finish
  | newline
  | semicolon
  | ampersand
  | andIf
  | orIf
  | pipe
  | open
  | close
  | endArm
  | redirection
  | word
  | keyword (k : Keyword)
  deriving DecidableEq, Repr

namespace Token

def name : Token → String
  | .finish => "end of file"
  | .newline => "newline"
  | .semicolon => "\";\""
  | .ampersand => "\"&\""
  | .andIf => "\"&&\""
  | .orIf => "\"||\""
  | .pipe => "\"|\""
  | .open => "\"(\""
  | .close => "\")\""
  | .endArm => "\";;\""
  | .redirection => "redirection"
  | .word => "word"
  | .keyword k => "\"" ++ k.text ++ "\""

/-- Whether a list of commands ends in front of the token. -/
def endsList : Token → Bool
  | .finish | .close | .endArm => true
  | .keyword k => k.endsList
  | _ => false

end Token

/-- The redirections, before their word is known. -/
inductive Arrow where
  | file (how : Opening)
  | same
  /-- A text of the script; with `strips`, tabs in front of its lines do not count. -/
  | here (strips : Bool)
  deriving DecidableEq, Repr

/-! ## Readers -/

/-- Why a script cannot be read, and on which line that was found. -/
structure SyntaxFault where
  line : Nat
  message : String
  /-- Whether more of the script was looked for than there was. -/
  short : Bool := false
  deriving Inhabited

/-- A text of the script that is still to come. -/
structure Here where
  number : Nat
  mark : String
  strips : Bool
  expands : Bool

structure Replaced where
  name : String
  /-- How much of the script follows the replacement. -/
  after : Nat
  /-- Whether the replacement ends with a blank, so that the word behind it may be an alias, too. -/
  opens : Bool

/-- The rest of a script and what has been found so far. -/
structure Reader where
  rest : List Char
  /-- How long the script is. -/
  size : Nat
  /-- Whether more of the script was looked for than there is. -/
  short : Bool := false
  line : Nat := 1
  /-- The last token, and whether it is to be read again. -/
  token : Token := .newline
  again : Bool := false
  /-- The last word. -/
  word : Word := []
  /-- The last redirection: its channel and kind. -/
  arrow : Nat × Arrow := (0, .same)
  /-- Texts that follow the line. -/
  pending : List Here := []
  /-- The text whose lines are being read, and whether its mark has been found. -/
  within : Option Here := none
  ended : Bool := false
  /-- Texts that have been read, by number. -/
  heres : List (Nat × Word) := []
  /-- How many texts there are. -/
  count : Nat := 0
  aliases : List (String × String) := []
  /-- Aliases that must not be replaced again before what they stand for has been read. -/
  active : List Replaced := []
  /-- How much of the script there was in front of the last token, if aliases have been replaced. -/
  start : Nat := 0
  /-- A bound for what is still to be read. -/
  bound : Nat := 0

abbrev Read := StateT Reader (Except SyntaxFault)

def refuse {α : Type} (message : String) : Read α := fun r =>
  .error { line := r.line, message := "Syntax error: " ++ message, short := r.short }

/-- Fails because the last token cannot stand where it stands. -/
def unexpected {α : Type} (expected : Option Token) : Read α := fun r =>
  let hint :=
    match expected with
    | none => ""
    | some t => " (expecting " ++ t.name ++ ")"
  refuse (r.token.name ++ " unexpected" ++ hint) r

def Reader.ofText (rest : List Char) : Reader :=
  { rest, size := rest.length }

/-- The reader with more of the script at its end. -/
def Reader.extend (r : Reader) (more : List Char) : Reader :=
  { r with
    rest := r.rest ++ more
    size := r.size + more.length
    active := r.active.map fun a => { a with after := a.after + more.length } }

/-- The reader with a bound for what is still to be read when all aliases are replaced. -/
def Reader.bounded (r : Reader) : Reader :=
  { r with bound := r.aliases.foldl (fun n a => n * (a.2.length + 1)) (r.size + 2) }

/-- The aliases whose replacements end behind the last token or with it. -/
def Reader.replacing (r : Reader) : List Replaced :=
  r.active.filter fun a => a.after ≤ r.rest.length

/-- A bound for the number of characters that are still to be read. -/
def bound : Read Nat := fun r =>
  .ok (r.bound, r)

def next : Read (Option Char) := fun r =>
  match r.rest with
  | [] => .ok (none, { r with short := true })
  | c :: rest => .ok (some c, { r with rest })

def unread (c : Option Char) : Read Unit := fun r =>
  match c with
  | none => .ok ((), r)
  | some c => .ok ((), { r with rest := c :: r.rest })

def countLine : Read Unit := fun r =>
  .ok ((), { r with line := r.line + 1 })

/-- Drops line ends behind a backslash from the front, with their number. -/
def dropJoins : List Char → List Char × Nat
  | '\\' :: '\n' :: rest =>
    let (rest, n) := dropJoins rest
    (rest, n + 1)
  | rest => (rest, 0)

/-- The next character; lines that end with a backslash are joined. -/
def nextJoined : Read (Option Char) := fun r =>
  let (rest, n) := dropJoins r.rest
  -- what follows a backslash decides whether it joins lines
  next { r with rest, line := r.line + n, short := r.short || rest == ['\\'] }

/-- The next character of a word; a text of the script ends at its mark. -/
def nextOfWord : Read (Option Char) := fun r =>
  if r.ended then .ok (none, r) else nextJoined r

/-- Starts a line of a text: drops tabs that do not count, and looks for the mark. A line end behind
such tabs stays even if a backslash stands in front of it. -/
def startLine : Read (List Char) := fun r =>
  match r.within with
  | none => .ok ([], r)
  | some h =>
    let (rest, n) := dropJoins r.rest
    let r := { r with line := r.line + n }
    let line := if h.strips then rest.dropWhile (· == '\t') else rest
    let after := line.drop h.mark.length
    if h.mark.toList.isPrefixOf line && (after.isEmpty || after.head? == some '\n') then
      let short := r.short || after.isEmpty
      .ok ([], { r with rest := after.tail, line := r.line + 1, ended := true, short })
    else
      match h.strips && rest.head? == some '\t', line with
      | true, '\\' :: '\n' :: more => .ok (['\\', '\n'], { r with rest := more })
      | _, _ => .ok ([], { r with rest := line })

/-! ## Words in the making -/

/-- The parts so far and the characters of the last part, newest first. -/
structure Pieces where
  parts : List Part := []
  chars : List Char := []
  quoted : Bool := false

namespace Pieces

def flush (p : Pieces) : Pieces :=
  if p.chars.isEmpty then p
  else { p with parts := .text (String.ofList p.chars.reverse) p.quoted :: p.parts, chars := [] }

def push (p : Pieces) (c : Char) (quoted : Bool) : Pieces :=
  if p.quoted = quoted || p.chars.isEmpty then { p with chars := c :: p.chars, quoted }
  else { p.flush with chars := [c], quoted }

def append (p : Pieces) (w : Word) : Pieces :=
  let p := p.flush
  { p with parts := w.reverse ++ p.parts }

def word (p : Pieces) : Word :=
  p.flush.parts.reverse

end Pieces

end Shell
end SymbolIndex
