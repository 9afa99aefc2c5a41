/-!
# The language of scripts

- `Shell.Part` : a part of a word; parts are filled in when a command runs
- `Shell.Use` : what is made of the value of a parameter
- `Shell.Redirect` : where a channel of a command goes
- `Shell.Command` : a command, from a single one to loops and functions

Texts stand for bytes: all characters lie below 256.
-/

namespace SymbolIndex
namespace Shell

inductive Fallback where
  /-- Another word takes its place. -/
  | replace
  /-- The parameter is set to another word. -/
  | assign
  /-- The script stops with a message. -/
  | stop
  /-- Nothing; another word takes its place if it is present. -/
  | swap
  deriving DecidableEq, Repr

inductive Opening where
  | read
  | write
  | append
  | both
  /-- Writes even if files are protected. -/
  | force
  deriving DecidableEq, Repr

mutual

/-- A part of a word. What is quoted is neither split nor matched against names of files. -/
inductive Part where
  | text (cs : String) (quoted : Bool)
  | parameter (name : String) (use : Use) (quoted : Bool)
  /-- What a command writes. -/
  | output (body : Command) (quoted : Bool)
  /-- The value of an arithmetic expression. -/
  | arithmetic (expr : List Part) (quoted : Bool)

inductive Use where
  | value
  /-- The value and a word behind it. -/
  | followed (word : List Part)
  | length
  /-- The parameter may be absent; with `orEmpty`, an empty one counts as absent. -/
  | guarded (f : Fallback) (orEmpty : Bool) (word : List Part)
  /-- Cuts what a pattern matches off the front or the back. -/
  | trim (front longest : Bool) (pattern : List Part)
  | unknown

inductive Redirect where
  | file (channel : Nat) (how : Opening) (name : List Part)
  /-- The same as another channel, whose number is a word; a dash closes the channel. -/
  | same (channel : Nat) (target : List Part)
  /-- A text of the script itself, given by its number. -/
  | here (channel : Nat) (number : Nat)

/-- A command. Lines count from one. -/
inductive Command where
  | nothing
  | simple (line : Nat) (assignments words : List (List Part)) (redirects : List Redirect)
  /-- Each command reads what the one before it writes. -/
  | pipeline (cs : List Command)
  | negated (c : Command)
  | both (a b : Command)
  | either (a b : Command)
  | sequence (cs : List Command)
  /-- The script does not wait for the command. -/
  | background (line : Nat) (c : Command) (redirects : List Redirect)
  /-- The command runs in a process of its own. -/
  | subshell (line : Nat) (c : Command) (redirects : List Redirect)
  | redirected (line : Nat) (c : Command) (redirects : List Redirect)
  | branch (test yes no : Command)
  /-- Repeats while the test succeeds, or until it does. -/
  | loop (ends : Bool) (test body : Command)
  | each (line : Nat) (name : String) (words : List (List Part)) (body : Command)
  | select (line : Nat) (word : List Part) (arms : List (List (List Part) × Command))
  | function (line : Nat) (name : String) (body : Command)

end

def Redirect.channel : Redirect → Nat
  | .file channel _ _ | .same channel _ | .here channel _ => channel

def Command.isNothing : Command → Bool
  | .nothing => true
  | _ => false

instance : Inhabited Command := ⟨.nothing⟩
instance : Inhabited Part := ⟨.text "" false⟩

/-- A word: its parts in order. -/
abbrev Word := List Part

namespace Word

/-- The text of a word that has no other parts and no quotes. -/
def bare? : Word → Option String
  | [] => some ""
  | [.text cs false] => some cs
  | _ => none

def isQuoted (w : Word) : Bool :=
  w.any fun
    | .text _ quoted | .parameter _ _ quoted | .output _ quoted | .arithmetic _ quoted => quoted

def literal (w : Word) : String :=
  String.join (w.map fun
    | .text cs _ => cs
    | _ => "")

end Word

/-! ## Names -/

def isNameStart (c : Char) : Bool :=
  c.isAlpha || c == '_'

def isNameChar (c : Char) : Bool :=
  c.isAlphanum || c == '_'

def isName (s : String) : Bool :=
  match s.toList with
  | [] => false
  | c :: cs => isNameStart c && cs.all isNameChar

/-- The name that a text assigns to, and the value. -/
def assigned? (s : String) : Option (String × String) :=
  let name := (s.takeWhile isNameChar).toString
  let rest := s.drop name.length
  if rest.startsWith '=' && isName name then some (name, (rest.drop 1).toString) else none

def Word.isAssignment : Word → Bool
  | .text cs false :: _ => (assigned? cs).isSome
  | _ => false

end Shell
end SymbolIndex
