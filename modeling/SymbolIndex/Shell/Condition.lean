import SymbolIndex.Shell.Arithmetic
import SymbolIndex.Shell.System

/-!
# Conditions

- `Shell.Operator` : the operators of `test`
- `Shell.Condition.either` : expressions joined by operators, read from the front of the arguments
- `Shell.test` : whether a condition holds
-/

namespace SymbolIndex
namespace Shell

inductive Operator where
  /-- On one argument. -/
  | unary (letter : Char)
  /-- Between two arguments. -/
  | binary (text : String)
  | not
  | both
  | either
  | open
  | close
  deriving DecidableEq, Repr

namespace Operator

def binaries : List String :=
  ["=", "!=", "<", ">", "-eq", "-ne", "-ge", "-gt", "-le", "-lt", "-nt", "-ot", "-ef"]

def mayStart (c : Char) : Bool :=
  c == '-' || c == '=' || c == '!' || c == '<' || c == '>' || c == '(' || c == ')'

def ofText? (s : String) : Option Operator :=
  if !mayStart s.front then none else
  match s with
  | "!" => some .not
  | "-a" => some .both
  | "-o" => some .either
  | "(" => some .open
  | ")" => some .close
  | _ =>
    if binaries.contains s then some (.binary s)
    else
      match s.toList with
      | ['-', c] => if "rwxefdcbpugkstznhOGLS".toList.contains c then some (.unary c) else none
      | _ => none

def isBinary : Operator → Bool
  | .binary _ => true
  | _ => false

def isUnary : Operator → Bool
  | .unary _ => true
  | _ => false

end Operator

inductive Lexed where
  | finish
  | operand
  | operator (o : Operator)
  deriving DecidableEq, Repr

namespace Condition

/-- Whether an operator on one argument is rather an argument itself. -/
def isOperand : List String → Bool
  | [] => true
  | [_] => false
  | s :: _ :: _ => ((Operator.ofText? s).map Operator.isBinary).getD false

def lex : List String → Lexed
  | [] => .finish
  | s :: rest =>
    match Operator.ofText? s with
    | none => .operand
    | some o =>
      if o.isUnary && isOperand rest then .operand
      else if o = .open && rest.isEmpty then .operand
      else .operator o

def integer (s : String) : Act Int := do
  match Numeral.whole? (some 10) s with
  | some n => return n
  | none => fail ("Illegal number: " ++ s)

def unary (letter : Char) (s : String) : Act Bool := do
  if letter == 'n' then return s != ""
  if letter == 'z' then return s == ""
  if letter == 't' then
    let _ ← integer s
    return false
  if letter == 's' then let _ ← currentStore
  match letter, ← standing? s with
  | _, none => return false
  | 'h', _ | 'L', _ => return (← channelAt? s).isSome
  | 'e', _ | 'r', _ | 'w', _ | 'O', _ | 'G', _ => return true
  | 'p', some .pipe => return true
  | 'f', some (.entry e) => return e.isFile
  | 'd', some (.entry e) => return e.isDir
  | 's', some (.entry (.file id)) => return !((← ownTree).file id).bytes.isEmpty
  | 's', some (.entry (.program _)) | 's', some (.entry (.dir _)) => return true
  | 'x', some (.entry e) => return (← ownTree).isExecutable e || e.isDir
  | 'c', some (.entry (.device _)) => return true
  | _, _ => return false

def binary (op a b : String) : Act Bool := do
  let compare (f : Int → Int → Bool) : Act Bool := do
    let x ← integer a
    return f x (← integer b)
  match op with
  | "=" => return a == b
  | "!=" => return a != b
  | "<" => return a < b
  | ">" => return b < a
  | "-eq" => compare fun x y => x == y
  | "-ne" => compare fun x y => x != y
  | "-ge" => compare fun x y => y ≤ x
  | "-gt" => compare fun x y => y < x
  | "-le" => compare fun x y => x ≤ y
  | "-lt" => compare fun x y => x < y
  | _ =>
    let store ← ownTree
    let changes ← asksSystem System.changes
    -- what was there before all else is older than all else
    let time (place : List String) : Nat :=
      let subject := subjectAt store place.reverse
      ((changes.find? (·.subject == subject)).map fun c => c.time / (4 * millisecond) + 1).getD 0
    match store.resolve (Octets.toText a), store.resolve (Octets.toText b) with
    | .ok x, .ok y =>
      match op with
      | "-nt" => return time y < time x
      | "-ot" => return time x < time y
      | _ => return subjectAt store x.reverse = subjectAt store y.reverse
    | _, _ => return false

/-- Conditions inside each other. They return what stands from their last argument on. -/
structure Inner where
  either : Lexed → List String → Act (Bool × List String)
  negated : Lexed → List String → Act (Bool × List String)

def primary (c : Inner) (n : Lexed) (ws : List String) : Act (Bool × List String) := do
  match n, ws with
  | .finish, _ => return (false, ws)
  | .operator .open, _ :: ws =>
    let inner := lex ws
    if inner = .operator .close then return (false, ws)
    let (b, ws) ← c.either inner ws
    match ws with
    | _ :: ws =>
      if lex ws ≠ .operator .close then fail "closing paren expected"
      return (b, ws)
    | [] => fail "closing paren expected"
  | .operator (.unary letter), w :: ws =>
    match ws with
    | [] => fail (w ++ ": argument expected")
    | s :: _ => return (← unary letter s, ws)
  | _, a :: rest =>
    match lex rest, rest with
    | .operator (.binary op), _ :: b :: more => return (← binary op a b, b :: more)
    | .operator (.binary op), _ => fail (op ++ ": argument expected")
    | _, _ => return (a != "", ws)
  | _, [] => return (false, ws)

def negated (c : Inner) (n : Lexed) (ws : List String) : Act (Bool × List String) := do
  if n ≠ .operator .not then return ← primary c n ws
  let next := lex ws.tail
  let (b, ws) ← c.negated next (if next = .finish then ws else ws.tail)
  return (!b, ws)

def bothWith (c : Inner) : Nat → Bool → Lexed → List String → Act (Bool × List String)
  | 0, acc, _, ws => return (acc, ws)
  | fuel + 1, acc, n, ws => do
    let (b, ws) ← negated c n ws
    let acc := acc && b
    if lex ws.tail ≠ .operator .both then return (acc, ws)
    let ws := ws.drop 2
    bothWith c fuel acc (lex ws) ws

def eitherWith (c : Inner) : Nat → Bool → Lexed → List String → Act (Bool × List String)
  | 0, acc, _, ws => return (acc, ws)
  | fuel + 1, acc, n, ws => do
    let (b, ws) ← bothWith c (fuel + 1) true n ws
    let acc := acc || b
    if lex ws.tail ≠ .operator .either then return (acc, ws)
    let ws := ws.drop 2
    eitherWith c fuel acc (lex ws) ws

def inner : Nat → Inner
  | 0 => ⟨fun _ ws => return (false, ws), fun _ ws => return (false, ws)⟩
  | n + 1 =>
    { either := fun t ws => eitherWith (inner n) (n + 2) false t ws
      negated := fun t ws => negated (inner n) t ws }

/-- Conditions joined by operators, and what stands from the last argument on. -/
def either (n : Lexed) (ws : List String) : Act (Bool × List String) :=
  (inner (ws.length + 2)).either n ws

/-- The value of a condition; arguments must not be left over. -/
def whole (n : Lexed) (ws : List String) : Act Bool := do
  let (b, rest) ← either n ws
  match rest with
  | a :: _ :: _ =>
    if a = "" then fail "unexpected operator" else fail (a ++ ": unexpected operator")
  | _ => return b

/-- Whether the arguments hold, or whether they do not if that is asked for. The number of arguments
decides how they are read. -/
def holds : Nat → Bool → List String → Act Bool
  | 0, _, _ => return false
  | _, _, [] => return false
  | fuel + 1, negates, ws => do
    let n := ws.length
    let middle := (ws[1]?).bind Operator.ofText?
    if n = 3 && (middle.map Operator.isBinary).getD false then
      return (← whole .operand ws) != negates
    else if (n = 3 || n = 4) && ws.head? == some "(" && ws.getLast? == some ")" then
      let ws := ws.tail.dropLast
      return (← whole (lex ws) ws) != negates
    -- a second sign does not undo the first one
    else if (n = 3 || n = 4) && ws.head? == some "!" then holds fuel true ws.tail
    else return (← whole (lex ws) ws) != negates

end Condition

def test (name : String) (args : List String) : Act Nat := do
  let args ←
    if name = "[" then do
      if !(args.getLast?.getD "").startsWith ']' then fail "missing ]"
      pure args.dropLast
    else pure args
  return if ← Condition.holds (args.length + 1) false args then 0 else 1

end Shell
end SymbolIndex
