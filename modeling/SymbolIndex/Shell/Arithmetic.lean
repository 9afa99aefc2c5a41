/-!
# Arithmetic

Expressions over integers of 64 bits that wrap around.

- `Shell.Numeral.scan` : the integer at the front of a text
- `Shell.Sum` : expressions with variables
- `Shell.Sum.parse` : the expression that a text spells, up to what is missing in it
- `Shell.Sum.eval` : its value, and the variables that it sets
-/

namespace SymbolIndex
namespace Shell

/-! ## Numerals -/

/-- An integer at the front of a text. -/
structure Numeral where
  value : Int
  rest : List Char
  /-- Whether there are digits. -/
  found : Bool
  /-- Whether the integer fits into 64 bits. -/
  fits : Bool

/-- The value of a digit. What is no digit has a greater value than all digits. -/
def digitValue (c : Char) : Nat :=
  if c.isDigit then c.toNat - 0x30
  else if 'a' ≤ c && c ≤ 'z' then c.toNat - 0x61 + 10
  else if 'A' ≤ c && c ≤ 'Z' then c.toNat - 0x41 + 10
  else 36

def isDigitOf (base : Nat) (c : Char) : Bool :=
  digitValue c < base

def digitsValue (base : Nat) (ds : List Char) : Nat :=
  ds.foldl (fun n c => base * n + digitValue c) 0

def isSpaceChar (c : Char) : Bool :=
  c == ' ' || (0x09 ≤ c.toNat && c.toNat ≤ 0x0D)

def maxInteger : Int := 9223372036854775807

def minInteger : Int := -9223372036854775808

/-- The integer that differs from another one by a multiple of the number of integers. A small one
stays. -/
def wrap (n : Int) : Int :=
  if n.natAbs < 1073741824 then n else n.bmod 18446744073709551616

namespace Numeral

/-- The base of a number and its digits. A number may say its base, unless that is fixed. -/
def based (base : Option Nat) (cs : List Char) : Nat × List Char :=
  match base, cs with
  | some b, cs => (b, cs)
  | none, '0' :: x :: d :: rest =>
    if (x == 'x' || x == 'X') && isDigitOf 16 d then (16, d :: rest) else (8, cs)
  | none, '0' :: _ => (8, cs)
  | none, _ => (10, cs)

/-- The integer at the front of a text, behind blanks and a sign. -/
def scan (base : Option Nat) (cs : List Char) : Numeral :=
  let body := cs.dropWhile isSpaceChar
  let (negative, body) : Bool × List Char :=
    match body with
    | '-' :: rest => (true, rest)
    | '+' :: rest => (false, rest)
    | rest => (false, rest)
  let (b, body) := based base body
  let digits := body.takeWhile (isDigitOf b)
  if digits.isEmpty then ⟨0, cs, false, true⟩
  else
    let n := digitsValue b digits
    let rest := body.drop digits.length
    if negative then
      if n ≤ minInteger.natAbs then ⟨-n, rest, true, true⟩ else ⟨minInteger, rest, true, false⟩
    else if n ≤ maxInteger.natAbs then ⟨n, rest, true, true⟩
    else ⟨maxInteger, rest, true, false⟩

/-- The integer that a text spells from its front to its end. Nothing counts as zero if no base is
fixed. -/
def whole? (base : Option Nat) (s : String) : Option Int :=
  let n := scan base s.toList
  if n.fits && (n.found || base.isNone) && (n.rest.dropWhile isSpaceChar).isEmpty then some n.value
  else none

end Numeral

/-! ## Expressions -/

inductive BinaryOp where
  | times
  | over
  | modulo
  | plus
  | minus
  | left
  | right
  | less
  | greater
  | atMost
  | atLeast
  | same
  | differs
  | bitAnd
  | bitXor
  | bitOr
  deriving DecidableEq, Repr

namespace BinaryOp

/-- How tightly an operator binds; low ones bind first. -/
def level : BinaryOp → Nat
  | .times | .over | .modulo => 0
  | .plus | .minus => 1
  | .left | .right => 2
  | .less | .greater | .atMost | .atLeast => 3
  | .same | .differs => 4
  | .bitAnd => 5
  | .bitXor => 6
  | .bitOr => 7

def bits (n : Int) : Nat :=
  (n.emod 18446744073709551616).toNat

/-- The value for two operands; nothing for a division by zero. -/
def apply (op : BinaryOp) (a b : Int) : Option Int :=
  let truth (p : Bool) : Option Int := some (if p then 1 else 0)
  match op with
  | .times => some (wrap (a * b))
  | .over => if b = 0 then none else some (wrap (a.tdiv b))
  | .modulo => if b = 0 then none else some (wrap (a.tmod b))
  | .plus => some (wrap (a + b))
  | .minus => some (wrap (a - b))
  | .left => some (wrap (a * (Nat.pow 2 (bits b % 64) : Nat)))
  | .right => some (a.fdiv (Nat.pow 2 (bits b % 64) : Nat))
  | .less => truth (a < b)
  | .greater => truth (b < a)
  | .atMost => truth (a ≤ b)
  | .atLeast => truth (b ≤ a)
  | .same => truth (a = b)
  | .differs => truth (a ≠ b)
  | .bitAnd => some (wrap (bits a &&& bits b : Nat))
  | .bitXor => some (wrap (bits a ^^^ bits b : Nat))
  | .bitOr => some (wrap (bits a ||| bits b : Nat))

end BinaryOp

inductive Gap where
  | operand
  | closing
  | colon
  deriving DecidableEq, Repr

def Gap.message : Gap → String
  | .operand => "expecting primary"
  | .closing => "expecting ')'"
  | .colon => "expecting ':'"

/-- Expressions with variables. An expression may break off, but what stands before the gap
counts. -/
inductive Sum where
  | number (n : Int)
  | named (name : String)
  | negative (e : Sum)
  | inverse (e : Sum)
  | isZero (e : Sum)
  | binary (op : BinaryOp) (a b : Sum)
  | both (a b : Sum)
  | either (a b : Sum)
  | choose (c a b : Sum)
  /-- Sets a variable, possibly to its value combined with another one. -/
  | assign (name : String) (op : Option BinaryOp) (e : Sum)
  /-- Something is missing behind an expression. -/
  | broken (e : Sum) (gap : Gap)

namespace Sum

inductive Token where
  | number (n : Int)
  | named (name : String)
  | binary (op : BinaryOp)
  | assign (op : Option BinaryOp)
  | both
  | either
  | bang
  | tilde
  | question
  | colon
  | open
  | close
  | bad
  deriving DecidableEq, Repr

/-- The operators, those that start like a shorter one first. -/
def operators : List (String × Token) :=
  [ ("<<=", .assign (some .left)), (">>=", .assign (some .right)), ("<<", .binary .left),
    (">>", .binary .right), ("<=", .binary .atMost), (">=", .binary .atLeast),
    ("==", .binary .same), ("!=", .binary .differs), ("&&", .both), ("||", .either),
    ("*=", .assign (some .times)), ("/=", .assign (some .over)), ("%=", .assign (some .modulo)),
    ("+=", .assign (some .plus)), ("-=", .assign (some .minus)), ("&=", .assign (some .bitAnd)),
    ("^=", .assign (some .bitXor)), ("|=", .assign (some .bitOr)), ("<", .binary .less),
    (">", .binary .greater), ("*", .binary .times), ("/", .binary .over), ("%", .binary .modulo),
    ("+", .binary .plus), ("-", .binary .minus), ("&", .binary .bitAnd), ("^", .binary .bitXor),
    ("|", .binary .bitOr), ("=", .assign none), ("!", .bang), ("~", .tilde), ("?", .question),
    (":", .colon), ("(", .open), (")", .close) ]

def spelledOperators : List (List Char × Token) :=
  operators.map fun o => (o.1.toList, o.2)

def tokens : Nat → List Char → List Token
  | 0, _ => []
  | _, [] => []
  | fuel + 1, c :: rest =>
    let cs := c :: rest
    if c == ' ' || c == '\t' || c == '\n' then tokens fuel rest
    else if c.isDigit then
      let n := Numeral.scan none cs
      .number n.value :: tokens fuel n.rest
    else if c.isAlpha || c == '_' then
      let isNameChar (c : Char) : Bool := c.isAlphanum || c == '_'
      .named (String.ofList (cs.takeWhile isNameChar)) :: tokens fuel (cs.dropWhile isNameChar)
    else
      match spelledOperators.find? fun o => o.1.isPrefixOf cs with
      | some (text, t) => t :: tokens fuel (cs.drop text.length)
      | none => [.bad]

structure Inner where
  assignment : List Token → Sum × List Token
  conditional : List Token → Sum × List Token
  disjunction : List Token → Sum × List Token
  conjunction : List Token → Sum × List Token
  primary : List Token → Sum × List Token

def noOperand : Sum × List Token :=
  (.broken (.number 0) .operand, [])

def primary (p : Inner) : List Token → Sum × List Token
  | .number n :: ts => (.number n, ts)
  | .named x :: ts => (.named x, ts)
  | .binary .plus :: ts => p.primary ts
  | .binary .minus :: ts =>
    let (e, ts) := p.primary ts
    (.negative e, ts)
  | .bang :: ts =>
    let (e, ts) := p.primary ts
    (.isZero e, ts)
  | .tilde :: ts =>
    let (e, ts) := p.primary ts
    (.inverse e, ts)
  | .open :: ts =>
    match p.assignment ts with
    | (e, .close :: ts) => (e, ts)
    | (e, _) => (.broken e .closing, [])
  | _ => noOperand

/-- Joins an operand to those on its left: operators that bind no looser than the next one are
applied first. -/
def reduce (level : Nat) : List (Sum × BinaryOp) → Sum → List (Sum × BinaryOp) × Sum
  | [], e => ([], e)
  | (a, op) :: stack, e =>
    if op.level ≤ level then reduce level stack (.binary op a e) else ((a, op) :: stack, e)

/-- Operands and operators, with those whose right operand is still missing. -/
def binaryWith (p : Inner) : Nat → List (Sum × BinaryOp) → List Token → Sum × List Token
  | 0, _, _ => noOperand
  | fuel + 1, stack, ts =>
    let (e, ts) := primary p ts
    match ts with
    | .binary op :: rest =>
      let (stack, e) := reduce op.level stack e
      binaryWith p fuel ((e, op) :: stack) rest
    | _ => ((reduce 8 stack e).2, ts)

def conjunction (p : Inner) (ts : List Token) : Sum × List Token :=
  match binaryWith p (ts.length + 1) [] ts with
  | (a, .both :: ts) =>
    let (b, ts) := p.conjunction ts
    (.both a b, ts)
  | found => found

def disjunction (p : Inner) (ts : List Token) : Sum × List Token :=
  match conjunction p ts with
  | (a, .either :: ts) =>
    let (b, ts) := p.disjunction ts
    (.either a b, ts)
  | found => found

def conditional (p : Inner) (ts : List Token) : Sum × List Token :=
  match disjunction p ts with
  | (c, .question :: ts) =>
    match p.assignment ts with
    | (a, .colon :: ts) =>
      let (b, ts) := p.conditional ts
      (.choose c a b, ts)
    | (a, _) => (.choose c a (.broken (.number 0) .colon), [])
  | found => found

def assignment (p : Inner) : List Token → Sum × List Token
  | .named x :: .assign op :: ts =>
    let (e, ts) := p.assignment ts
    (.assign x op e, ts)
  | ts => conditional p ts

/-- The parsers for expressions inside each other up to a depth. -/
def inner : Nat → Inner
  | 0 =>
    let deep (_ : List Token) : Sum × List Token := noOperand
    ⟨deep, deep, deep, deep, deep⟩
  | n + 1 =>
    { assignment := fun ts => assignment (inner n) ts
      conditional := fun ts => conditional (inner n) ts
      disjunction := fun ts => disjunction (inner n) ts
      conjunction := fun ts => conjunction (inner n) ts
      primary := fun ts => primary (inner n) ts }

/-- The expression in front of a text, up to its first gap, and what follows it. -/
def parse (s : String) : Sum × List Token :=
  let ts := tokens (s.length + 1) s.toList
  (inner (ts.length + 2)).assignment ts

inductive Fault where
  | divisionByZero
  /-- The value of a variable is no number. -/
  | notANumber (value : String)
  | missing (gap : Gap)
  deriving DecidableEq, Repr

/-- Evaluation: the variables that are set, newest first, and a value or a fault. -/
abbrev Eval := ExceptT Fault (StateM (List (String × Int)))

/-- The value of a variable, which may have been set by the expression itself. -/
def look (read : String → String) (x : String) : Eval Int := do
  match (← get).find? (·.1 == x) with
  | some (_, n) => return n
  | none =>
    match Numeral.whole? none (read x) with
    | some n => return n
    | none => throw (.notANumber (read x))

def combine (op : BinaryOp) (a b : Int) : Eval Int :=
  match op.apply a b with
  | some n => return n
  | none => throw .divisionByZero

/-- The value of an expression. One that does not count, which `live` says, is only looked through
for gaps. -/
def eval (read : String → String) (live : Bool) : Sum → Eval Int
  | .number n => return n
  | .named x => if live then look read x else return 0
  | .negative e => return wrap (-(← eval read live e))
  | .inverse e => return wrap (-(← eval read live e) - 1)
  | .isZero e => return if (← eval read live e) = 0 then 1 else 0
  | .binary op a b => do
    let x ← eval read live a
    let y ← eval read live b
    if live then combine op x y else return 0
  | .both a b => do
    let x ← eval read live a
    let y ← eval read (live && x ≠ 0) b
    return if x = 0 || y = 0 then 0 else 1
  | .either a b => do
    let x ← eval read live a
    let y ← eval read (live && x = 0) b
    return if x = 0 && y = 0 then 0 else 1
  | .choose c a b => do
    let z ← eval read live c
    let x ← eval read (live && z ≠ 0) a
    let y ← eval read (live && z = 0) b
    return if z = 0 then y else x
  | .assign x op e => do
    let n ← eval read live e
    if !live then return 0
    let value ←
      match op with
      | none => pure n
      | some op => combine op (← look read x) n
    modify ((x, value) :: ·)
    return value
  | .broken e gap => do
    let _ ← eval read live e
    throw (.missing gap)

end Sum
end Shell
end SymbolIndex
