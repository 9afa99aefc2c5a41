import SymbolIndex.Shell.Format
import SymbolIndex.Shell.Tool.Basic

/-!
# Exchanging characters

- `Shell.LetterItem` : a part of a set of characters, as it is written
- `Shell.LetterItem.readAll` : the parts of a text
- `Shell.tr` : exchanges, deletes or squeezes characters
-/

namespace SymbolIndex
namespace Shell

inductive LetterItem where
  /-- Characters in order. -/
  | run (cs : List Char)
  /-- A class of characters with a name. -/
  | named (name : String)
  /-- A character as often as the number says, or as often as it takes. -/
  | times (c : Char) (count : Option Nat)
  deriving DecidableEq, Repr

namespace LetterItem

/-- All characters, which are bytes. -/
def everything : List Char :=
  (List.range 256).map Char.ofNat

def class? (name : String) : Option (Char → Bool) :=
  let isPlain (c : Char) : Bool := 0x20 < c.toNat && c.toNat < 0x7F
  match name with
  | "alpha" => some Char.isAlpha
  | "digit" => some Char.isDigit
  | "alnum" => some Char.isAlphanum
  | "upper" => some Char.isUpper
  | "lower" => some Char.isLower
  | "space" => some isSpaceChar
  | "blank" => some fun c => c == ' ' || c == '\t'
  | "punct" => some fun c => isPlain c && !c.isAlphanum
  | "print" => some fun c => isPlain c || c == ' '
  | "graph" => some isPlain
  | "cntrl" => some fun c => c.toNat < 0x20 || c.toNat == 0x7F
  | "xdigit" => some fun c => isDigitOf 16 c
  | _ => none

/-- The characters of a part. A part that is as long as it takes gets the length that is left. -/
def letters (left : Nat) : LetterItem → List Char
  | .run cs => cs
  | .named name => everything.filter ((class? name).getD fun _ => false)
  | .times c count => List.replicate (count.getD left) c

/-- A character and whether a backslash stands in front of it. -/
abbrev Marked := Char × Bool

def marked : Nat → List Char → List Marked
  | 0, _ => []
  | _, [] => []
  | fuel + 1, '\\' :: rest =>
    match rest with
    | [] => [('\\', false)]
    | c :: after =>
      if isDigitOf 8 c then
        -- three digits may be too many for a byte
        let most := if 255 < digitsValue 8 ((rest.take 3).takeWhile (isDigitOf 8)) then 2 else 3
        let (d, after) := octal most rest
        (d, true) :: marked fuel after
      else
        (if c == 'e' then c else (letterEscape? c).getD c, true) :: marked fuel after
  | fuel + 1, c :: rest => (c, false) :: marked fuel rest

def plain (ms : List Marked) : String :=
  String.ofList (ms.map Prod.fst)

/-- What stands between a bracket with a mark and the next mark with a bracket, and the rest. -/
def bracketed? (mark : Char) : List Marked → Option (List Marked × List Marked)
  | [] => none
  | m :: rest =>
    match rest with
    | (']', false) :: after => if m == (mark, false) then some ([], after) else none
    | _ => none

/-- What stands in front of the next mark with a bracket, and the rest. -/
def untilMark (mark : Char) : List Marked → Option (List Marked × List Marked)
  | [] => none
  | m :: rest =>
    match bracketed? mark (m :: rest) with
    | some found => some found
    | none => (untilMark mark rest).map fun (inside, after) => (m :: inside, after)

/-- How often a character in brackets is repeated, and the rest. -/
def times? : List Marked → Option (Option Nat × List Marked)
  | ms =>
    let digits := ms.takeWhile fun m => m.1.isDigit && !m.2
    match ms.drop digits.length with
    | (']', false) :: rest =>
      let cs := digits.map Prod.fst
      let n := digitsValue (if cs.head? == some '0' then 8 else 10) cs
      some (if n = 0 then none else some n, rest)
    | _ => none

def next : List Marked → Except String (LetterItem × List Marked)
  | ('[', false) :: (':', false) :: rest =>
    match untilMark ':' rest with
    | some ([], _) => .error "missing character class name '[::]'"
    | some (inside, after) =>
      if (class? (plain inside)).isSome then .ok (.named (plain inside), after)
      else .error ("invalid character class " ++ quoteText (plain inside))
    | none => .ok (.run ['['], (':', false) :: rest)
  | ('[', false) :: ('=', false) :: rest =>
    match untilMark '=' rest with
    | some ([], _) => .error "missing equivalence class character '[==]'"
    | some ([m], after) => .ok (.run [m.1], after)
    | some (inside, _) =>
      .error (plain inside ++ ": equivalence class operand must be a single character")
    | none => .ok (.run ['['], ('=', false) :: rest)
  | ('[', false) :: c :: ('*', false) :: rest =>
    match times? rest with
    | some (count, after) => .ok (.times c.1 count, after)
    | none => .ok (.run ['['], c :: ('*', false) :: rest)
  | a :: ('-', false) :: b :: rest =>
    if b.1.toNat < a.1.toNat then
      .error ("range-endpoints of " ++ quoteText (String.ofList [a.1, '-', b.1]) ++
        " are in reverse collating sequence order")
    else .ok (.run (everything.filter fun c => a.1.toNat ≤ c.toNat && c.toNat ≤ b.1.toNat), rest)
  | m :: rest => .ok (.run [m.1], rest)
  | [] => .ok (.run [], [])

def readMarked : Nat → List Marked → Except String (List LetterItem)
  | 0, _ => .ok []
  | _, [] => .ok []
  | fuel + 1, ms => do
    let (item, rest) ← next ms
    return item :: (← readMarked fuel rest)

def readAll (text : String) : Except String (List LetterItem) :=
  let cs := text.toList
  readMarked (cs.length + 1) (marked (cs.length + 1) cs)

/-- The characters of parts; `size` is the length that is wanted of them. -/
def allLetters (size : Nat) (items : List LetterItem) : List Char :=
  let fixed := (items.map fun i => (i.letters 0).length).foldl (· + ·) 0
  items.flatMap (letters (size - fixed))

end LetterItem

structure Exchange where
  /-- The characters that are removed. -/
  removes : Char → Bool
  /-- What a character becomes. -/
  becomes : Char → Char
  /-- The characters of which only one is kept in a row. -/
  squeezes : Char → Bool

def Exchange.apply (e : Exchange) (cs : List Char) : List Char :=
  let kept := (cs.filter fun c => !e.removes c).map e.becomes
  let (written, _) := kept.foldl (fun (written, last) c =>
    if some c == last && e.squeezes c then (written, last) else (c :: written, some c))
      (([] : List Char), none)
  written.reverse

/-- What is exchanged for what: the last character of the second list stands for all that come after
it. -/
def exchanged (old new : List Char) (c : Char) : Char :=
  let pairs := old.zip (new ++ List.replicate (old.length - new.length) (new.getLast?.getD c))
  -- the last mention counts
  ((pairs.reverse.find? (·.1 == c)).map Prod.snd).getD c

def Exchange.ofParsed (p : Parsed) : Except String Exchange := do
  let complement := p.has 'c' || p.has 'C'
  let deletes := p.has 'd'
  let squeezes := p.has 's'
  let first ← LetterItem.readAll (p.operands.headD "")
  let chosen := LetterItem.allLetters 0 first
  let chosen := if complement then LetterItem.everything.filter fun c => !chosen.contains c
    else chosen
  match p.operands.tail with
  | [] =>
    return { removes := fun c => deletes && chosen.contains c
             becomes := id
             squeezes := fun c => squeezes && !deletes && chosen.contains c }
  | text :: _ =>
    let second ← LetterItem.readAll text
    if deletes then
      let others := LetterItem.allLetters 0 second
      return { removes := chosen.contains, becomes := id, squeezes := others.contains }
    let strange := second.any fun i =>
      match i with
      | .named name => name ≠ "upper" && name ≠ "lower"
      | _ => false
    if strange then
      throw ("when translating, the only character classes that may appear in\n" ++
        "string2 are 'upper' and 'lower'")
    let others := LetterItem.allLetters chosen.length second
    let chosen := if p.has 't' then chosen.take others.length else chosen
    if others.isEmpty && !chosen.isEmpty then
      throw "when not truncating set1, string2 must be non-empty"
    let table := LetterItem.everything.map (exchanged chosen others)
    return { removes := fun _ => false
             becomes := fun c => (table[c.toNat]?).getD c
             squeezes := fun c => squeezes && others.contains c }

def tr (name : String) (args : List String) : Act Nat := do
  let flags : List Flag :=
    [ ⟨'c', "complement", .nothing⟩, ⟨'C', "", .nothing⟩, ⟨'d', "delete", .nothing⟩,
      ⟨'s', "squeeze-repeats", .nothing⟩, ⟨'t', "truncate-set1", .nothing⟩ ]
  withLeadingOptions name flags args 1 fun p => do
    let deletes := p.has 'd'
    let squeezes := p.has 's'
    let least := if deletes == squeezes then 2 else 1
    let most := if deletes && !squeezes then 1 else 2
    match p.operands with
    | [] => misuse name "missing operand" 1
    | operands =>
      if operands.length < least then
        let why := if squeezes then "both deleting and squeezing repeats." else "translating."
        return ← misuse name ("missing operand after " ++ quoteText (operands.getLast?.getD "") ++
          "\nTwo strings must be given when " ++ why) 1
      if let some extra := operands[most]? then
        let why :=
          if operands.length = 2 then
            "\nOnly one string may be given when deleting without squeezing repeats."
          else ""
        return ← misuse name ("extra operand " ++ quoteText extra ++ why) 1
      match Exchange.ofParsed p with
      | .error message =>
        toolSays name message
        return 1
      | .ok e =>
        match ← drain 0 with
        | .error t =>
          toolSays name ("read error: " ++ t.message)
          return 1
        | .ok bytes => writeOutText name (String.ofList (e.apply (Octets.ofBytes bytes).toList))

end Shell
end SymbolIndex
