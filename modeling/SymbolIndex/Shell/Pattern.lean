/-!
# Patterns

- `Shell.Glyph` : a character of a word with what is left of its quotes
- `Shell.Matcher` : a star, a question mark, a set or a plain character
- `Shell.Pattern` : one text, or steps
- `Shell.Pattern.ofGlyphs` : the pattern that a word spells
- `Shell.Reading` : a text that is read from one of its ends, in search of what matches
- `Shell.Pattern.holds` : whether a text matches
- `Shell.Pattern.trim` : a text without what a pattern matches at its front or back
-/

namespace SymbolIndex
namespace Shell

/-- A character; a quoted one stands for itself. -/
structure Glyph where
  char : Char
  quoted : Bool
  deriving DecidableEq, Repr

def glyphText (gs : List Glyph) : String :=
  String.ofList (gs.map Glyph.char)

inductive Member where
  | range (low high : Char)
  /-- A class by its name. -/
  | named (name : String)
  deriving DecidableEq, Repr

/-- Whether a character belongs to the class with a name. -/
def isOfClass (name : String) (c : Char) : Bool :=
  match name with
  | "alpha" => c.isAlpha
  | "digit" => c.isDigit
  | "alnum" => c.isAlphanum
  | "upper" => c.isUpper
  | "lower" => c.isLower
  | "space" => c == ' ' || (0x09 ≤ c.toNat && c.toNat ≤ 0x0D)
  | "blank" => c == ' ' || c == '\t'
  | "cntrl" => c.toNat < 0x20 || c.toNat == 0x7F
  | "print" => 0x20 ≤ c.toNat && c.toNat < 0x7F
  | "graph" => 0x20 < c.toNat && c.toNat < 0x7F
  | "punct" => 0x20 < c.toNat && c.toNat < 0x7F && !c.isAlphanum
  | "xdigit" => c.isDigit || ('a' ≤ c && c ≤ 'f') || ('A' ≤ c && c ≤ 'F')
  | _ => false

def isClass (name : String) : Bool :=
  ["alpha", "digit", "alnum", "upper", "lower", "space", "blank", "cntrl", "print", "graph",
    "punct", "xdigit"].contains name

def Member.holds (c : Char) : Member → Bool
  | .range low high => low ≤ c && c ≤ high
  | .named name => isOfClass name c

inductive Matcher where
  | char (c : Char)
  /-- Any character. -/
  | one
  /-- Any text. -/
  | any
  | set (negated : Bool) (members : List Member)
  deriving DecidableEq, Repr

/-- Whether a step that stands for one character takes a character. -/
def Matcher.takes (d : Char) : Matcher → Bool
  | .char c => c == d
  | .one => true
  | .any => false
  | .set negated members => members.any (·.holds d) != negated

inductive Pattern where
  /-- One text. -/
  | exact (text : String)
  | steps (ms : List Matcher)
  deriving DecidableEq, Repr

namespace Pattern

/-- The class whose name stands in front, between colons, and what follows it. -/
def className? (gs : List Glyph) : Option (String × List Glyph) :=
  match gs with
  | ⟨':', false⟩ :: rest =>
    let name := rest.takeWhile fun g => g.char != ':' && g.char != ']'
    match rest.drop name.length with
    | ⟨':', _⟩ :: ⟨']', _⟩ :: after =>
      if isClass (glyphText name) then some (glyphText name, after) else none
    | _ => none
  | _ => none

/-- The members of a set and what follows it; nothing if it is not closed. A closing bracket at the
front is a member. -/
def members? : Nat → Bool → List Glyph → Option (List Member × List Glyph)
  | 0, _, _ => none
  | _, _, [] => none
  | fuel + 1, first, g :: rest =>
    if g.char == ']' && !g.quoted && !first then some ([], rest)
    else
      let named := if g.char == '[' && !g.quoted then className? rest else none
      match named with
      | some (name, rest) =>
        (members? fuel false rest).map fun (ms, after) => (.named name :: ms, after)
      | none =>
        match rest with
        | ⟨'-', false⟩ :: high :: after =>
          if high.char == ']' && !high.quoted then
            (members? fuel false rest).map fun (ms, after) => (.range g.char g.char :: ms, after)
          else (members? fuel false after).map fun (ms, after) =>
            (.range g.char high.char :: ms, after)
        | _ => (members? fuel false rest).map fun (ms, after) => (.range g.char g.char :: ms, after)

/-- Whether a set is negated, and what follows the sign for it. -/
def negation (gs : List Glyph) : Bool × List Glyph :=
  match gs with
  | ⟨'!', false⟩ :: rest => (true, rest)
  | _ => (false, gs)

def stepsOf : Nat → List Glyph → List Matcher
  | 0, _ => []
  | _, [] => []
  | fuel + 1, g :: rest =>
    if g.quoted then .char g.char :: stepsOf fuel rest
    else if g.char == '*' then .any :: stepsOf fuel rest
    else if g.char == '?' then .one :: stepsOf fuel rest
    else if g.char == '[' then
      let (negated, body) := negation rest
      match members? (body.length + 1) true body with
      | some (ms, after) => .set negated ms :: stepsOf fuel after
      | none => .char '[' :: stepsOf fuel rest
    else .char g.char :: stepsOf fuel rest

/-- Characters as plain text in which a backslash stands for quotes. One that a value brings along
quotes what follows it, too. `escaped` says that such a backslash stands before. -/
def spelling : Bool → List Glyph → List Char
  | _, [] => []
  | escaped, g :: gs =>
    if g.quoted then (if escaped then [g.char] else ['\\', g.char]) ++ spelling false gs
    else g.char :: spelling (g.char == '\\') gs

def ofSpelling : List Char → List Glyph
  | [] => []
  | ['\\'] => [⟨'\\', true⟩]
  | '\\' :: c :: cs => ⟨c, true⟩ :: ofSpelling cs
  | c :: cs => ⟨c, false⟩ :: ofSpelling cs

/-- Characters in which backslashes that values bring along are read as quotes. -/
def unescape (gs : List Glyph) : List Glyph :=
  ofSpelling (spelling false gs)

def ofGlyphs (gs : List Glyph) : Pattern :=
  .steps (stepsOf gs.length (unescape gs))

end Pattern

/-! ## Matching

Between two stars each step takes one character. So a text is matched by looking for these runs of
steps one after another, and the first place where a run fits is as good as any later one. -/

/-- A text and the direction in which it is read. -/
structure Reading where
  text : String
  forward : Bool

namespace Reading

def start (r : Reading) : String.Pos.Raw :=
  if r.forward then 0 else r.text.rawEndPos

def stop (r : Reading) : String.Pos.Raw :=
  if r.forward then r.text.rawEndPos else 0

/-- Whether one position is reached no later than another one. -/
def reachesFirst (r : Reading) (p q : String.Pos.Raw) : Bool :=
  if r.forward then p.byteIdx ≤ q.byteIdx else q.byteIdx ≤ p.byteIdx

/-- The same text, read from its other end. -/
def turned (r : Reading) : Reading :=
  { r with forward := !r.forward }

/-- The character that comes next, and where reading goes on behind it. -/
@[inline]
def next? (r : Reading) (p : String.Pos.Raw) : Option (Char × String.Pos.Raw) :=
  if p == r.stop then none
  else if r.forward then some (p.get r.text, p.next r.text)
  else some ((p.prev r.text).get r.text, p.prev r.text)

/-- Where reading goes on behind a run of steps that fits. -/
def eat? (r : Reading) : List Matcher → String.Pos.Raw → Option String.Pos.Raw
  | [], p => some p
  | m :: ms, p =>
    match r.next? p with
    | some (c, q) => if m.takes c then eat? r ms q else none
    | none => none

/-- The first place where a run of steps fits, and where reading goes on behind it. -/
def seek? (r : Reading) (run : List Matcher) :
    Nat → String.Pos.Raw → Option (String.Pos.Raw × String.Pos.Raw)
  | 0, _ => none
  | fuel + 1, p =>
    match r.eat? run p with
    | some q => some (p, q)
    | none =>
      match r.next? p with
      | some (_, q) => r.seek? run fuel q
      | none => none

/-- As many places as there may be to look at. -/
def fuel (r : Reading) : Nat :=
  r.text.length + 1

/-- Where reading goes on behind runs of steps that each have a star in front. -/
def pass? (r : Reading) : List (List Matcher) → String.Pos.Raw → Option String.Pos.Raw
  | [], p => some p
  | run :: runs, p => (r.seek? run r.fuel p).bind fun found => r.pass? runs found.2

/-- Whether runs of steps that each have a star in front take up the rest of the text. -/
def finishes (r : Reading) : List (List Matcher) → String.Pos.Raw → Bool
  | [], p => p == r.stop
  | [run], p => ((r.turned.eat? run.reverse r.stop).map (r.reachesFirst p)).getD false
  | run :: runs, p => ((r.seek? run r.fuel p).map fun found => r.finishes runs found.2).getD false

/-- Where the shortest part ends that runs of steps with stars between them match from the start
on. -/
def shortest? (r : Reading) : List (List Matcher) → Option String.Pos.Raw
  | [] => none
  | run :: runs => (r.eat? run r.start).bind (r.pass? runs)

/-- Where the longest part starts that runs of steps with stars between them match up to the end. -/
def longest? (r : Reading) : List (List Matcher) → Option String.Pos.Raw
  | [] => none
  | run :: runs =>
    -- what fits later leaves less for the other runs
    match r.seek? run r.fuel r.start with
    | some (p, q) => if r.finishes runs q then some p else none
    | none => none

end Reading

namespace Pattern

def holds : Pattern → String → Bool
  | .exact text, s => text == s
  | .steps ms, s =>
    let r : Reading := ⟨s, true⟩
    match ms.splitOn .any with
    | [] => false
    | [run] => r.eat? run r.start == some r.stop
    | run :: runs => ((r.eat? run r.start).map (r.finishes runs)).getD false

/-- Where the part ends or starts that steps match at the front or at the back of a text. -/
def edge? (front longest : Bool) (ms : List Matcher) (s : String) : Option String.Pos.Raw :=
  let near : Reading := ⟨s, front⟩
  -- the longest part is looked for from the other end
  let far := near.turned
  let runs := ms.splitOn .any
  let backward := (ms.reverse).splitOn .any
  if longest && 1 < runs.length then far.longest? (if front then backward else runs)
  else near.shortest? (if front then runs else backward)

/-- A text without its front or back up to a position. -/
def cut (front : Bool) (s : String) (p : String.Pos.Raw) : String :=
  if front then p.extract s s.rawEndPos else (0 : String.Pos.Raw).extract s p

/-- A text without the shortest or longest part that matches at its front or back. -/
def trim (front longest : Bool) (p : Pattern) (s : String) : String :=
  match p with
  | .exact text =>
    if front then (if s.startsWith text then cut true s text.rawEndPos else s)
    else if s.endsWith text then cut false s ⟨s.utf8ByteSize - text.utf8ByteSize⟩
    else s
  | .steps ms => ((edge? front longest ms s).map (cut front s)).getD s

/-- How much there is to do to look through so many bytes. -/
def effort (p : Pattern) (bytes : Nat) : Nat :=
  match p with
  | .exact _ => 0
  | .steps ms => ms.length + if ms.contains .any then bytes / 8 else 0

end Pattern

def hasWildcard : List Glyph → Bool
  | [] => false
  | g :: gs =>
    (!g.quoted && (g.char == '*' || g.char == '?' || (g.char == '[' && gs.any (·.char == ']')))) ||
      hasWildcard gs

end Shell
end SymbolIndex
