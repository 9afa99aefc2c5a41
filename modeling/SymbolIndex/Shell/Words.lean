import SymbolIndex.Shell.Reader

/-!
# Words of scripts

- `Shell.Mode` : where characters stand, which decides what they mean
- `Shell.Extent` : where a list of commands ends
- `Shell.Grammar` : how words and commands inside a word are read
- `Shell.scanWith` : the characters of a word up to its end
- `Shell.dollar`, `Shell.quotedCommand` : what a dollar sign and what backquotes start
- `Shell.hereText` : the lines of a text of the script
-/

namespace SymbolIndex
namespace Shell

inductive Mode where
  /-- Outside quotes. With `mark`, dollar signs and backquotes mean nothing. -/
  | plain (mark : Bool)
  /-- In braces after a parameter, outside quotes. -/
  | brace
  /-- In double quotes, which may stand in such braces. -/
  | quote (inBrace : Bool)
  /-- In double quotes where dollar signs and backquotes mean nothing. -/
  | quotedMark
  /-- In braces after a parameter that is quoted, in a text of the script if `here` is set. -/
  | quotedBrace (here : Bool)
  /-- In a text of the script. -/
  | here
  | arithmetic
  deriving DecidableEq, Repr

namespace Mode

def isQuoted : Mode → Bool
  | .plain _ | .brace => false
  | _ => true

def isMark : Mode → Bool
  | .plain mark => mark
  | .quotedMark => true
  | _ => false

def isBrace : Mode → Bool
  | .brace | .quotedBrace _ => true
  | _ => false

def isInBrace : Mode → Bool
  | .brace | .quotedBrace _ | .quote true => true
  | _ => false

/-- The mode of the word in the braces after a parameter. -/
def inner : Mode → Mode
  | .plain _ | .brace => .brace
  | .here | .quotedBrace true => .quotedBrace true
  | _ => .quotedBrace false

end Mode

inductive Extent where
  /-- At the end of the line. -/
  | line
  /-- At a closing token; there is at least one command. -/
  | body
  /-- At a closing token. -/
  | arm
  deriving DecidableEq, Repr

structure Grammar where
  scan : Mode → Read Word
  list : Extent → Read Command
  command : Read Command

def endsWord (c : Char) : Bool :=
  c == ' ' || c == '\t' || c == '\n' || c == '&' || c == '(' || c == ')' || c == ';' || c == '<' ||
    c == '>' ||
    c == '|'

def isSpecial (c : Char) : Bool :=
  c == '!' || c == '#' || c == '$' || c == '*' || c == '-' || c == '?' || c == '@' || c.isDigit

/-- Whether a backslash in quotes takes the meaning from the character. -/
def isEscapable (m : Mode) (c : Char) : Bool :=
  c == '\\' || c == '$' || c.toNat == 0x60 || (c == '"' && m ≠ .here) ||
    (c == '\x7d' && m.isInBrace)

/-! ## Parameters -/

/-- The characters in front that satisfy a condition; lines that end with a backslash are joined. -/
def takeJoined (p : Char → Bool) : Nat → Read (List Char)
  | 0 => pure []
  | fuel + 1 => do
    let c ← nextJoined
    match c with
    | some c' =>
      if p c' then return c' :: (← takeJoined p fuel)
      else
        unread c
        return []
    | none => return []

def restOfName (c : Char) (braced : Bool) : Read String := fun r =>
  let fuel := r.bound
  if isNameStart c then
    (do return String.ofList (c :: (← takeJoined isNameChar fuel))) r
  else if c.isDigit && braced then
    (do return String.ofList (c :: (← takeJoined Char.isDigit fuel))) r
  else .ok (String.ofList [c], r)

/-- What follows the name of a parameter in braces: how it is used, and whether the brace is closed.
Trimming reads its pattern outside quotes. -/
def useOf (g : Grammar) (m : Mode) : Read Use := do
  let c ← nextJoined
  let (orEmpty, c) ← if c = some ':' then do pure (true, ← nextJoined) else pure (false, c)
  let guarded (f : Fallback) : Read Use := do return .guarded f orEmpty (← g.scan m.inner)
  match c with
  | some '\x7d' =>
    if orEmpty then return .followed (← g.scan m.inner)
    return .value
  | some '-' => guarded .replace
  | some '+' => guarded .swap
  | some '?' => guarded .stop
  | some '=' => guarded .assign
  | some c =>
    if (c == '%' || c == '#') && !orEmpty then
      let again ← nextJoined
      let longest := again == some c
      if !longest then unread again
      return .trim (c == '#') longest (← g.scan .brace)
    else
      let _ ← g.scan m.inner
      return .unknown
  | none =>
    let _ ← g.scan m.inner
    return .unknown

def bracedParameter (g : Grammar) (m : Mode) : Read Part := do
  let quoted := m.isQuoted
  let measured (name : String) : Read Part := do
    let more ← g.scan m.inner
    return .parameter name (if more.isEmpty then .length else .unknown) quoted
  let used (name : String) : Read Part := do return .parameter name (← useOf g m) quoted
  let unknown : Read Part := do
    let _ ← g.scan m.inner
    return .parameter "" .unknown quoted
  match ← nextJoined with
  | none => unknown
  | some '\x7d' =>
    return .parameter "" .unknown quoted
  | some '#' =>
    -- the number of parameters, or the length of one
    let c ← nextJoined
    match c with
    | some d =>
      if isNameChar d then measured (← restOfName d true)
      else
        let e ← nextJoined
        unread e
        if d == '\x7d' || e != some '\x7d' then
          unread c
          used "#"
        else if isSpecial d then measured (String.ofList [d])
        else unknown
    | none => used "#"
  | some c =>
    if isNameStart c || c.isDigit then used (← restOfName c true)
    else if isSpecial c then used (String.ofList [c])
    else unknown

/-! ## Commands in backquotes -/

def backquoted (inQuotes : Bool) : Nat → Read (List Char)
  | 0 => refuse "EOF in backquote substitution"
  | fuel + 1 => do
    match ← nextJoined with
    | none => refuse "EOF in backquote substitution"
    | some '\\' =>
      let c ← next
      match c with
      | none => refuse "EOF in backquote substitution"
      | some c =>
        let rest ← backquoted inQuotes fuel
        if c == '\\' || c == '$' || c.toNat == 0x60 || (inQuotes && c == '"') then return c :: rest
        else return '\\' :: c :: rest
    | some c =>
      if c.toNat == 0x60 then return []
      if c == '\n' then countLine
      return c :: (← backquoted inQuotes fuel)

/-- The command in backquotes. It is read as a text of its own. -/
def quotedCommand (g : Grammar) (inQuotes : Bool) : Read Command := fun r =>
  match backquoted inQuotes r.bound r with
  | .error f => .error f
  | .ok (text, r) =>
    let active := r.replacing.map fun a => { a with after := 0, opens := false }
    let inner : Reader :=
      { r with rest := text, line := 1, again := false, pending := [], active, within := none }
    match g.list .arm inner with
    | .error f => .error { f with short := r.short }
    | .ok (c, inner) => .ok (c, { r with heres := inner.heres, count := inner.count })

/-- The command in parentheses after a dollar sign. Its texts must start before it ends: one that is
still due then has no lines, and the texts that are due around it stay so. -/
def enclosedCommand (g : Grammar) : Read Command := fun r =>
  match g.list .arm { r with again := false, pending := [], within := none } with
  | .error f => .error f
  | .ok (c, inner) =>
    if inner.token = .close then
      .ok (c, { inner with again := false, pending := r.pending, within := r.within })
    else unexpected (some .close) inner

/-! ## Characters -/

def dollar (g : Grammar) (m : Mode) (p : Pieces) : Read Pieces := do
  let quoted := m.isQuoted
  let c ← nextJoined
  match c with
  | some '(' =>
    let d ← nextJoined
    if d = some '(' then return p.append [.arithmetic (← g.scan .arithmetic) quoted]
    unread d
    return p.append [.output (← enclosedCommand g) quoted]
  | some '\x7b' => return p.append [← bracedParameter g m]
  | some d =>
    if isNameStart d || isSpecial d then
      return p.append [.parameter (← restOfName d false) .value quoted]
    unread c
    return p.push '$' quoted
  | none => return p.push '$' quoted

def singleQuoted : Nat → Read (List Char)
  | 0 => refuse "Unterminated quoted string"
  | fuel + 1 => do
    match ← next with
    | none => refuse "Unterminated quoted string"
    | some '\'' => return []
    | some c =>
      if c == '\n' then countLine
      return c :: (← singleQuoted fuel)

/-- Whether a part may stand for several words, or for none. -/
def Part.mayDivide : Part → Bool
  | .parameter "@" _ _ => true
  | .parameter _ (.guarded _ _ _) _ => true
  | .parameter _ (.followed _) _ => true
  | _ => false

/-- What a text between quotes adds to a word: an empty one counts too, unless it consists of all
arguments and there are none. -/
def Pieces.appendQuoted (p : Pieces) (w : Word) : Pieces :=
  let quotes : Part := .text "" true
  match w with
  | [] => p.append [quotes]
  | [.parameter "@" .value _] => p.append w
  | w => p.append (if w.any Part.mayDivide then quotes :: w ++ [quotes] else w)

/-- The word when the script ends in the middle of it. -/
def cutShort (m : Mode) (p : Pieces) : Read Word :=
  match m with
  | .plain _ | .here => pure p.word
  | .brace | .quotedBrace true => refuse "Missing '\x7d'"
  | .quote _ | .quotedBrace false | .quotedMark => refuse "Unterminated quoted string"
  | .arithmetic => refuse "Missing '))'"

/-- The characters of a word up to its end. `depth` counts open parentheses in arithmetic, and
`inner` says whether quotes are open in quoted braces. -/
def scanWith (g : Grammar) (m : Mode) : Nat → Nat → Bool → Pieces → Read Word
  | 0, _, _, p => return p.word
  | fuel + 1, depth, inner, p => do
    let c ← nextOfWord
    match c with
    | none => cutShort m p
    | some c' =>
      let quoted := m.isQuoted
      let more (p : Pieces) : Read Word := scanWith g m fuel depth inner p
      if c' == '\\' then
        match ← next with
        | none => more (p.push '\\' true)
        | some d =>
          if quoted && !isEscapable m d then more ((p.push '\\' true).push d true)
          else more (p.push d true)
      else if c' == '\n' then
        match m with
        | .plain _ =>
          unread c
          return p.word
        | _ =>
          countLine
          let front ← startLine
          more (front.foldl (fun p c => p.push c true) (p.push c' quoted))
      else if c' == '$' then
        if m.isMark then more (p.push c' quoted) else more (← dollar g m p)
      else if c'.toNat == 0x60 then
        if m.isMark then more (p.push c' quoted)
        else more (p.append [.output (← quotedCommand g quoted) quoted])
      else if c' == '"' then
        match m with
        | .plain mark =>
          more (p.appendQuoted (← g.scan (if mark then .quotedMark else .quote false)))
        | .brace => more (p.appendQuoted (← g.scan (.quote true)))
        | .quote _ | .quotedMark => return p.word
        | .quotedBrace _ => scanWith g m fuel depth (!inner) p
        | .here | .arithmetic => more (p.push c' true)
      else if c' == '\'' && !quoted then
        let text ← singleQuoted (← bound)
        more (p.appendQuoted (if text.isEmpty then [] else [.text (String.ofList text) true]))
      else if c' == '\x7d' && m.isBrace && !inner then return p.word
      else if m = .arithmetic && c' == '(' then scanWith g m fuel (depth + 1) inner (p.push c' true)
      else if m = .arithmetic && c' == ')' then
        if 0 < depth then scanWith g m fuel (depth - 1) inner (p.push c' true)
        else
          let d ← nextJoined
          if d = some ')' then return p.word
          unread d
          more (p.push c' true)
      else
        match m with
        | .plain _ =>
          if endsWord c' then
            unread c
            return p.word
          else more (p.push c' false)
        | _ => more (p.push c' quoted)

def scanWord (g : Grammar) (m : Mode) : Read Word := do
  let front ← if m = .here then startLine else pure []
  scanWith g m (← bound) 0 false (front.foldl (fun p c => p.push c true) {})

/-! ## Texts of the script -/

/-- The lines of a text up to its mark, what follows it, and whether the mark was found. -/
def hereLines (h : Here) : Nat → List Char → List Char × List Char × Bool
  | 0, cs => ([], cs, false)
  | _, [] => ([], [], false)
  | fuel + 1, cs =>
    let raw := cs.takeWhile (· != '\n')
    let rest := cs.drop raw.length
    let line := if h.strips then raw.dropWhile (· == '\t') else raw
    if String.ofList line == h.mark then ([], rest.drop 1, true)
    else
      let (text, after, found) := hereLines h fuel (rest.drop 1)
      (line ++ rest.take 1 ++ text, after, found)

def keepText (h : Here) (w : Word) : Read Unit := fun r =>
  .ok ((), { r with heres := (h.number, w) :: r.heres, within := none, ended := false })

def plainText (h : Here) : Read Unit := fun r =>
  let (text, after, found) := hereLines h (r.rest.length + 1) r.rest
  -- the line of the mark counts even if nothing ends it
  let last := r.line + (r.rest.take (r.rest.length - after.length)).count '\n'
  let unended := after.isEmpty && r.rest.getLast? != some '\n'
  let last := if found && unended then last + 1 else last
  let short := r.short || !found || unended
  keepText h [.text (String.ofList text) true] { r with rest := after, line := last, short }

def hereText (g : Grammar) (h : Here) : Read Unit := do
  if h.expands then
    modify fun r => { r with within := some h, ended := false }
    keepText h (← g.scan .here)
  else plainText h

def hereTexts (g : Grammar) : Read Unit := do
  let pending := (← get).pending
  modify fun r => { r with pending := [] }
  pending.forM (hereText g)

end Shell
end SymbolIndex
