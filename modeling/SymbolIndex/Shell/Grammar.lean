import SymbolIndex.Shell.Words

/-!
# Commands of scripts

- `Shell.readToken` : the next token; words may be keywords or aliases
- `Shell.simpleCommand`, `Shell.compound` : single commands
- `Shell.pipeline`, `Shell.conditional` : how they are joined
- `Shell.commandList` : commands up to the end of a line or to a closing token
- `Shell.grammar` : commands inside words and words inside commands, as deep as they may go
- `Shell.parseLine` : the commands of the next line that has some
-/

namespace SymbolIndex
namespace Shell

/-! ## Tokens -/

def found (t : Token) : Read Token := fun r =>
  .ok (t, { r with token := t })

def putBack : Read Unit := fun r =>
  .ok ((), { r with again := true })

def dropComment : Read Unit := fun r =>
  let rest := r.rest.dropWhile (· != '\n')
  .ok ((), { r with rest, short := r.short || rest.isEmpty })

/-- A redirection that starts with the character, on a channel that may be named in front of it. -/
def arrow (c : Char) (channel : Option Nat) : Read Token := do
  let d ← nextJoined
  let set (usual : Nat) (a : Arrow) : Read Token := fun r =>
    .ok (.redirection, { r with arrow := (channel.getD usual, a), token := .redirection })
  if c == '>' then
    match d with
    | some '>' => set 1 (.file .append)
    | some '|' => set 1 (.file .force)
    | some '&' => set 1 .same
    | _ =>
      unread d
      set 1 (.file .write)
  else
    match d with
    | some '<' =>
      let e ← nextJoined
      if e = some '-' then set 0 (.here true)
      else
        unread e
        set 0 (.here false)
    | some '&' => set 0 .same
    | some '>' => set 0 (.file .both)
    | _ =>
      unread d
      set 0 (.file .read)

/-- A word, or a redirection if a channel or nothing stands in front of an arrow. -/
def wordToken (g : Grammar) (mark : Bool) : Read Token := do
  let w ← g.scan (.plain mark)
  let c ← next
  match c, w.bare? with
  | some c', some text =>
    let channel : Option (Option Nat) :=
      match text.toList with
      | [] => some none
      | [d] => if d.isDigit then some (some (d.toNat - 0x30)) else none
      | _ => none
    match channel with
    | some channel =>
      if c' == '<' || c' == '>' then return ← arrow c' channel
    | none => pure ()
  | _, _ => pure ()
  unread c
  modify fun r => { r with word := w }
  found .word

def rawToken (g : Grammar) (mark : Bool) : Nat → Read Token
  | 0 => found .finish
  | fuel + 1 => do
    let c ← nextJoined
    let twice (d : Char) (one two : Token) : Read Token := do
      let e ← nextJoined
      if e = some d then found two
      else
        unread e
        found one
    match c with
    | none => found .finish
    | some ' ' | some '\t' => rawToken g mark fuel
    | some '#' =>
      dropComment
      rawToken g mark fuel
    | some '\n' =>
      countLine
      found .newline
    | some '&' => twice '&' .ampersand .andIf
    | some '|' => twice '|' .pipe .orIf
    | some ';' => twice ';' .semicolon .endArm
    | some '(' => found .open
    | some ')' => found .close
    | some _ =>
      unread c
      wordToken g mark

/-- The last token if it is to be read again, else the next one. -/
def anyToken (g : Grammar) (mark : Bool) : Read Token := fun r =>
  let r := { r with start := if r.active.isEmpty then 0 else r.rest.length }
  if r.again then .ok (r.token, { r with again := false }) else rawToken g mark r.bound r

structure Expect where
  /-- Line ends are passed over. -/
  newlines : Bool := false
  keywords : Bool := false
  aliases : Bool := false
  /-- The word is the mark of a text. -/
  mark : Bool := false

def Expect.start : Expect := { newlines := true, keywords := true, aliases := true }

/-- The next token that is no line end, with the texts that follow lines. -/
def skipNewlines (g : Grammar) : Nat → Token → Read Token
  | 0, t => pure t
  | fuel + 1, t => do
    if t ≠ .newline then return t
    hereTexts g
    skipNewlines g fuel (← anyToken g false)

/-- Puts the replacement of an alias in front of the rest. -/
def replaceAlias (name value : String) : Read Unit := fun r =>
  if value = "" then .ok ((), r)
  else
    let last := value.toList.getLastD 'a'
    let a : Replaced := { name, after := r.rest.length, opens := last == ' ' || last == '\t' }
    .ok ((), { r with rest := value.toList ++ r.rest, active := a :: r.replacing })

/-- The replacement of a name that is an alias and not being replaced already. -/
def aliasFor? (r : Reader) (name : String) : Option String :=
  if r.replacing.any (·.name == name) then none else Assoc.find? name r.aliases

/-- Whether the last token follows a replacement that ends with a blank. -/
def followsBlank (r : Reader) : Bool :=
  r.active.any fun a => a.opens && a.after < r.start && r.rest.length ≤ a.after

/-- The next token; words may be keywords or aliases. -/
def tokenWith (g : Grammar) (e : Expect) : Nat → Read Token
  | 0 => found .finish
  | fuel + 1 => do
    let t ← anyToken g e.mark
    let t ← if e.newlines then skipNewlines g (← bound) t else pure t
    if t ≠ .word then return t
    let r ← get
    let e := { e with aliases := e.aliases || followsBlank r }
    match r.word.bare? with
    | none => return t
    | some text =>
      match (if e.keywords then Keyword.ofText? text else none) with
      | some k => found (.keyword k)
      | none =>
        match (if e.aliases then aliasFor? r text else none) with
        | some value =>
          replaceAlias text value
          tokenWith g e fuel
        | none => return t

def readToken (g : Grammar) (e : Expect) : Read Token := fun r =>
  tokenWith g e r.bound r

def require (g : Grammar) (e : Expect) (t : Token) : Read Unit := do
  if (← readToken g e) ≠ t then unexpected (some t)

/-! ## Redirections -/

def redirect (g : Grammar) : Read Redirect := do
  let (channel, a) := (← get).arrow
  let mark :=
    match a with
    | .here _ => true
    | _ => false
  if (← readToken g { mark }) ≠ .word then unexpected none
  let w := (← get).word
  match a with
  | .file how => return .file channel how w
  | .same => return .same channel w
  | .here strips =>
    let r ← get
    let h : Here := ⟨r.count, w.literal, strips, !w.isQuoted⟩
    set { r with count := r.count + 1, pending := r.pending ++ [h] }
    return .here channel h.number

/-- The redirections behind a command. Behind the first one there are no keywords. -/
def redirects (g : Grammar) (e : Expect) : Nat → Read (List Redirect)
  | 0 => return []
  | fuel + 1 => do
    if (← readToken g e) = .redirection then
      let first ← redirect g
      return first :: (← redirects g {} fuel)
    putBack
    return []

/-! ## Commands -/

/-- The names of functions that a script must not define. -/
def isReserved (name : String) : Bool :=
  [".", ":", "break", "continue", "eval", "exec", "exit", "export", "local", "readonly", "return",
    "set", "shift", "times", "trap", "unset"].contains name

/-- A simple command: assignments, words and redirections, all newest first. A word with parentheses
defines a function. -/
def simpleWith (g : Grammar) (line : Nat) :
    Nat → List Word → List Word → List Redirect → Read Command
  | 0, as, ws, rs => return .simple line as.reverse ws.reverse rs.reverse
  | fuel + 1, as, ws, rs => do
    match ← readToken g { aliases := ws.isEmpty } with
    | .word =>
      let w := (← get).word
      if ws.isEmpty && w.isAssignment then simpleWith g line fuel (w :: as) ws rs
      else simpleWith g line fuel as (w :: ws) rs
    | .redirection =>
      let r ← redirect g
      simpleWith g line fuel as ws (r :: rs)
    | .open =>
      match as, ws, rs with
      | [], [w], [] =>
        require g {} .close
        let name := (w.bare?).getD ""
        if !isName name || isReserved name then refuse "Bad function name"
        let line := (← get).line
        return .function line name (← g.command)
      | _, _, _ =>
        putBack
        return .simple line as.reverse ws.reverse rs.reverse
    | _ =>
      putBack
      return .simple line as.reverse ws.reverse rs.reverse

def simpleCommand (g : Grammar) : Read Command := fun r =>
  simpleWith g r.line (2 * r.bound) [] [] [] r

def otherBranches (g : Grammar) : Nat → Read Command
  | 0 => return .nothing
  | fuel + 1 => do
    match ← readToken g {} with
    | .keyword .elif =>
      let test ← g.list .body
      require g {} (.keyword .then)
      let yes ← g.list .body
      return .branch test yes (← otherBranches g fuel)
    | .keyword .else => g.list .body
    | _ =>
      putBack
      return .nothing

def wordsOf (g : Grammar) : Nat → Read (List Word)
  | 0 => return []
  | fuel + 1 => do
    if (← readToken g {}) = .word then
      let w := (← get).word
      return w :: (← wordsOf g fuel)
    return []

def allParameters : Word := [.parameter "@" .value true]

def eachLoop (g : Grammar) (line : Nat) : Read Command := do
  let t ← readToken g {}
  let name := ((← get).word.bare?).getD ""
  if t ≠ .word || !isName name then refuse "Bad for loop variable"
  let t ← readToken g .start
  let words ←
    if t = .keyword .in then do
      let ws ← wordsOf g (← bound)
      let last := (← get).token
      if last ≠ .newline && last ≠ .semicolon then unexpected none
      pure ws
    else do
      if t ≠ .semicolon then putBack
      pure [allParameters]
  require g .start (.keyword .do)
  return .each line name words (← g.list .body)

/-- The patterns of an arm, the first of which has been read. -/
def patterns (g : Grammar) : Nat → Read (List Word)
  | 0 => return []
  | fuel + 1 => do
    let w := (← get).word
    if (← readToken g {}) = .pipe then
      let _ ← readToken g {}
      return w :: (← patterns g fuel)
    return [w]

def armsOf (g : Grammar) : Nat → Read (List (List Word × Command))
  | 0 => return []
  | fuel + 1 => do
    let t ← readToken g { newlines := true, keywords := true }
    if t = .keyword .esac then return []
    if t = .open then
      let _ ← readToken g {}
    let ps ← patterns g (← bound)
    if (← get).token ≠ .close then unexpected (some .close)
    let body ← g.list .arm
    match ← readToken g { newlines := true, keywords := true } with
    | .keyword .esac => return [(ps, body)]
    | .endArm => return (ps, body) :: (← armsOf g fuel)
    | _ => unexpected (some .endArm)

/-- A command that a token of the expected kind starts. -/
def compound (g : Grammar) (e : Expect) : Read Command := do
  let line := (← get).line
  let t ← readToken g e
  let closed (c : Command) (k : Keyword) : Read Command := do
    require g {} (.keyword k)
    return c
  let c : Command ←
    match t with
    | .keyword .if =>
      let test ← g.list .body
      require g {} (.keyword .then)
      let yes ← g.list .body
      let no ← otherBranches g (← bound)
      closed (.branch test yes no) .fi
    | .keyword .while =>
      let test ← g.list .body
      require g {} (.keyword .do)
      closed (.loop false test (← g.list .body)) .done
    | .keyword .until =>
      let test ← g.list .body
      require g {} (.keyword .do)
      closed (.loop true test (← g.list .body)) .done
    | .keyword .for => closed (← eachLoop g line) .done
    | .keyword .case =>
      if (← readToken g {}) ≠ .word then unexpected (some .word)
      let w := (← get).word
      require g .start (.keyword .in)
      pure (.select line w (← armsOf g (← bound)))
    | .open =>
      let c ← g.list .body
      require g {} .close
      pure (.subshell line c [])
    | .keyword .opening => closed (← g.list .body) .closing
    | .word | .redirection =>
      putBack
      return ← simpleCommand g
    | _ => unexpected none
  match ← redirects g { keywords := true, aliases := true } (← bound) with
  | [] => return c
  | rs =>
    match c with
    | .subshell line c _ => return .subshell line c rs
    | c => return .redirected line c rs

def pipelineRest (g : Grammar) : Nat → Read (List Command)
  | 0 => return []
  | fuel + 1 => do
    if (← readToken g {}) = .pipe then
      let c ← compound g .start
      return c :: (← pipelineRest g fuel)
    putBack
    return []

/-- Commands that read what others write, possibly with the opposite result. -/
def pipeline (g : Grammar) (e : Expect) : Read Command := do
  let negates := (← readToken g e) = .keyword .not
  if !negates then putBack
  let first ← compound g (if negates then { keywords := true, aliases := true } else {})
  let rest ← pipelineRest g (← bound)
  let c := if rest.isEmpty then first else .pipeline (first :: rest)
  return if negates then .negated c else c

/-- Pipelines that depend on the result of those before them. -/
def conditionalRest (g : Grammar) : Nat → Command → Read Command
  | 0, c => return c
  | fuel + 1, c => do
    match ← readToken g {} with
    | .andIf =>
      let d ← pipeline g .start
      conditionalRest g fuel (.both c d)
    | .orIf =>
      let d ← pipeline g .start
      conditionalRest g fuel (.either c d)
    | _ =>
      putBack
      return c

def conditional (g : Grammar) : Read Command := do
  let c ← pipeline g {}
  conditionalRest g (← bound) c

/-! ## Lists -/

def Command.inBackground (line : Nat) : Command → Command
  | .redirected line c rs => .background line c rs
  | c => .background line c []

def Command.ofList : List Command → Command
  | [] => .nothing
  | [c] => c
  | cs => .sequence cs

/-- The end of the script in a list of commands. -/
def atFinish (g : Grammar) (cs : List Command) : Read (Option Command) := do
  hereTexts g
  let _ ← found .finish
  putBack
  return some (.ofList cs.reverse)

/-- Commands up to the end of the list, newest first; nothing if the script ends before the line has
any. -/
def listWith (g : Grammar) (x : Extent) : Nat → List Command → Read (Option Command)
  | 0, cs => return some (.ofList cs.reverse)
  | fuel + 1, cs => do
    match ← readToken g { newlines := x ≠ .line, keywords := true, aliases := true } with
    | .newline =>
      hereTexts g
      return some (.ofList cs.reverse)
    | .finish =>
      if cs.isEmpty && x = .line then return none
      atFinish g cs
    | t =>
      putBack
      if t.endsList && (x = .arm || (x = .body && !cs.isEmpty)) then
        return some (.ofList cs.reverse)
      let c ← conditional g
      let t ← readToken g {}
      let line := (← get).line
      let cs := (if t = .ampersand then c.inBackground line else c) :: cs
      match t with
      | .finish => atFinish g cs
      | .newline =>
        putBack
        listWith g x fuel cs
      | .ampersand | .semicolon => listWith g x fuel cs
      | _ =>
        if x = .line then unexpected none
        putBack
        return some (.ofList cs.reverse)

def commandList (g : Grammar) (x : Extent) : Read (Option Command) := fun r =>
  listWith g x r.bound [] r

/-- The grammar with words and commands inside each other up to a depth. -/
def grammar : Nat → Grammar
  | 0 => ⟨fun _ => unexpected none, fun _ => unexpected none, unexpected none⟩
  | n + 1 =>
    { scan := fun m r => scanWord (grammar n) m r
      list := fun x r => (do return (← commandList (grammar n) x).getD .nothing : Read Command) r
      command := fun r => compound (grammar n) .start r }

/-- A text as a word in which only dollar signs, backquotes and backslashes mean something. -/
def parseText (text : String) : Except SyntaxFault Word :=
  match scanWord (grammar text.length) .here (Reader.ofText text.toList).bounded with
  | .ok (w, _) => .ok w
  | .error f => .error f

/-- The commands of the next line; nothing at the end of the script. -/
def parseLine : Read (Option Command) := fun r =>
  let r := { r with again := false, short := false, pending := [], active := r.replacing }.bounded
  -- what lies inside something else is shorter
  commandList (grammar r.bound) .line r

end Shell
end SymbolIndex
