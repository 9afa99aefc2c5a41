import SymbolIndex.Shell.Builtin.Options

/-!
# Commands on variables

- `Shell.mark`, `Shell.unset`, `Shell.declareLocal`, `Shell.shift` : variables and arguments
- `Shell.fieldsFor` : a line divided among variables
- `Shell.readInto` : the command `read`
- `Shell.setAliases`, `Shell.unalias` : aliases
-/

namespace SymbolIndex
namespace Shell

/-! ## Marks on variables -/

/-- A name that a command is given must be one. What follows an equals sign does not belong to
it. -/
def checkName (text : String) : Act String := do
  let name := String.ofList (text.toList.takeWhile (· != '='))
  if !isName name then fail (name ++ ": bad variable name")
  return name

def nameAndValue (arg : String) : String × Option String :=
  let cs := arg.toList
  let name := cs.takeWhile (· != '=')
  match cs.drop name.length with
  | _ :: value => (String.ofList name, some (String.ofList value))
  | [] => (arg, none)

/-- Marks variables as exported or as read only, and may set them. -/
def mark (command : String) (args : List String) : Act Nat := do
  let readonly := command = "readonly"
  let (options, names) ← letters "p" args
  if !options.isEmpty || names.isEmpty then
    sayVariables command fun v => if readonly then v.readonly else v.exported
    return 0
  names.forM fun arg => do
    let (name, value) := nameAndValue arg
    let name ← checkName name
    if let some value := value then assign name value
    let old := (← asks (·.lookup? name)).getD {}
    let new := if readonly then { old with readonly := true } else { old with exported := true }
    change (·.bind name new)
  return 0

def unset (args : List String) : Act Nat := do
  let (options, names) ← letters "vf" args
  let functions := (options.getLast?.map Prod.fst) == some 'f'
  names.forM fun name => do
    if functions then change fun p => { p with functions := p.functions.filter (·.1 != name) }
    else
      let name ← checkName name
      if name = placeName then let _ ← wholeNumber ""
      if ((← asks (·.lookup? name)).map Variable.readonly).getD false then
        fail (name ++ ": is read only")
      change (·.unbind name)
  return 0

/-- The name under which the options of the shell are hidden. -/
def optionsName : String := "-"

/-- Hides a variable, or the options of the shell, until the function ends. -/
def hide (name : String) : Act Unit := do
  let p ← asks id
  match p.hidden with
  | [] => return ()
  | frame :: frames =>
    if frame.any (·.1 == name) then return ()
    let old : Option Variable :=
      if name = optionsName then some { value := some (String.ofList p.options) }
      else p.lookup? name
    change fun p => { p with hidden := ((name, old) :: frame) :: frames }

/-- Shows again what a function has hidden. -/
def Process.restore (p : Process) (frame : List (String × Option Variable)) : Process :=
  frame.foldl (fun p (name, old) =>
    match old with
    | some v =>
      if name = optionsName then { p with options := (v.value.getD "").toList }
      else if name = placeName then
        { p.bind name v with optionPlace := ⟨max 1 (digitsValue 10 (v.value.getD "").toList), 0⟩ }
      else p.bind name v
    | none => p.unbind name) p

/-- Variables of a function. They start with the values that they had outside. -/
def declareLocal (args : List String) : Act Nat := do
  if (← asks Process.functionLine).isNone then fail "not in a function"
  let (_, names) ← letters "" args
  names.forM fun arg => do
    let (name, value) := nameAndValue arg
    if name ≠ optionsName then let _ ← checkName name
    hide name
    if let some value := value then assign name value
  return 0

def shift (args : List String) : Act Nat := do
  let n ← match args with
    | [] => pure 1
    | a :: _ => wholeNumber a
  let arguments ← asks Process.arguments
  if arguments.length < n then fail "can't shift that many"
  change fun p => { p with arguments := p.arguments.drop n, optionPlace := {} }
  return 0

/-! ## Lines divided among variables -/

def divides (separators : List Char) (g : Glyph) : Bool :=
  !g.quoted && separators.contains g.char

def dividesBlank (separators : List Char) (g : Glyph) : Bool :=
  divides separators g && (g.char == ' ' || g.char == '\t' || g.char == '\n')

/-- Where the last field is cut: the place of the first character that does not belong to it,
whether the field has been divided, and whether it was at a blank. -/
structure Cut where
  place : Option Nat := none
  divided : Bool := false
  atBlank : Bool := false

/-- Goes over one character of the last field. A quoted one does not bring back what is cut off. -/
def Cut.step (separators : List Char) (c : Cut) (n : Nat) (g : Glyph) : Cut :=
  let blank := dividesBlank separators g
  if g.quoted then { c with atBlank := false }
  else if !c.divided then
    if divides separators g then ⟨some n, true, blank⟩ else c
  else if blank then { c with place := c.place.orElse fun _ => some n }
  else if divides separators g && c.atBlank then { c with atBlank := false }
  else { c with place := none, atBlank := false }

/-- The last field: everything up to blanks at the end, or up to the border behind a single
field. -/
def lastField (separators : List Char) (gs : List Glyph) : List Glyph :=
  let (c, _) := gs.foldl (fun (c, n) g => (c.step separators n g, n + 1)) (({} : Cut), 0)
  match c.place with
  | some n => gs.take n
  | none => gs

def fieldsFor (separators : List Char) : Nat → List Glyph → List (List Glyph)
  | 0, _ => []
  | n + 1, gs =>
    let gs := gs.dropWhile (dividesBlank separators)
    if n = 0 then [lastField separators gs]
    else
      let field := gs.takeWhile fun g => !divides separators g
      let rest := gs.drop field.length
      let after := rest.dropWhile (dividesBlank separators)
      -- a border is blanks with at most one other character among them
      let after :=
        match after with
        | g :: more => if divides separators g then more else after
        | [] => []
      field :: fieldsFor separators n after

/-- The characters of a line, and whether the next line belongs to it. A backslash takes the meaning
from the next character, unless `raw` is set. -/
def glyphsOfLine (raw : Bool) : List Char → List Glyph × Bool
  | [] => ([], false)
  | ['\\'] => if raw then ([⟨'\\', false⟩], false) else ([], true)
  | '\\' :: c :: rest =>
    if raw then
      let (gs, joins) := glyphsOfLine raw (c :: rest)
      (⟨'\\', false⟩ :: gs, joins)
    else
      let (gs, joins) := glyphsOfLine raw rest
      (⟨c, true⟩ :: gs, joins)
  | c :: rest =>
    let (gs, joins) := glyphsOfLine raw rest
    (⟨c, false⟩ :: gs, joins)

/-- The characters of a line that is read, and whether it ends with a line end. Lines that a
backslash joins are one. -/
def lineGlyphs (raw : Bool) : Nat → List Glyph → Act (List Glyph × Bool)
  | 0, acc => return (acc, false)
  | fuel + 1, acc => do
    match ← readLine 0 with
    | .error _ => return (acc, false)
    | .ok (bytes, ends) =>
      let cs := ((Octets.ofBytes bytes).toList.filter (· != '\x00'))
      let cs := if ends then cs.dropLast else cs
      let (gs, joins) := glyphsOfLine raw cs
      if joins && ends then lineGlyphs raw fuel (acc ++ gs) else return (acc ++ gs, ends)

def readInto (args : List String) : Act Nat := do
  let (options, names) ← letters "p:r" args
  let raw := options.any (·.1 == 'r')
  if names.isEmpty then fail "arg count"
  let (gs, ends) ← lineGlyphs raw 10000 []
  let fields := fieldsFor (← asks Process.separators) names.length gs
  (names.zip fields).forM fun (name, gs) => do
    assign (← checkName name) (glyphText gs)
  return if ends then 0 else 1

/-! ## Aliases -/

/-- Binds an alias. A new one comes last. -/
def bindAlias (name value : String) (aliases : List (String × String)) : List (String × String) :=
  if aliases.any (·.1 == name) then aliases.map fun a => if a.1 == name then (name, value) else a
  else aliases ++ [(name, value)]

def setAliases (args : List String) : Act Nat := do
  let aliases ← asks (·.aliases)
  if args.isEmpty then
    (byShelf 39 Prod.fst aliases).forM fun (name, value) =>
      say (name ++ "=" ++ quotedValue value ++ "\n")
    return 0
  args.foldlM (fun status arg => do
    -- a name has at least one character, whatever it is
    let (name, value) := nameAndValue (String.ofList (arg.toList.drop 1))
    match (String.ofList (arg.toList.take 1) ++ name, value) with
    | (name, some value) =>
      change fun p => { p with aliases := bindAlias name value p.aliases }
      return status
    | (name, none) =>
      match Assoc.find? name (← asks (·.aliases)) with
      | some value =>
        say (name ++ "=" ++ quotedValue value ++ "\n")
        return status
      | none =>
        let _ ← writeText 2 ("alias: " ++ name ++ " not found\n")
        return 1) 0

def unalias (args : List String) : Act Nat := do
  let (_, names) ←
    if ((args.headD "").toList.take 2) == ['-', 'a'] then do
      change fun p => { p with aliases := [] }
      pure ([], [])
    else letters "a" args
  names.foldlM (fun status name => do
    if (Assoc.find? name (← asks (·.aliases))).isSome then
      change fun p => { p with aliases := p.aliases.filter (·.1 != name) }
      return status
    let _ ← writeText 2 ("unalias: " ++ name ++ " not found\n")
    return 1) 0

end Shell
end SymbolIndex
