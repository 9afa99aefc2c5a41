import SymbolIndex.Shell.Expansion

/-!
# Options

- `Shell.letters` : the letters of options in front of arguments
- `Shell.optionNames` : the options of the shell
- `Shell.readOptions` : options of the shell in front of arguments
- `Shell.setOptions`, `Shell.nextOption` : the commands `set` and `getopts`
-/

namespace SymbolIndex
namespace Shell

/-! ## Letters in front of arguments -/

/-- The letters of one argument, with the values that they take. `allowed` is followed by a colon
for letters that take one. -/
def lettersOf (allowed : List Char) :
    Nat → List Char → List String → Act (List (Char × String) × List String)
  | 0, _, args => return ([], args)
  | _, [], args => return ([], args)
  | fuel + 1, c :: cs, args => do
    match allowed.dropWhile (· != c) with
    | _ :: ':' :: _ =>
      match cs, args with
      | [], [] => fail ("No arg for -" ++ String.ofList [c] ++ " option")
      | [], value :: args => return ([(c, value)], args)
      | cs, args => return ([(c, String.ofList cs)], args)
    | _ :: _ =>
      if c == ':' then fail "Illegal option -:"
      let (more, args) ← lettersOf allowed fuel cs args
      return ((c, "") :: more, args)
    | [] => fail ("Illegal option -" ++ String.ofList [c])

/-- The letters in front of arguments, with their values, and the other arguments. -/
def lettersWith (allowed : List Char) : Nat → List String → Act (List (Char × String) × List String)
  | 0, args => return ([], args)
  | _, [] => return ([], [])
  | fuel + 1, a :: args => do
    match a.toList with
    | ['-', '-'] => return ([], args)
    | '-' :: c :: cs =>
      let (first, args) ← lettersOf allowed (cs.length + 1) (c :: cs) args
      let (more, args) ← lettersWith allowed fuel args
      return (first ++ more, args)
    | _ => return ([], a :: args)

def letters (allowed : String) (args : List String) : Act (List (Char × String) × List String) :=
  lettersWith allowed.toList (args.length + 1) args

/-- A value in single quotes. Quotes in it stand in double quotes. -/
def quotedValue (s : String) : String :=
  let parts := s.toList.splitBy fun a b => (a == '\'') == (b == '\'')
  if s = "" then "''"
  else
    String.join (parts.map fun part =>
      if part.head? == some '\'' then "\"" ++ String.ofList part ++ "\""
      else "'" ++ String.ofList part ++ "'")

/-! ## Options of the shell -/

/-- The options of the shell: their names and letters. -/
def optionNames : List (String × Option Char) :=
  [ ("errexit", some 'e'), ("noglob", some 'f'), ("ignoreeof", some 'I'), ("interactive", some 'i'),
    ("monitor", some 'm'), ("noexec", some 'n'), ("stdin", some 's'), ("xtrace", some 'x'),
    ("verbose", some 'v'), ("vi", some 'V'), ("emacs", some 'E'), ("noclobber", some 'C'),
    ("allexport", some 'a'), ("notify", some 'b'), ("nounset", some 'u'), ("privileged", some 'p'),
    ("nolog", none), ("debug", none) ]

def rival? (c : Char) : Option Char :=
  match c with
  | 'V' => some 'E'
  | 'E' => some 'V'
  | _ => none

/-- Sets or clears an option. There is no terminal, and without one jobs cannot be controlled. -/
def setOption (c : Char) (on : Bool) : Act Unit := do
  if !(optionNames.any fun o => o.2 == some c) then fail ("Illegal option -" ++ String.ofList [c])
  if on && c == 'm' then complain "can't access tty; job control turned off"
  else
    change fun p =>
      let others := p.options.filter fun o => o != c && !(on && some o == rival? c)
      { p with options := if on then c :: others else others }

/-- The letter of an option with a name, if it has one. -/
def letterFor (name : String) : Act (Option Char) := do
  match optionNames.find? (·.1 == name) with
  | some (_, letter) => return letter
  | none => fail ("Illegal option -o " ++ name)

/-- Says which options are set, as a table or as commands. -/
def sayOptions (isOn : Option Char → Bool) (table : Bool) : Act Unit := do
  if table then
    say "Current option settings\n"
    optionNames.forM fun o =>
      say (o.1 ++ String.ofList (List.replicate (16 - o.1.length) ' ') ++
        (if isOn o.2 then "on\n" else "off\n"))
  else optionNames.forM fun o => say ("set " ++ (if isOn o.2 then "-o " else "+o ") ++ o.1 ++ "\n")

structure Given where
  /-- The arguments that are left. -/
  rest : List String
  /-- The options that have been cleared. -/
  cleared : List Char := []
  /-- Whether two dashes end the options. -/
  ended : Bool := false
  /-- Whether a dash alone ends them. -/
  dashed : Bool := false
  /-- Whether the next argument is a script. -/
  command : Bool := false

def Given.set (g : Given) (c : Char) (on : Bool) : Act Given := do
  setOption c on
  let others := g.cleared.filter (· != c)
  return { g with cleared := if on then others else c :: others }

/-- The letters of an argument. `starting` says that the shell is being started: options that are
not cleared count as set then. -/
def readLetters (starting on : Bool) : List Char → Given → Act Given
  | [], g => return g
  | c :: cs, g => do
    if c == 'c' && starting then readLetters starting on cs { g with command := true }
    else if c == 'l' && starting then readLetters starting on cs g
    else if c == 'o' then
      match g.rest with
      | [] =>
        let options ← asks Process.options
        let isOn (letter : Option Char) : Bool :=
          if starting then (letter.map fun c => !g.cleared.contains c).getD true
          else (letter.map options.contains).getD false
        sayOptions isOn on
        readLetters starting on cs g
      | name :: rest =>
        let g := { g with rest }
        match ← letterFor name with
        | some letter => readLetters starting on cs (← g.set letter on)
        | none => readLetters starting on cs g
    else readLetters starting on cs (← g.set c on)

def readOptions (starting : Bool) : Nat → Given → Act Given
  | 0, g => return g
  | fuel + 1, g => do
    match g.rest with
    | [] => return g
    | a :: rest =>
      match a.toList with
      | ['-'] => return { g with rest, dashed := true }
      | ['-', '-'] => return { g with rest, ended := true }
      | '-' :: cs => readOptions starting fuel (← readLetters starting true cs { g with rest })
      | '+' :: cs => readOptions starting fuel (← readLetters starting false cs { g with rest })
      | _ => return g

/-! ## Variables as text -/

/-- Says what variables are set, in order, each after a word. -/
def sayVariables (word : String) (which : Variable → Bool) : Act Unit := do
  (← asks Process.entries).forM fun (name, v) => do
    if which v then
      let front := if word = "" then name else word ++ " " ++ name
      match v.value with
      | some value => say (front ++ "=" ++ quotedValue value ++ "\n")
      | none => if word ≠ "" then say (front ++ "\n")

def setOptions (args : List String) : Act Nat := do
  if args.isEmpty then
    sayVariables "" fun _ => true
    return 0
  let g ← readOptions false (args.length + 1) { rest := args }
  if g.dashed then
    change fun p => { p with options := p.options.filter fun c => c != 'x' && c != 'v' }
  if g.ended || !g.rest.isEmpty then
    change fun p => { p with arguments := g.rest, optionPlace := {} }
  return 0

/-! ## Options of scripts -/

/-- Whether a letter is among those that are allowed, and whether it takes a value. -/
def allowedLetter? (c : Char) : List Char → Option Bool
  | [] => none
  | [d] => if d == c then some false else none
  -- a colon belongs to the character in front of it
  | d :: ':' :: rest => if d == c then some true else allowedLetter? c rest
  | d :: rest => if d == c then some false else allowedLetter? c rest

def nextOption (args : List String) : Act Nat := do
  match args with
  | allowed :: name :: given =>
    let p ← asks id
    let given := if given.isEmpty then p.arguments else given
    let quiet := allowed.toList.head? == some ':'
    -- behind the last argument everything starts again
    let ⟨index, letter⟩ := if given.length + 1 < p.optionPlace.next then {} else p.optionPlace
    let complete (c : String) (index letter status : Nat) : Act Nat := do
      -- and also behind a fault
      change fun p => { p with optionPlace := {} }
      assign placeName (toString index)
      change fun p => { p with optionPlace := {} }
      if !isName name then fail (name ++ ": bad variable name")
      assign name c
      change fun p => { p with optionPlace := ⟨index, letter⟩ }
      return status
    -- the rest of the argument at hand, else the next one
    let before := (if index ≤ 1 then "" else (given[index - 2]?).getD "").toList
    let inside := if letter = 0 then [] else before.drop letter
    let (cs, index) : List Char × Nat :=
      if !inside.isEmpty then (inside, index)
      else
        match ((given[index - 1]?).getD "").toList with
        | '-' :: c :: cs => (c :: cs, index + 1)
        | _ => ([], index)
    if inside.isEmpty && cs == ['-'] then return ← complete "?" index 0 1
    match cs with
    | [] => complete "?" index 0 1
    | c :: cs =>
      let whole := ((given[index - 2]?).getD "").length
      let letter := if cs.isEmpty then 0 else whole - cs.length
      let unset : Act Unit := change (·.unbind "OPTARG")
      match allowedLetter? c allowed.toList with
      | none =>
        if quiet then assign "OPTARG" (String.ofList [c])
        else
          let _ ← writeText 2 ("Illegal option -" ++ String.ofList [c] ++ "\n")
          unset
        complete "?" index letter 0
      | some false =>
        assign "OPTARG" ""
        complete (String.ofList [c]) index letter 0
      | some true =>
        match cs, given[index - 1]? with
        | [], none =>
          if quiet then
            assign "OPTARG" (String.ofList [c])
            complete ":" index 0 0
          else
            let _ ← writeText 2 ("No arg for -" ++ String.ofList [c] ++ " option\n")
            unset
            complete "?" index 0 0
        | [], some value =>
          assign "OPTARG" value
          complete (String.ofList [c]) (index + 1) 0 0
        | cs, _ =>
          assign "OPTARG" (String.ofList cs)
          complete (String.ofList [c]) index 0 0
  | _ => fail "Usage: getopts optstring var [arg...]"

end Shell
end SymbolIndex
