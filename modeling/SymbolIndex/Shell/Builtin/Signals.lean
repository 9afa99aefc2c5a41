import SymbolIndex.Shell.Builtin.Options
import SymbolIndex.Shell.Children

/-!
# Signals and jobs

- `Shell.signalOf?` : the signal that a text stands for
- `Shell.trap`, `Shell.kill` : what is done at signals, and how they are sent
- `Shell.wait`, `Shell.listJobs` : the jobs of a shell
-/

namespace SymbolIndex
namespace Shell

/-- The signal that a text stands for: a number or a name in letters of any case. -/
def signalOf? (s : String) : Option Nat :=
  let cs := s.toList
  if cs.isEmpty then none
  else if cs.all Char.isDigit then
    let n := digitsValue 10 cs
    if n < signalCount then some n else none
  else signalNames.findIdx? (· == String.ofList (cs.map Char.toUpper))

/-! ## Actions -/

/-- Sets what is done at signals, or says what is. -/
def trap (args : List String) : Act Nat := do
  let (_, args) ← letters "" args
  match args with
  | [] =>
    let traps ← asks (·.traps)
    (traps.mergeSort fun a b => decide (a.1 ≤ b.1)).forM fun (n, action) =>
      say ("trap -- " ++ quotedValue action ++ " " ++ signalName n ++ "\n")
    return 0
  | first :: rest =>
    let isNumber := first.toList.all Char.isDigit && (signalOf? first).isSome
    let (action, signals) : Option String × List String :=
      if rest.isEmpty || isNumber then (none, args)
      else if first = "-" then (none, rest)
      else (some first, rest)
    signals.foldlM (fun status s => do
      if status ≠ 0 then return status
      match signalOf? s with
      | none =>
        let _ ← writeText 2 ("trap: " ++ s ++ ": bad trap\n")
        return 1
      | some n =>
        change fun p => { p with
          traps :=
            match action with
            | some a => (n, a) :: p.traps.filter (·.1 != n)
            | none => p.traps.filter (·.1 != n) }
        return 0) 0

/-! ## Jobs -/

def killUsage : String :=
  "Usage: kill [-s sigspec | -signum | -sigspec] [pid | job]... or\nkill -l [exitstatus]"

/-- Sends a signal to a process, and says whether there is one. -/
def send (signal target : Nat) : Act Bool := do
  let main ← asks (·.shell)
  let y ← asksSystem id
  let isThere := y.living.any fun e => e.1 == target || (e.2 == target && e.1 == main)
  if target = 0 then
    changeSystem fun y => { y with signals := y.signals ++ y.living.map fun e => ⟨e.1, signal⟩ }
    pause .turn
    return true
  if isThere then
    changeSystem fun y => { y with signals := y.signals ++ [⟨target, signal⟩] }
    pause .turn
  return isThere || y.dead.any (·.process == target)

/-- The job that a text with a percent sign stands for. Without a text it is the last one. -/
def jobFor (text : Option String) : Act Job := do
  let jobs ← asks Process.jobs
  let found : Except String Job :=
    match text.map String.toList with
    | none | some ['%'] | some ['%', '+'] | some ['%', '%'] =>
      match jobs with
      | j :: _ => .ok j
      | [] => .error "No current job"
    | some ['%', '-'] =>
      match jobs with
      | _ :: j :: _ => .ok j
      | _ => .error "No previous job"
    | some ('%' :: cs) =>
      match jobs.find? fun j => cs.all Char.isDigit && j.slot == digitsValue 10 cs with
      | some j => .ok j
      | none => .error ("No such job: " ++ String.ofList ('%' :: cs))
    | some cs => .error ("No such job: " ++ String.ofList cs)
  match found with
  | .ok j => return j
  | .error message => fail message

def jobLine (jobs : List Job) (numbered : Bool) (j : Job) : String :=
  let sign :=
    if jobs.head?.map Job.slot == some j.slot then '+'
    else if jobs[1]?.map Job.slot == some j.slot then '-'
    else ' '
  let state :=
    match j.isDone, j.ended? with
    | true, some (.exited 0) => "Done"
    | true, some (.exited n) => "Done(" ++ toString n ++ ")"
    | true, some (.killed n) => signalWords n
    | _, _ => "Running"
  let number := ((j.members.head?).map fun m => toString m.number ++ " ").getD ""
  let front := "[" ++ toString j.slot ++ "] " ++ String.ofList [sign, ' '] ++
    (if numbered then number else "") ++ state
  front ++ String.ofList (List.replicate (33 - front.length) ' ') ++
    String.join (List.replicate (j.members.length - 1) " | ") ++ "\n"

/-- Says which jobs there are. Those that are over are forgotten. -/
def listJobs (args : List String) : Act Nat := do
  let (options, names) ← letters "lp" args
  reap
  let chosen ← if names.isEmpty then asks Process.jobs else names.mapM fun n => jobFor (some n)
  chosen.forM fun j => do
    let jobs ← asks Process.jobs
    if options.any (·.1 == 'p') then
      say (((j.members.head?).map fun m => toString m.number).getD "" ++ "\n")
    else
      say (jobLine jobs (options.any (·.1 == 'l')) j)
      if j.isDone then change fun p => { p with jobs := p.jobs.filter (·.slot != j.slot) }
  return 0

/-- Jobs are not moved to the front or the back. -/
def moveJob (args : List String) : Act Nat := do
  let (_, args) ← letters "" args
  let _ ← jobFor args.head?
  fail ("job " ++ args.head?.getD "(null)" ++ " not created under job control")

/-- Says which signals there are, or which one a status stands for. -/
def listSignals : List String → Act Nat
  | [] => do
    say "0\n"
    ((List.range signalCount).drop 1).forM fun n => say (signalName n ++ "\n")
    return 0
  | a :: _ => do
    let n ← wholeNumber a
    let n := if 128 < n then n - 128 else n
    if n = 0 || signalCount ≤ n then fail ("invalid signal number or exit status: " ++ a)
    say (signalName n ++ "\n")
    return 0

def kill (args : List String) : Act Nat := do
  let (signal, list, targets) : Option Nat × Bool × List String ←
    match args with
    | [] => fail killUsage
    | a :: rest =>
      match a.toList with
      | '-' :: cs =>
        match signalOf? (String.ofList cs) with
        | some n => pure (some n, false, rest)
        | none => do
          let (options, rest) ← letters "ls:" args
          let signal ← options.foldlM (fun s (c, value) => do
            if c != 's' then return s
            match signalOf? value with
            | some n => return some n
            | none => fail ("invalid signal number or name: " ++ value)) none
          pure (signal, options.any (·.1 == 'l'), rest)
      | _ => pure (none, false, args)
  if list then return ← listSignals targets
  if targets.isEmpty then fail killUsage
  targets.foldlM (fun status t => do
    let found ←
      if t.toList.head? == some '%' then do
        -- jobs have no groups of their own
        let _ ← jobFor (some t)
        pure false
      else
        match t.toList with
        | '-' :: cs => do
          -- there are no groups of processes
          let number ← wholeNumber (String.ofList cs)
          pure (number = 0)
        | _ => do send (signal.getD 15) (← wholeNumber t)
    if found then return status
    complain "No such process\n"
    return 1) 0

def Process.markWaited (p : Process) (which : Job → Bool) : Process :=
  { p with jobs := p.jobs.map fun j => if which j then { j with waited := true } else j }

/-- The status of a command that a signal has broken off. -/
def brokenOff : Act Nat := do
  return 128 + ((← asks Process.caught).getLast?.getD 0)

def waitForAll : Nat → Act Nat
  | 0 => return 0
  | fuel + 1 => do
    let jobs ← asks Process.jobs
    let done := jobs.takeWhile Job.isDone
    change (·.markWaited fun j => done.any (·.slot == j.slot))
    if done.length = jobs.length then return 0
    if ← awaitDeaths none true (← processFuel) then waitForAll fuel else brokenOff

/-- Waits for a job. The status is missing if a signal comes first. -/
def waitForJob (slot : Nat) : Act (Option Nat) := do
  if !(← awaitDeaths (some slot) true (← processFuel)) then return none
  change (·.markWaited (·.slot == slot))
  return some (← asks fun p => (((p.job? slot).bind Job.ended?).map Ended.status).getD 0)

/-- Waits for jobs, one after another, and gives the status of the last one. -/
def waitForEach : List String → Nat → Act Nat
  | [], status => return status
  | a :: args, status => do
    let job : Option Job ←
      if a.toList.head? == some '%' then do pure (some (← jobFor (some a)))
      else do
        let number ← wholeNumber a
        asks fun p => p.jobs.find? fun j => (j.members.getLast?.map JobMember.number) == some number
    match job with
    | none => waitForEach args status
    | some j =>
      match ← waitForJob j.slot with
      | some status => waitForEach args status
      | none => brokenOff

def wait (args : List String) : Act Nat := do
  let (_, args) ← letters "" args
  match args with
  | [] => waitForAll ((← asks fun p => p.jobs.length) + 1)
  | _ => waitForEach args 127

end Shell
end SymbolIndex
