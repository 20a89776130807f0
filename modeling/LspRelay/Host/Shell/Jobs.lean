import LspRelay.Host.Shell.Variables

namespace LspRelay.Shell

open Run

namespace Machine

def notice (m : Machine) : Machine :=
  { m with
    jobs := m.jobs.map fun j => if (m.fate? j).isSome then { j with isNoticed := true } else j }

def forget (m : Machine) : Machine :=
  match m.jobs.find? fun j => j.isWaited with
  | some j =>
    { m with
      process := j.numbers.foldl Process.buried m.process
      jobs := m.jobs.filter fun k => k.numbers ≠ j.numbers }
  | none => m

def freePlace (m : Machine) : Nat :=
  ((List.range (m.jobs.length + 1)).find? fun n => m.jobs.all fun j => j.place ≠ n + 1).getD 0 + 1

end Machine

/-- Waits until processes are over, unless a signal comes that the shell has a trap for. -/
def waitUntilOver (numbers : List Nat) : Run (Option Nat) := do
  let isOver (w : World) : Bool := numbers.all fun n => (w.fate? n).isSome
  if !isOver (← get).process.toWorld then
    act (fun p => .wait (.event none isOver true) p fun q => .done () q) ()
  let p := (← get).process
  return if isOver p.toWorld then p.signals.find? fun s => s ≠ Signal.child else p.signals.head?

def findJob (name : Option Bytes) : Run Job := do
  let jobs := (← get).jobs
  let newest := jobs.getLast?
  let found (j : Option Job) (text : Bytes) : Run Job :=
    match j with
    | some j => return j
    | none => fail text
  match name with
  | none => found newest (ofText "No current job")
  | some name =>
    let about : Bytes := ofText "No such job: " ++ name
    match name with
    | Octet.percent :: rest =>
      if rest = [] ∨ rest = [Octet.plus] ∨ rest = [Octet.percent] then
        found newest (ofText "No current job")
      else if rest = [Octet.dash] then found jobs.dropLast.getLast? (ofText "No previous job")
      else found (jobs.find? fun j => some j.place = number? rest) about
    | _ => fail about

def sendSelf (signal : Nat) : Run Unit := do
  let p := (← get).process
  if signal ∈ p.caught then update fun p => { p with signals := p.signals ++ [signal] }
  else if signal ∈ p.ignored ∧ signal ≠ 9 ∨ Signal.isHarmless signal then return ()
  else if Signal.isStop signal then
    update fun p => { p with sent := ⟨p.number, false, signal⟩ :: p.sent }
    act (fun p => .wait .nothing p fun q => .done () q) ()
  else throw (.killed signal)

/-- Sends a signal, unless there is no such process. -/
def sendSignal (signal number : Nat) : Run Bool := do
  let m ← get
  let p := m.process
  if number = p.number then
    if signal ≠ 0 then sendSelf signal
    return true
  else if p.others.any fun q => q.number = number then
    if signal ≠ 0 then
      update fun p => { p with sent := ⟨number, false, signal⟩ :: p.sent }
      act (fun p => .wait .nothing p fun q => .done () q) ()
    return true
  else
    let isKnown (j : Job) : Bool := j.numbers.contains number && !j.isNoticed && !j.isWaited
    return m.jobs.any isKnown ||
      p.remains.any fun r => r.number = number && r.parent ≠ p.number

def killUsage : Bytes :=
  ofText ("Usage: kill [-s sigspec | -signum | -sigspec] [pid | job]... or\n" ++
    "kill -l [exitstatus]")

def killAll (signal : Nat) (targets : List Bytes) : Run Nat := do
  if targets = [] then fail killUsage
  let mut status := 0
  for target in targets do
    let good ← match target with
      | Octet.percent :: _ => do
        let _ ← findJob (some target)
        pure false
      | Octet.dash :: group => do
        let _ ← number group
        pure false
      | target => do sendSignal signal (← number target)
    if !good then
      warn (ofText "No such process\n")
      status := 1
  return status

def showSignals (args : List Bytes) : Run Nat := do
  match args with
  | [] =>
    printLine (ofText "0")
    for n in List.range (Signal.count - 1) do printLine (ofText (Signal.name (n + 1)))
    return 0
  | arg :: _ =>
    let n ← number arg
    let n := if 128 < n then n - 128 else n
    if 0 < n ∧ n < Signal.count then
      printLine (ofText (Signal.name n))
      return 0
    else fail (ofText "invalid signal number or exit status: " ++ arg)

def killProcesses (args : List Bytes) : Run Nat := do
  match args with
  | [] => fail killUsage
  | (Octet.dash :: name) :: rest =>
    match Signal.ofBytes? 1 name with
    | some signal => killAll signal rest
    | none =>
      if name = ofText "0" then killAll 0 rest
      else
        let (options, rest) ← lettersOf "ls:" args
        let mut signal := 15
        for (letter, value) in options do
          if letter = 's' then
            match Signal.ofBytes? 1 value with
            | some n => signal := n
            | none => fail (ofText "invalid signal number or name: " ++ value)
        if options.any fun o => o.1 = 'l' then showSignals rest else killAll signal rest
  | targets => killAll 15 targets

def waitForJobs (args : List Bytes) : Run Nat := do
  let (_, names) ← lettersOf "" args
  if names = [] then
    match ← waitUntilOver ((← get).jobs.flatMap Job.numbers) with
    | some signal => return 128 + signal
    | none =>
      modify fun m => { m with jobs := m.jobs.map fun j => { j with isWaited := true } }
      return 0
  let mut status := 127
  for name in names do
    let job? ← match name with
      | Octet.percent :: _ => do pure (some (← findJob (some name)))
      | name => do
        let n ← number name
        pure ((← get).jobs.find? fun j => j.numbers.getLast? = some n)
    match job? with
    | none => pure ()
    | some j =>
      match ← waitUntilOver j.numbers with
      | some signal => return 128 + signal
      | none =>
        let fate := ((← get).fate? j).getD ⟨0, none⟩
        match fate.killedBy with
        | some signal =>
          if !j.isNoticed ∧ !j.isWaited ∧ signal ≠ 2 ∧ signal ≠ 13 then
            say (lineOf (Signal.description signal))
        | none => pure ()
        modify fun m =>
          { m with
            jobs := m.jobs.map fun k =>
              if k.numbers = j.numbers then { k with isWaited := true } else k }
        status := fate.outcome
  return status

def jobLine (m : Machine) (withNumber : Bool) (j : Job) : Bytes :=
  let isAt (k : Option Job) : Bool := k.any fun k => k.place = j.place
  let mark :=
    if isAt m.jobs.getLast? then "+" else if isAt m.jobs.dropLast.getLast? then "-" else " "
  let state : Bytes :=
    match m.fate? j with
    | none => ofText "Running"
    | some ⟨_, some signal⟩ => Signal.description signal
    | some ⟨status, none⟩ =>
      ofText (if status = 0 then "Done" else "Done(" ++ toString status ++ ")")
  let number := (j.numbers.head?.map fun n => decimal n ++ [Octet.space]).getD []
  let text := ofText ("[" ++ toString j.place ++ "] " ++ mark ++ " ") ++
    (if withNumber then number else []) ++ state
  lineOf (text ++ List.replicate (max (33 - text.length) 0) Octet.space)

def showJobs (args : List Bytes) : Run Nat := do
  let (options, names) ← lettersOf "lp" args
  let m ← get
  let shown ← if names = [] then pure m.jobs.reverse else names.mapM fun n => findJob (some n)
  let mode := (options.getLast?.map Prod.fst).getD ' '
  for j in shown do
    if mode = 'p' then printLine (decimal (j.numbers.headD 0))
    else print (jobLine m (mode = 'l') j)
  if mode ≠ 'p' then
    let isOver (j : Job) : Bool :=
      shown.any (fun k => k.place = j.place) && (m.fate? j).isSome
    modify fun m =>
      { m with
        process := ((m.jobs.filter isOver).flatMap Job.numbers).foldl Process.buried m.process
        jobs := m.jobs.filter (!isOver ·) }
  return 0

def controlJob (args : List Bytes) : Run Nat := do
  let (_, names) ← lettersOf "" args
  let _ ← findJob names.head?
  fail (ofText "job " ++ names.headD (ofText "(null)") ++
    ofText " not created under job control")

def setTraps (args : List Bytes) : Run Nat := do
  let (_, args) ← lettersOf "" args
  match args with
  | [] =>
    let m ← get
    for n in List.range Signal.count do
      match m.traps.lookup n with
      | some action =>
        printLine (ofText "trap -- " ++ singleQuoted action ++ ofText (" " ++ Signal.name n))
      | none => pure ()
    return 0
  | first :: rest =>
    let isName := (number? first).any fun n => n < Signal.count
    let (action, names) : Option Bytes × List Bytes :=
      if rest = [] ∨ isName then (none, args)
      else (if first = [Octet.dash] then none else some first, rest)
    for name in names do
      match Signal.ofBytes? 0 name with
      | none =>
        say (lineOf (ofText "trap: " ++ name ++ ofText ": bad trap"))
        return 1
      | some n =>
        modify fun m => m.setTrap n action
    return 0

end LspRelay.Shell
