import LspRelay.Host.Tool.Launch

namespace LspRelay.Tool

open Process

/-- Another program takes the place of this one, or it could not be executed. -/
def execute (command : List Bytes) : Act Unit :=
  launch command fun name e =>
    fail (launchStatus e) (ofText "failed to execute " ++ name ++ ofText (": " ++ e.description))

def badUsage : Act Unit := misuse 1 (ofText "bad usage")

def bufferFault? (key : Char) (mode : Bytes) : Option Bytes :=
  if mode = ofText "L" then none
  else if (amount? "bkKmMGTPE" mode).isSome then none
  else if mode.length = 2 ∧ ((ofText "ZYRQ").contains (mode.getLast?.getD 0)) ∧
      (number? (mode.take 1)).isSome then
    some (ofText "invalid mode " ++ quoted mode ++
      ofText ": Value too large for defined data type")
  else if key = 'i' ∧ mode = [] then some (ofText "invalid mode ''")
  else some (ofText "invalid mode " ++ quoted mode)

def stdbuf : Command := fun args => do
  let known := [option 'i' "input" .value, option 'o' "output" .value, option 'e' "error" .value]
  withLeadingOptions known 125 args fun c => do
    for (key, mode) in c.options do
      if key = 'i' ∧ mode = ofText "L" then
        misuse 125 (ofText "line buffering stdin is meaningless")
        exit 125
      match bufferFault? key mode with
      | some text => die 125 text
      | none => pure ()
    if c.operands = [] then missingOperand 125
    else if c.options = [] then misuse 125 (ofText "you must specify a buffering mode option")
    else
      match c.value? 'o' with
      | none => pure ()
      | some mode =>
        let isPrompt := mode = ofText "L" || mode.all (· = Octet.zero)
        modify fun p => { p with isPrompt }
      launch c.operands fun name e =>
        fail (launchStatus e) (ofText "failed to run command " ++ quoted name ++
          ofText (": " ++ e.description))

def ionice : Command := fun args =>
  let known := [option 'c' "class" .value, option 'n' "classdata" .value, option 'p' "pid" .value,
    option 'P' "pgid" .value, option 'u' "uid" .value, option 't' "ignore" .nothing]
  withLeadingOptions known 1 args fun c => do
    match c.value? 'c' with
    | none => pure ()
    | some name =>
      let classes := ["none", "realtime", "best-effort", "idle"]
      if (number? name).isNone ∧ !classes.any fun s => ofText s = name then
        die 1 (ofText "unknown scheduling class: " ++ between name)
      if ((number? name).getD 0) > 3 then complain (ofText "unknown prio class " ++ name)
    if c.operands = [] then
      if !c.has 'c' ∧ !c.has 'n' then printLine (ofText "none: prio 0")
    else execute c.operands

def taskset : Command := fun args =>
  let known := [option 'a' "all-tasks" .nothing, option 'p' "pid" .nothing,
    option 'c' "cpu-list" .nothing]
  withLeadingOptions known 1 args fun c => do
    match c.operands with
    | set :: command =>
      let digits := if (ofText "0x").isPrefixOf set then set.drop 2 else set
      let isHex (b : UInt8) : Bool :=
        b = octet ',' || (Decimal.Floating.hexValue? (Char.ofNat b.toNat)).isSome
      let isListed (b : UInt8) : Bool := (ofText "0123456789-,:").contains b
      if c.has 'p' then pure ()
      else if command = [] then badUsage
      else if c.has 'c' ∧ !(set ≠ [] && set.all isListed) then
        die 1 (ofText "failed to parse CPU list: " ++ set)
      else if !c.has 'c' ∧ !(digits ≠ [] && digits.all isHex) then
        die 1 (ofText "failed to parse CPU mask: " ++ set)
      else execute command
    | [] => badUsage

/-- Runs a program while it has the lock of a file, which is made if there is none. Nobody else has
it. -/
def flock : Command := fun args => do
  let known := [option 's' "shared" .nothing, option 'x' "exclusive" .nothing,
    option 'e' "exclusive" .nothing, option 'u' "unlock" .nothing, option 'n' "nonblock" .nothing,
    named 'N' "nb" .nothing, option 'w' "timeout" .value, option 'o' "close" .nothing,
    option 'E' "conflict-exit-code" .value, option 'F' "no-fork" .nothing,
    named 'v' "verbose" .nothing]
  if args = [] then
    misuse 64 (ofText "not enough arguments")
    exit 64
  withLeadingOptions known 64 args fun c => do
    match c.operands with
    | [] => die 64 (ofText "requires file descriptor, file or directory")
    | [text] =>
      match number? text with
      | none => die 64 (ofText "bad file descriptor: " ++ between text)
      | some n =>
        if ((← get).stream? n).isNone then
          fail 65 (text ++ ofText ": Bad file descriptor")
    | file :: command =>
      let isScript := [ofText "-c", ofText "--command"].contains (command.headD [])
      if isScript ∧ command.length ≠ 2 then
        die 64 (ofText "-c requires exactly one command argument")
      let isDirectory ← match ← node file with
        | .ok n => pure n.isDirectory
        | .error _ => pure false
      if !isDirectory then
        match ← openTarget file false with
        | .ok _ => pure ()
        | .error e =>
          die 66 (ofText "cannot open lock file " ++ file ++ ofText (": " ++ e.description))
      let command :=
        if isScript then [ofText "/bin/sh", ofText "-c"] ++ command.tail else command
      launch command fun name e =>
        fail 69 (ofText "failed to execute " ++ name ++ ofText (": " ++ e.description))

def personalityOptions : List Choice :=
  letters "BFILRSTXZ3" .nothing ++ [named '4' "4gb" .nothing, named 'l' "list" .nothing,
    option 'v' "verbose" .nothing, named 'u' "uname-2.6" .nothing]

def architectures : List String :=
  ["uname26", "linux32", "linux64", "i386", "i486", "i586", "i686", "athlon", "x86_64"]

/-- Runs a program as on another machine; without one, it runs a shell. -/
def onMachine (command : List Bytes) : Act Unit :=
  execute (if command = [] then [ofText "/bin/sh"] else command)

def setarch : Command := fun args => do
  let isKnown (name : Bytes) : Bool := architectures.any fun s => ofText s = name
  let own := ((← get).label.splitOn Octet.slash).getLastD []
  let (first, args) := if isKnown own then (some own, args) else match args with
    | arg :: rest => if arg.head? = some Octet.dash then (none, args) else (some arg, rest)
    | [] => (none, [])
  match first with
  | some name =>
    if !isKnown name then die 1 (name ++ ofText ": Unrecognized architecture")
  | none => pure ()
  withLeadingOptions personalityOptions 1 args fun c => do
    if c.has 'l' then
      for name in architectures do printLine (ofText name)
    else if first.isNone ∧ c.options = [] then
      die 1 (ofText "no architecture argument or personality flags specified")
    else onMachine c.operands

def chrt : Command := fun args =>
  let known := letters "abdfiorRvmp" .nothing ++ [option 'T' "sched-runtime" .value,
    option 'P' "sched-period" .value, option 'D' "sched-deadline" .value]
  withLeadingOptions known 1 args fun c => do
    match c.operands with
    | priority :: command =>
      let isPlain := c.has 'o' || c.has 'b' || c.has 'i'
      match number? priority with
      | none => die 1 (ofText "invalid priority argument: " ++ between priority)
      | some n =>
        if command = [] then badUsage
        else if (isPlain ∧ n ≠ 0) ∨ (!isPlain ∧ (n = 0 ∨ 99 < n)) then
          die 1 (ofText "unsupported priority value for the policy: " ++ decimal n ++
            ofText ": see --max for valid range")
        else execute command
    | [] => badUsage

/-- Runs a program that is ended sooner or later than others when memory is short. -/
def choom : Command := fun args =>
  withLeadingOptions [option 'n' "adjust" .value, option 'p' "pid" .value] 1 args fun c => do
    match c.value? 'n' with
    | none => misuse 1 (ofText "no OOM score adjust value specified")
    | some n =>
      if (integer? n).isNone then die 1 (ofText "invalid adjust argument: " ++ between n)
      if c.operands = [] then badUsage else execute c.operands

def runAfterOptions : Command := fun args => do
  let command := args.dropWhile fun arg => arg.head? = some Octet.dash
  if command ≠ [] then execute command

def listedSignal (n : Nat) : Bytes := ofText (if n = 29 then "POLL" else Signal.name n)

def signalTable : Bytes :=
  let cell (n : Nat) : Bytes :=
    let digits := decimal n
    let name := listedSignal n
    List.replicate (2 - digits.length) Octet.space ++ digits ++ Octet.space :: name ++
      (if n % 7 = 0 then [Octet.lineFeed] else List.replicate (8 - name.length) Octet.space)
  ((List.range 31).flatMap fun n => cell (n + 1)) ++ [Octet.lineFeed]

def killHelp : String :=
  "\nUsage:\n kill [options] <pid> [...]\n\nOptions:\n" ++
  " <pid> [...]            send signal to every <pid> listed\n" ++
  " -<signal>, -s, --signal <signal>\n" ++
  "                        specify the <signal> to be sent\n" ++
  " -q, --queue <value>    integer value to be sent with the signal\n" ++
  " -l, --list=[<signal>]  list all signal names, or convert one to a name\n" ++
  " -L, --table            list all signal names in a nice table\n\n" ++
  " -h, --help     display this help and exit\n" ++
  " -V, --version  output version information and exit\n\nFor more details see kill(1).\n"

def signalOf? (bs : Bytes) : Option Nat :=
  let bs := upper bs
  Signal.ofBytes? 0 (if (ofText "SIG").isPrefixOf bs then bs.drop 3 else bs)

def sendTo (signal number : Nat) : Act Bool := do
  let p ← get
  if number = p.number then
    if signal = 0 ∨ Signal.isHarmless signal ∨ (signal ≠ 9 ∧ signal ∈ p.ignored) then return true
    else
      flush
      fun q => .ended { q with killedBy := some signal }
  else if p.others.any fun q => q.number = number then
    if signal ≠ 0 then
      set { p with sent := ⟨number, false, signal⟩ :: p.sent }
      fun p => .wait .nothing p fun q => .done () q
    return true
  else return p.remains.any fun r => r.number = number

def killProcesses (signal : Nat) (targets : List Bytes) : Act Unit := do
  if targets = [] then
    writeError (ofText killHelp)
    setStatus 1
  for target in targets do
    match number? target with
    | none =>
      complain (ofText "failed to parse argument: " ++ between target)
      exit 1
    | some n =>
      if !(← sendTo signal n) then
        fail 1 (ofText "(" ++ target ++ ofText "): No such process")

/-- Shows the names of signals, eight or so in a row, or the name or the number of one. -/
def listSignals : List Bytes → Act Unit
  | [] => do
    let name (n : Nat) : Bytes := listedSignal (n + 1)
    printLine (joined ((List.range 16).map name))
    printLine (joined ((List.range 15).map fun n => name (n + 16)))
  | arg :: _ => do
    match number? arg, signalOf? arg with
    | some n, _ =>
      if 0 < n ∧ n < 32 then printLine (listedSignal n)
      else complain (ofText "unknown signal name " ++ arg)
    | none, some n => printLine (decimal n)
    | none, none => complain (ofText "unknown signal name " ++ arg)

def kill : Command := fun args => do
  let refused (bs : Bytes) : Act Unit := do
    complain (ofText "invalid argument " ++ bs.take 1)
    writeError (ofText killHelp)
    setStatus 1
  let send (name : Bytes) (targets : List Bytes) : Act Unit :=
    match signalOf? name, targets with
    | some signal, _ => killProcesses signal targets
    | none, target :: _ => fail 1 (ofText "(" ++ target ++ ofText "): Invalid argument")
    | none, [] => killProcesses 0 []
  match args with
  | [] => killProcesses 15 []
  | (Octet.dash :: option) :: rest =>
    if option = ofText "l" || option = ofText "-list" then listSignals rest
    else if (ofText "-list=").isPrefixOf option then listSignals [option.drop 6]
    else if option = ofText "L" || option = ofText "-table" then print signalTable
    else if option = ofText "h" || option = ofText "-help" then print (ofText killHelp)
    else if option = ofText "-" then killProcesses 15 rest
    else if (ofText "-signal=").isPrefixOf option then send (option.drop 8) rest
    else if option = ofText "s" || option = ofText "-signal" then
      match rest with
      | name :: targets => send name targets
      | [] => refused option
    else
      match signalOf? option with
      | some signal => killProcesses signal rest
      | none =>
        if option.head? = some (octet 's') ∧ 1 < option.length then send (option.drop 1) rest
        else refused option
  | targets => killProcesses 15 targets

end LspRelay.Tool
