import LspRelay.Host.Process.Lookup
import LspRelay.Host.Text.Layout
import LspRelay.Host.Tool.Amounts

namespace LspRelay.Tool

open Process

/-- The status of a program that cannot run another: it is not there, or cannot be executed. -/
def launchStatus (e : SystemError) : Nat :=
  if e = .notFound ∨ e = .notADirectory then 127 else 126

def launch (command : List Bytes) (refuse : Bytes → SystemError → Act Unit) : Act Unit := do
  let name := command.headD []
  match (← get).locate name with
  | .ok _ => replaceBy command
  | .error e => refuse name e

def withVariable (vs : List (Bytes × Bytes)) (name value : Bytes) : List (Bytes × Bytes) :=
  if vs.any fun v => v.1 = name then vs.map fun v => if v.1 = name then (name, value) else v
  else vs ++ [(name, value)]

/-- Splits a text into words as `env` does it: at blanks, with quotes and escapes, and with
variables in braces. The fuel is more than the number of octets. -/
def splitWords (lookup : Bytes → Bytes) :
    Nat → Option UInt8 → Option Bytes → Bytes → Except Bytes (List Bytes)
  | 0, _, word, _ => .ok word.toList
  | fuel + 1, quote, word, bs =>
    let so := word.getD []
    match bs with
    | [] =>
      if quote.isSome then .error (ofText "no terminating quote in -S string") else .ok word.toList
    | b :: bs =>
      if b = Octet.backslash ∧ quote ≠ some Octet.singleQuote then
        match bs with
        | [] => .error (ofText "invalid backslash at end of string in -S")
        | c :: rest =>
          let plain : List Char := ['"', '\'', '\\', '$', '#']
          let escape : Option UInt8 :=
            if plain.any fun p => octet p = c then some c
            else
              ([('f', (12 : UInt8)), ('n', 10), ('r', 13), ('t', 9), ('v', 11)].find? fun p =>
                octet p.1 = c).map Prod.snd
          match escape with
          | some e => splitWords lookup fuel quote (some (so ++ [e])) rest
          | none =>
            if c = octet '_' then
              if quote.isSome then splitWords lookup fuel quote (some (so ++ [Octet.space])) rest
              else do return word.toList ++ (← splitWords lookup fuel none none rest)
            else if c = octet 'c' then
              if quote.isSome then
                .error (ofText "'\\c' must not appear in double-quoted -S string")
              else .ok word.toList
            else .error (ofText "invalid sequence '\\" ++ [c] ++ ofText "' in -S")
      else if (b = Octet.singleQuote ∨ b = Octet.doubleQuote) ∧ (quote = none ∨ quote = some b) then
        splitWords lookup fuel (if quote.isSome then none else some b) (some so) bs
      else if isBlankOctet b ∧ quote.isNone then do
        return word.toList ++ (← splitWords lookup fuel none none bs)
      else if b = octet '$' ∧ quote ≠ some Octet.singleQuote then
        let name := (bs.drop 1).takeWhile (· ≠ octet '\x7d')
        if bs.head? = some (octet '\x7b') ∧ bs.contains (octet '\x7d') then
          splitWords lookup fuel quote (some (so ++ lookup name)) (bs.drop (name.length + 2))
        else .error (ofText "only ${VARNAME} expansion is supported, error at: $" ++ bs)
      else splitWords lookup fuel quote (some (so ++ [b])) bs

def env : Command := fun args => do
  let known := [option 'i' "ignore-environment" .nothing, option '0' "null" .nothing,
    option 'u' "unset" .value, option 'C' "chdir" .value, option 'S' "split-string" .value,
    option 'v' "debug" .nothing]
  let p ← get
  let lookup (name : Bytes) : Bytes := (p.bindings.lookup name).getD []
  let expanded : Except Bytes (List Bytes) :=
    match args with
    | (Octet.dash :: option) :: rest =>
      let letters := option.takeWhile (· ≠ octet 'S')
      if option.contains (octet 'S') ∧ letters.all fun b => b = octet 'i' ∨ b = octet 'v' then
        let joined := option.drop (letters.length + 1)
        let text := if joined = [] then rest.headD [] else joined
        do
          let words ← splitWords lookup (text.length + 1) none none text
          return (if letters = [] then [] else [Octet.dash :: letters]) ++ words ++
            (if joined = [] then rest.drop 1 else rest)
      else .ok args
    | args => .ok args
  match expanded with
  | .error text => die 125 text
  | .ok args =>
    withLeadingOptions known 125 args fun c => do
      let (hasDash, operands) := match c.operands with
        | [Octet.dash] :: rest => (true, rest)
        | operands => (false, operands)
      if c.has 'i' ∨ hasDash then modify fun p => { p with bindings := [] }
      for name in c.values 'u' do
        if name = [] ∨ name.contains Octet.equals then
          die 125 (ofText "cannot unset " ++ quoted name ++ ofText ": Invalid argument")
        modify fun p => { p with bindings := p.bindings.filter fun v => v.1 ≠ name }
      let isSetting (arg : Bytes) : Bool := arg.contains Octet.equals
      for setting in operands.takeWhile isSetting do
        let name := setting.takeWhile (· ≠ Octet.equals)
        let value := setting.drop (name.length + 1)
        modify fun p => { p with bindings := withVariable p.bindings name value }
        if c.has 'v' then writeError (lineOf (ofText "setenv:   " ++ setting))
      let command := operands.dropWhile isSetting
      if c.has '0' ∧ command ≠ [] then
        misuse 125 (ofText "cannot specify --null (-0) with command")
      else if c.has 'C' ∧ command = [] then
        misuse 125 (ofText "must specify command with --chdir (-C)")
      else if command = [] then
        let ending : Bytes := if c.has '0' then [0] else [Octet.lineFeed]
        for (name, value) in (← get).bindings do
          print (name ++ Octet.equals :: value ++ ending)
      else
        match c.value? 'C' with
        | none => pure ()
        | some directory =>
          let p ← get
          match Path.resolve p.files.root p.here true directory with
          | .ok ⟨place, some (.directory ..)⟩ => set { p with here := place }
          | .ok ⟨_, some _⟩ =>
            die 125 (ofText "cannot change directory to " ++ shellQuoted directory ++
              ofText ": Not a directory")
          | .ok ⟨_, none⟩ =>
            die 125 (ofText "cannot change directory to " ++ shellQuoted directory ++
              ofText ": No such file or directory")
          | .error e =>
            die 125 (ofText "cannot change directory to " ++ shellQuoted directory ++
              ofText (": " ++ e.description))
        if c.has 'v' then
          writeError (lineOf (ofText "executing: " ++ command.headD []))
          for (arg, i) in command.zipIdx do
            writeError (lineOf (ofText ("   arg[" ++ toString i ++ "]= ") ++ quoted arg))
        launch command fun name e => do
          fail (launchStatus e) (quoted name ++ ofText (": " ++ e.description))
          if e = .notFound ∧ name.any isBlankOctet then
            complain (ofText "use -[v]S to pass options in shebang lines")

def printenv : Command := fun args =>
  withLeadingOptions [option '0' "null" .nothing] 2 args fun c => do
    let ending : Bytes := if c.has '0' then [0] else [Octet.lineFeed]
    let p ← get
    if c.operands = [] then
      for (name, value) in p.bindings do print (name ++ Octet.equals :: value ++ ending)
    for name in c.operands do
      match p.bindings.lookup name with
      | some value => print (value ++ ending)
      | none => setStatus 1

def plainAdjustment (args : List Bytes) : List Bytes :=
  match args with
  | (Octet.dash :: b :: bs) :: rest =>
    let digits := if b = Octet.dash ∨ b = Octet.plus then bs else b :: bs
    if (number? digits).isSome then [ofText "-n", b :: bs] ++ rest else args
  | args => args

def nice : Command := fun args =>
  withLeadingOptions [option 'n' "adjustment" .value] 125 (plainAdjustment args) fun c => do
    match c.operands, c.value? 'n' with
    | [], none => printLine (signedDecimal (← get).niceness)
    | [], some _ => misuse 125 (ofText "a command must be given with an adjustment")
    | command, value =>
      match (value.map integer?).getD (some 10) with
      | none => die 125 (ofText "invalid adjustment " ++ quoted (value.getD []))
      | some n =>
        modify fun p => { p with niceness := max (-20) (min 19 (p.niceness + n)) }
        launch command fun program e =>
          fail (launchStatus e) (quoted program ++ ofText (": " ++ e.description))

/-- Runs a program that does not notice when its session ends. -/
def nohup : Command := fun args =>
  withLeadingOptions [] 125 args fun c => do
    if c.operands = [] then missingOperand 125
    else
      modify fun p =>
        if p.ignored.contains 1 then p else { p with ignored := 1 :: p.ignored }
      launch c.operands fun name e =>
        fail (launchStatus e) (ofText "failed to run command " ++ quoted name ++
          ofText (": " ++ e.description))

def setsid : Command := fun args =>
  let known := [option 'c' "ctty" .nothing, option 'f' "fork" .nothing, option 'w' "wait" .nothing]
  withLeadingOptions known 1 args fun c => do
    if c.operands = [] then misuse 1 (ofText "no command specified")
    else
      launch c.operands fun name e =>
        fail (launchStatus e) (ofText "failed to execute " ++ name ++
          ofText (": " ++ e.description))

/-- Sends a signal to a process, and to the group of this one if that is its own. -/
def sendBoth (child : Nat) (isApart : Bool) (signal : Nat) : Act Unit := do
  let p ← get
  let toChild (n : Nat) : Sending := ⟨child, false, n⟩
  let toAll (n : Nat) : Sending := ⟨p.number, true, n⟩
  let sent := if isApart then
      [toChild signal, toAll signal] ++
        (if signal = 9 ∨ signal = Signal.proceed then []
          else [toChild Signal.proceed, toAll Signal.proceed])
    else [toChild signal]
  set { p with
    caught := if isApart then p.caught.filter (· ≠ signal) else p.caught
    ignored := if isApart then signal :: p.ignored else p.ignored
    sent := sent.reverse ++ p.sent }
  fun p => .wait .nothing p fun q => .done () q

/-- Waits for the end of a process, which gets a signal when a time has come, and the surest one
when it has had patience for some time more. Signals to this process go on to that one. It tells
whether the time has come. -/
def watch (child : Nat) (isApart : Bool) (tell : Nat → Act Unit) :
    Nat → Option Nat → Option Nat → Nat → Bool → Act Bool
  | 0, _, _, _, isLate => return isLate
  | fuel + 1, deadline, patience, signal, isLate => do
    let isOver (w : World) : Bool := (w.fate? child).isSome
    let p ← get
    if !isOver p.toWorld && p.signals.isEmpty then
      fun p => .wait (.event deadline isOver true) p fun q => .done () q
    let p ← get
    if isOver p.toWorld then return isLate
    let come := p.signals.head?
    modify fun p => { p with signals := p.signals.tail }
    let now := come.getD signal
    tell now
    sendBoth child isApart now
    let isLate := isLate || come.isNone
    match patience with
    | some n => watch child isApart tell fuel (some (p.clock + n)) none 9 isLate
    | none => watch child isApart tell fuel (if come.isSome then deadline else none) none signal isLate

/-- Runs a program, and sends it a signal after a time if it has not come to its end. -/
def timeout : Command := fun args =>
  let known := [option 's' "signal" .value, option 'k' "kill-after" .value,
    option 'v' "verbose" .nothing, option 'f' "foreground" .nothing,
    option 'p' "preserve-status" .nothing]
  withLeadingOptions known 125 args fun c => do
    let hint : Act Unit := do
      let label := (← get).label
      writeError (ofText "Try " ++ between (label ++ ofText " --help") ++
        ofText " for more information.\n")
      exit 125
    let signal ← match c.value? 's' with
      | none => pure 15
      | some text =>
        let plain := upper text
        let plain := if (ofText "SIG").isPrefixOf plain then plain.drop 3 else plain
        match Signal.ofBytes? 0 plain with
        | some n => pure n
        | none => do
          complain (quoted text ++ ofText ": invalid signal")
          hint
          pure 0
    let time (text : Bytes) : Act Nat := do
      match milliseconds? text with
      | some n => return n
      | none => do
        complain (ofText "invalid time interval " ++ quoted text)
        hint
        return 0
    let patience ← (c.value? 'k').mapM time
    match c.operands with
    | text :: name :: words => do
      let limit ← time text
      let p ← get
      match p.locate name with
      | .error e =>
        fail (launchStatus e) (ofText "failed to run command " ++ quoted name ++
          ofText (": " ++ e.description))
      | .ok _ =>
        flush
        let isApart := !c.has 'f'
        if isApart then modify fun p => { p with group := p.number }
        let child ← Process.launch (name :: words) id
        modify fun p => { p with caught := [1, 2, 3, 15, signal] }
        let tell (signal : Nat) : Act Unit := do
          if c.has 'v' then
            complain (ofText ("sending signal " ++ Signal.name signal ++ " to command ") ++
              quoted name)
        let deadline := if limit = 0 then none else some (p.clock + limit)
        let isLate ← watch child isApart tell waitLimit deadline patience signal false
        let fate ← awaitEnd child
        modify fun p =>
          if fate.killedBy.isSome ∧ !isLate then { p with killedBy := fate.killedBy }
          else if isLate ∧ !c.has 'p' ∧ fate.killedBy ≠ some 9 then { p with status := 124 }
          else { p with status := fate.outcome }
    | _ => hint

def which : Command := fun args => do
  let options := args.takeWhile fun arg => arg.head? = some Octet.dash && 1 < arg.length
  let names := args.drop options.length
  let letters := options.flatMap List.tail
  match letters.find? fun b => b ≠ octet 'a' && b ≠ octet 's' with
  | some b =>
    writeError (ofText "Illegal option -" ++ lineOf [b])
    let _ ← tryWrite 1 (ofText "Usage: /usr/bin/which [-as] args\n")
    setStatus 2
  | none =>
    let p ← get
    if names = [] then setStatus 1
    let path := ((p.bindings.lookup (ofText "PATH")).getD defaultPath).splitOn (octet ':')
    for name in names do
      let candidates := if name.contains Octet.slash then [name] else
        path.map fun d => (if d = [] then Path.dot else d) ++ Octet.slash :: name
      let there := candidates.filter fun file =>
        (p.files.node? p.here file).any Node.isExecutable
      if there = [] then setStatus 1
      else if !letters.contains (octet 's') then
        for file in if letters.contains (octet 'a') then there else there.take 1 do
          printLine file

def sleep : Command := fun args =>
  withOptions [] 1 args fun c => do
    if c.operands = [] then missingOperand 1
    else
      let times := c.operands.map fun text => (text, milliseconds? text)
      for (text, time) in times do
        if time.isNone then complain (ofText "invalid time interval " ++ quoted text)
      if times.any fun t => t.2.isNone then
        let label := (← get).label
        writeError (ofText "Try " ++ between (label ++ ofText " --help") ++
          ofText " for more information.\n")
        exit 1
      pause (total (times.map fun t => t.2.getD 0))

end LspRelay.Tool
