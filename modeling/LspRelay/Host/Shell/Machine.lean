import LspRelay.Host.Process.Lookup
import LspRelay.Host.Process.Signal
import LspRelay.Host.Shell.Reader

namespace LspRelay.Shell

/-- The separators of a shell that has not been told others. -/
def defaultSeparators : Bytes := [Octet.space, Octet.tab, Octet.lineFeed]

/-- A parameter with a name. It may be there without a value. -/
structure Variable where
  value? : Option Bytes
  isExported : Bool
  isReadonly : Bool

/-- A command that the shell has started beside itself, as one process or as several that are
joined by pipes, and its place among such commands. -/
structure Job where
  numbers : List Nat
  place : Nat
  /-- Whether its end has been noticed while something else was waited for. -/
  isNoticed : Bool
  /-- Whether it has been waited for. -/
  isWaited : Bool

/-- Why a shell does not go on with the next command: so many loops are left, or gone on with; a
function or a file is left; something went wrong; the shell exits with its status, or is killed; or
it never comes to an end. -/
inductive Jump where
  | leave (loops : Nat)
  | goOn (loops : Nat)
  | back
  | failed
  | exit
  | killed (signal : Nat)
  | stuck
  deriving Repr, DecidableEq

structure Frame where
  bindings : List (String × Option Variable)
  options : Option (List Char)

structure Machine where
  process : Process
  name : Bytes
  /-- The process number that scripts see, also in inner shells. -/
  root : Nat
  arguments : List Bytes
  bindings : List (String × Variable)
  frames : List Frame
  functions : List (String × Script)
  aliases : List (Bytes × Bytes)
  /-- What to do at a signal, or at the end of the shell, which has number 0. -/
  traps : List (Nat × Bytes)
  /-- The signals of which nothing is noticed whatever is to be done at them. -/
  fixed : List Nat
  /-- Whether the shell puts off its end by an interrupt until what it waits for is over. -/
  defersInterrupt : Bool
  documents : List (Nat × List Piece)
  documentCount : Nat
  line : Nat
  /-- The built-in command that complains. -/
  command : Option Bytes
  /-- The working directory as it was asked for. -/
  directory : Bytes
  options : List Char
  jobs : List Job
  newest : Option Nat
  /-- Whether the present command may fail without an effect on the shell. -/
  tested : Bool
  isInner : Bool
  loops : Nat
  /-- How many functions and files are being run. -/
  depth : Nat
  /-- The status of the last substitution in the present command. -/
  substituted : Option Nat
  /-- The place of the next argument with options, and how many octets of the one before it have
  been read, if it is not over. -/
  optionIndex : Nat
  optionOffset : Option Nat
  /-- The programs that have been found, in the order of their names' places in a table. -/
  found : List Bytes

def Run (α : Type) := Machine → Progress (Process → Course) Machine (Except Jump α)

namespace Run

instance : Monad Run where
  pure a := fun m => .done (.ok a) m
  bind x f := fun m =>
    match x m with
    | .done (.ok a) m => f a m
    | .done (.error j) m => .done (.error j) m
    | r => r.bind fun e m =>
      match e with
      | .ok a => f a m
      | .error j => .done (.error j) m

instance : MonadStateOf Machine Run where
  get := fun m => .done (.ok m) m
  set m := fun _ => .done (.ok ()) m
  modifyGet f := fun m => let (a, m) := f m; .done (.ok a) m

def attempt {α : Type} (s : Run α) : Run (Except Jump α) := fun m =>
  match s m with
  | .done r m => .done (.ok r) m
  | r => r.bind fun e m => .done (.ok e) m

instance : MonadExceptOf Jump Run where
  throw j := fun m => .done (.error j) m
  tryCatch x f := do
    match ← attempt x with
    | .ok a => return a
    | .error j => f j

end Run

/-- The options of a shell: letters, if they have one, and names. -/
def optionNames : List (Char × String) :=
  [('e', "errexit"), ('f', "noglob"), ('I', "ignoreeof"), ('i', "interactive"), ('m', "monitor"),
   ('n', "noexec"), ('s', "stdin"), ('x', "xtrace"), ('v', "verbose"), ('V', "vi"), ('E', "emacs"),
   ('C', "noclobber"), ('a', "allexport"), ('b', "notify"), ('u', "nounset"), ('p', "privileged"),
   ('1', "nolog"), ('2', "debug")]

namespace Machine

def status (m : Machine) : Nat := m.process.status

def has (m : Machine) (option : Char) : Bool := m.options.contains option

def valueOf? (m : Machine) (name : String) : Option Bytes :=
  (m.bindings.lookup name).bind Variable.value?

/-- A parameter's value, if it is set. The arguments count as one value of some fields. -/
def parameter? (m : Machine) (name : String) : Option Bytes :=
  match name.toList with
  | ['?'] => some (decimal m.status)
  | ['$'] => some (decimal m.root)
  | ['#'] => some (decimal m.arguments.length)
  | ['!'] => m.newest.map decimal
  | ['-'] =>
    let isShown (o : Char × String) : Bool := m.has o.1 && o.1 ≠ '1' && o.1 ≠ '2'
    some ((optionNames.filter isShown).reverse.map fun o => octet o.1)
  | cs =>
    if cs.all Char.isDigit then
      match Nat.ofDigitChars 10 cs 0 with
      | 0 => some m.name
      | n + 1 => m.arguments[n]?
    else m.valueOf? name

def separators (m : Machine) : Bytes :=
  match m.bindings.lookup "IFS" with
  | some v => v.value?.getD defaultSeparators
  | none => defaultSeparators

/-- A variable in place of the one of its name, or without that one. -/
def setVariable (m : Machine) (name : String) (v : Option Variable) : Machine :=
  let bindings := match v with
    | none => m.bindings.filter fun x => x.1 ≠ name
    | some v =>
      if (m.bindings.lookup name).isSome then
        m.bindings.map fun x => if x.1 = name then (name, v) else x
      else (name, v) :: m.bindings
  let value := (v.bind Variable.value?).getD []
  if name = "OPTIND" then
    { m with bindings, optionIndex := (number? value).getD 1, optionOffset := none }
  else if name = "PATH" then { m with bindings, found := [] }
  else { m with bindings }

/-- Goes back to so many frames: what the newer ones hide comes back. -/
def unwind (m : Machine) (count : Nat) : Machine :=
  let newer := m.frames.take (m.frames.length - count)
  let m := { m with frames := m.frames.drop (m.frames.length - count) }
  newer.foldl
    (fun m f =>
      let m := f.bindings.foldl (fun m (name, v) => m.setVariable name v) m
      { m with options := f.options.getD m.options })
    m

def exported (m : Machine) : List (Bytes × Bytes) :=
  m.bindings.filterMap fun (name, v) =>
    if v.isExported then v.value?.map (ofText name, ·) else none

def setTrap (m : Machine) (signal : Nat) (action : Option Bytes) : Machine :=
  let m := { m with
    traps := (action.map (signal, ·)).toList ++ m.traps.filter fun t => t.1 ≠ signal }
  if signal = 0 ∨ Signal.isFixed signal ∨ signal ∈ m.fixed then m
  else
    let ignored := m.process.ignored.filter (· ≠ signal)
    let caught := m.process.caught.filter (· ≠ signal)
    let isCaught : Bool := match action with
      | some action => action ≠ []
      | none => signal = Signal.interrupt && m.defersInterrupt && !m.isInner
    { m with
      process := { m.process with
        ignored := if action = some [] then signal :: ignored else ignored
        caught := if isCaught then signal :: caught else caught } }

/-- A shell in which only signals that are not noticed stay trapped. -/
def untrapped (m : Machine) : Machine :=
  { m with
    traps := m.traps.filter fun t => t.2 = []
    process := { m.process with
      caught := m.process.caught.filter fun n => (m.traps.lookup n).isNone } }

def fixing (m : Machine) (signals : List Nat) : Machine :=
  { m with
    fixed := signals ++ m.fixed
    process := { m.process with
      ignored := signals ++ m.process.ignored
      caught := m.process.caught.filter fun n => !signals.contains n } }

def inner (m : Machine) : Machine :=
  let i := m.untrapped
  { i with
    process := { i.process.child with status := m.status, caught := i.process.caught }
    jobs := []
    isInner := true }

def fate? (m : Machine) (j : Job) : Option Fate :=
  let fates := j.numbers.map m.process.fate?
  if fates.all Option.isSome then fates.getLast?.join else none

end Machine

namespace Run

def update (f : Process → Process) : Run Unit := modify fun m => { m with process := f m.process }

def setStatus (status : Nat) : Run Unit := update fun p => { p with status }

/-- What the shell does when its process does something else, as far as that takes no other program.
Where that process would be over, the shell goes on with a value that stands for this. -/
def ofAct {α : Type} (m : Machine) (failed : α) :
    Progress (List Bytes) Process α → Progress (Process → Course) Machine (Except Jump α)
  | .done a p => .done (.ok a) { m with process := p }
  | .ended p => .done (.ok failed) { m with process := p }
  | .become _ p => .done (.ok failed) { m with process := p }
  | .start _ _ p _ => .done (.ok failed) { m with process := p }
  | .wait w p resume => .wait w p fun q => ofAct m failed (resume q)

def act {α : Type} (a : Act α) (failed : α) : Run α := fun m => ofAct m failed (a m.process)

def deferInterrupt : Run Unit :=
  modify fun m => { m with defersInterrupt := true }.setTrap Signal.interrupt none

def say (bs : Bytes) : Run Unit := act (Process.writeError bs) ()

def warn (text : Bytes) : Run Unit := do
  let m ← get
  let about : Bytes := match m.command with
    | some c => c ++ ofText ": "
    | none => []
  say (lineOf (m.name ++ ofText ": " ++ decimal m.line ++ ofText ": " ++ about ++ text))

def fail {α : Type} (text : Bytes) : Run α := do
  warn text
  setStatus 2
  throw .failed

def print (bs : Bytes) : Run Unit :=
  update fun p => { p with held := bs :: p.held, heldSize := p.heldSize + bs.length }

def printLine (bs : Bytes) : Run Unit := print (lineOf bs)

def flush : Run Bool := do
  let bs := (← get).process.held.reverse.flatten
  update fun p => { p with held := [], heldSize := 0 }
  match ← act (Process.tryWrite 1 bs) (.ok ()) with
  | .ok () => return true
  | .error e =>
    if e = .brokenPipe then
      match (← get).traps.lookup Process.pipeSignal with
      | none => throw (.killed Process.pipeSignal)
      | some [] => return false
      | some _ =>
        update fun p => { p with signals := p.signals ++ [Process.pipeSignal] }
        return false
    else return false

def finish {α : Type} (f : Process → Process) : Run α := fun m => .ended (f m.process)

def stay {α : Type} : Run α := do
  act (Process.await none fun _ => false) ()
  finish id

def fork (i : Machine) (course : Machine → Course) : Run Nat := fun m =>
  let p := { m.process with toWorld := i.process.toWorld, effort := m.process.effort + 1000 }
  .start (fun q => course { i with process := q }) i.process p fun q =>
    .done (.ok i.process.number) { m with process := q }

def effortLimit : Nat := 2000

def rest : Run Unit := do
  if effortLimit ≤ (← get).process.effort then
    update fun p => { p with effort := 0 }
    act Process.giveWay ()

/-- Gives a variable a value and more, unless it may not change. -/
def assign (name : String) (value : Bytes) (isExported : Bool) : Run Unit := do
  let m ← get
  let before := m.bindings.lookup name
  if before.any Variable.isReadonly then fail (ofText (name ++ ": is read only"))
  let isExported := isExported || before.any Variable.isExported || m.has 'a'
  set (m.setVariable name (some ⟨some value, isExported, false⟩))

def unset (name : String) : Run Unit := do
  let m ← get
  if (m.bindings.lookup name).any Variable.isReadonly then
    fail (ofText (name ++ ": is read only"))
  set (m.setVariable name none)

/-- Runs something as a command that may fail, or may not, whatever the present one may. -/
def testing {α : Type} (tested : Bool) (s : Run α) : Run α := do
  let before := (← get).tested
  modify fun m => { m with tested }
  let x ← s
  modify fun m => { m with tested := before }
  return x

def number (arg : Bytes) : Run Nat := do
  match number? arg with
  | some n => if n < Nat.pow 2 31 then return n else fail (ofText "Illegal number: " ++ arg)
  | none => fail (ofText "Illegal number: " ++ arg)

end Run

end LspRelay.Shell
