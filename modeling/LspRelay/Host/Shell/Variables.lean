import LspRelay.Host.Shell.Fields
import LspRelay.Host.Shell.Machine

namespace LspRelay.Shell

open Run

/-- Tells options from operands. Letters that a colon follows take a value. The fuel is the number
of arguments. -/
def readLetters (known : List Char) : Nat → Bytes → List Bytes →
    Except Bytes (List (Char × Bytes) × List Bytes)
  | 0, _, args => .ok ([], args)
  | fuel + 1, [], args =>
    match args with
    | (Octet.dash :: b :: bs) :: rest =>
      if b = Octet.dash ∧ bs = [] then .ok ([], rest) else readLetters known fuel (b :: bs) rest
    | args => .ok ([], args)
  | fuel + 1, b :: bs, args =>
    let c := Char.ofNat b.toNat
    match known.dropWhile (· ≠ c) with
    | [] => .error (ofText "Illegal option -" ++ [b])
    | _ :: ':' :: _ =>
      match bs, args with
      | [], [] => .error (ofText "No arg for -" ++ [b] ++ ofText " option")
      | [], value :: args => do
        let (options, args) ← readLetters known fuel [] args
        return ((c, value) :: options, args)
      | bs, args => do
        let (options, args) ← readLetters known fuel [] args
        return ((c, bs) :: options, args)
    | _ => do
      let (options, args) ← readLetters known fuel bs args
      return ((c, []) :: options, args)

def lettersOf (known : String) (args : List Bytes) : Run (List (Char × Bytes) × List Bytes) := do
  let fuel := 2 * args.length + total (args.map List.length) + 1
  match readLetters known.toList fuel [] args with
  | .ok r => return r
  | .error text => fail text

def inQuotes : Nat → Bytes → Bytes
  | 0, _ => []
  | fuel + 1, bs =>
    let isQuote (b : UInt8) : Bool := b = Octet.singleQuote
    let plain := bs.takeWhile (!isQuote ·)
    let rest := bs.dropWhile (!isQuote ·)
    let quotes := rest.takeWhile isQuote
    let after := rest.dropWhile isQuote
    [Octet.singleQuote] ++ plain ++ [Octet.singleQuote] ++
      (if quotes = [] then [] else [Octet.doubleQuote] ++ quotes ++ [Octet.doubleQuote]) ++
      (if after = [] then [] else inQuotes fuel after)

def singleQuoted (bs : Bytes) : Bytes := inQuotes (bs.length + 1) bs

def nameOf (bs : Bytes) : String := String.ofList (toChars bs)

def partsOf (arg : Bytes) : Bytes × Option Bytes :=
  let name := arg.takeWhile (· ≠ Octet.equals)
  (name, if arg.contains Octet.equals then some (arg.drop (name.length + 1)) else none)

def checkName (name : Bytes) : Run Unit := do
  if !isName (toChars name) then fail (name ++ ofText ": bad variable name")

def showVariables (command : String) (isShown : Variable → Bool) : Run Unit := do
  let shown := (← get).bindings.filter fun x => isShown x.2
  let sorted := shown.mergeSort fun a b => a.1 ≤ b.1
  for (name, v) in sorted do
    let value : Bytes := match v.value? with
      | some value => Octet.equals :: singleQuoted value
      | none => []
    printLine (ofText (if command = "" then name else command ++ " " ++ name) ++ value)

/-- Marks variables, and gives them values if there are any. -/
def markVariables (command : String) (isMarked : Variable → Bool) (mark : Variable → Variable)
    (args : List Bytes) : Run Nat := do
  let (options, names) ← lettersOf "p" args
  if options ≠ [] ∨ names = [] then showVariables command isMarked
  else
    for arg in names do
      let (name, value?) := partsOf arg
      checkName name
      match value? with
      | some value => assign (nameOf name) value false
      | none => pure ()
      modify fun m =>
        let v := (m.bindings.lookup (nameOf name)).getD ⟨none, false, false⟩
        m.setVariable (nameOf name) (some (mark v))
  return 0

/-- Hides a variable until the present function or command is over. -/
def hide (name : String) : Run Unit := do
  modify fun m =>
    match m.frames with
    | f :: fs =>
      if f.bindings.any fun x => x.1 = name then m
      else
        { m with
          frames := { f with bindings := (name, m.bindings.lookup name) :: f.bindings } :: fs }
    | [] => m

def declareLocal (args : List Bytes) : Run Nat := do
  if (← get).depth = 0 then fail (ofText "not in a function")
  for arg in args do
    let (name, value?) := partsOf arg
    if name = [Octet.dash] then
      modify fun m =>
        match m.frames with
        | f :: fs => { m with frames := { f with options := f.options.or (some m.options) } :: fs }
        | [] => m
    else
      checkName name
      hide (nameOf name)
      match value? with
      | some value => assign (nameOf name) value false
      | none => pure ()
  return 0

def unsetNames (args : List Bytes) : Run Nat := do
  let (options, names) ← lettersOf "vf" args
  let last := (options.getLast?.map Prod.fst).getD 'v'
  for name in names do
    if last = 'f' then
      modify fun m => { m with functions := m.functions.filter fun f => f.1 ≠ nameOf name }
    else
      checkName name
      unset (nameOf name)
  return 0

def showOptions (asCommands : Bool) : Run Unit := do
  let m ← get
  if !asCommands then print (ofText "Current option settings\n")
  for (letter, name) in optionNames do
    let isOn := m.has letter
    if asCommands then printLine (ofText ((if isOn then "set -o " else "set +o ") ++ name))
    else
      let blanks := String.ofList (List.replicate (16 - name.length) ' ')
      printLine (ofText (name ++ blanks ++ (if isOn then "on" else "off")))

def setOption (letter : Char) (isOn : Bool) : Run Unit :=
  modify fun m =>
    let others := m.options.filter (· ≠ letter)
    { m with options := if isOn then letter :: others else others }

def setLetters (isOn : Bool) : Bytes → List Bytes → Run (List Bytes)
  | [], args => return args
  | b :: bs, args => do
    let c := Char.ofNat b.toNat
    if c = 'o' then
      match args with
      | [] =>
        showOptions (!isOn)
        setLetters isOn bs []
      | name :: args =>
        match optionNames.find? fun o => ofText o.2 = name with
        | some (letter, _) =>
          setOption letter isOn
          setLetters isOn bs args
        | none => fail (ofText "Illegal option -o " ++ name)
    else if optionNames.any fun o => o.1 = c && !c.isDigit then
      setOption c isOn
      setLetters isOn bs args
    else fail (ofText "Illegal option -" ++ [b])

/-- Turns options on after a minus sign and off after a plus sign, and gives what arguments follow.
The fuel is the number of arguments. -/
def setOptions : Nat → List Bytes → Run (Option (List Bytes))
  | 0, _ => return none
  | _ + 1, [] => return none
  | fuel + 1, arg :: args => do
    match arg with
    | [Octet.dash] =>
      setOption 'x' false
      setOption 'v' false
      return if args = [] then none else some args
    | [Octet.dash, Octet.dash] => return some args
    | Octet.dash :: letters => setOptions fuel (← setLetters true letters args)
    | Octet.plus :: letters => setOptions fuel (← setLetters false letters args)
    | arg => return some (arg :: args)

def resetOptionIndex : Run Unit :=
  modify fun m => { m with optionIndex := 1, optionOffset := none }

def setShell (args : List Bytes) : Run Nat := do
  if args = [] then showVariables "" fun v => v.value?.isSome
  else
    match ← setOptions (args.length + 1) args with
    | some arguments =>
      modify fun m => { m with arguments }
      resetOptionIndex
    | none => pure ()
  return 0

def shiftArguments (args : List Bytes) : Run Nat := do
  let n ← match args with
    | [] => pure 1
    | arg :: _ => number arg
  let m ← get
  if m.arguments.length < n then fail (ofText "can't shift that many")
  set { m with arguments := m.arguments.drop n }
  resetOptionIndex
  return 0

inductive NextOption where
  | ended
  | found (letter : UInt8) (value : Bytes)
  | unknown (letter : UInt8)
  | noValue (letter : UInt8)

def nextOption (known : Bytes) (args : List Bytes) (index : Nat) (offset : Option Nat) :
    NextOption × Nat × Option Nat :=
  let current : Bytes := match offset with
    | some n => if index ≤ 1 then [] else ((args[index - 2]?).getD []).drop n
    | none => []
  let started : Option (Bytes × Nat) :=
    if current ≠ [] then some (current, index)
    else
      match args[index - 1]? with
      | some (Octet.dash :: b :: bs) => some (b :: bs, index + 1)
      | _ => none
  match started with
  | none => (.ended, index, none)
  | some (letters, index) =>
    if current = [] ∧ letters = [Octet.dash] then (.ended, index, none)
    else
      let letter := letters.headD 0
      let rest := letters.drop 1
      let used := ((args[index - 2]?).getD []).length - rest.length
      let isLetter (b : UInt8) : Bool := b = letter
      match if letter = octet ':' then [] else known.dropWhile (!isLetter ·) with
      | [] => (.unknown letter, index, some used)
      | _ :: after =>
        if after.head? = some (octet ':') then
          if rest ≠ [] then (.found letter rest, index, none)
          else
            match args[index - 1]? with
            | some value => (.found letter value, index + 1, none)
            | none => (.noValue letter, index, some used)
        else (.found letter [], index, some used)

def getOption (args : List Bytes) : Run Nat := do
  match args with
  | known :: name :: rest =>
    let m ← get
    let args := if rest = [] then m.arguments else rest
    let isPast := args.length + 1 < m.optionIndex
    let index := if isPast then 1 else max m.optionIndex 1
    let offset := if isPast then none else m.optionOffset
    let (option, index, offset) := nextOption known args index offset
    let isQuiet := known.head? = some (octet ':')
    let letter : UInt8 ← match option with
      | .ended => pure (octet '?')
      | .found letter value => do
        assign "OPTARG" value false
        pure letter
      | .unknown letter => do
        if isQuiet then assign "OPTARG" [letter] false
        else
          say (lineOf (ofText "Illegal option -" ++ [letter]))
          unset "OPTARG"
        pure (octet '?')
      | .noValue letter => do
        if isQuiet then
          assign "OPTARG" [letter] false
          pure (octet ':')
        else
          say (lineOf (ofText "No arg for -" ++ [letter] ++ ofText " option"))
          unset "OPTARG"
          pure (octet '?')
    assign "OPTIND" (decimal index) false
    checkName name
    assign (nameOf name) [letter] false
    modify fun m => { m with optionIndex := index, optionOffset := offset }
    return match option with
      | .ended => 1
      | _ => 0
  | _ => fail (ofText "Usage: getopts optstring var [arg...]")

def unescapedLine : Bytes → Field
  | [] => []
  | [b] => if b = Octet.backslash then [] else [(b, false)]
  | b :: c :: bs =>
    if b = Octet.backslash then
      if c = Octet.lineFeed then unescapedLine bs else (c, true) :: unescapedLine bs
    else (b, false) :: unescapedLine (c :: bs)

def lineLength? (raw : Bool) (length : Nat) : Bytes → Option Nat
  | [] => none
  | [b] => if b = Octet.lineFeed then some (length + 1) else none
  | b :: c :: bs =>
    if b = Octet.lineFeed then some (length + 1)
    else if b = Octet.backslash ∧ !raw then lineLength? raw (length + 2) bs
    else lineLength? raw (length + 1) (c :: bs)

/-- Takes a line of the input into variables. It is a failure if the line has no end. -/
def readVariables (args : List Bytes) : Run Nat := do
  let (options, names) ← lettersOf "p:r" args
  let raw := options.any fun o => o.1 = 'r'
  if names = [] then fail (ofText "arg count")
  let taken ← act (Process.takeUntil 0 1 true (lineLength? raw 0)) (.ok [])
  let bytes : Bytes := match taken with
    | .ok bytes => bytes.filter (· ≠ 0)
    | .error _ => []
  let isWhole := bytes.getLast? = some Octet.lineFeed &&
    (raw || (lineLength? raw 0 bytes).isSome)
  let line := if isWhole then bytes.dropLast else bytes
  let field := if raw then line.map (·, false) else unescapedLine line
  let values := lineFields (← get).separators names.length field
  for (name, i) in names.zipIdx do
    checkName name
    assign (nameOf name) (values.getD i []) false
  return if isWhole then 0 else 1

def bucket (size : Nat) (name : Bytes) : Nat :=
  (total (name.map UInt8.toNat) + 16 * (name.headD 0).toNat) % Nat.pow 2 15 % size

def insertByPlace {α : Type} (name : α → Bytes) (size : Nat) (entries : List α) (entry : α) :
    List α :=
  let place (e : α) : Nat := bucket size (name e)
  entries.filter (fun e => place e ≤ place entry) ++ entry ::
    entries.filter (fun e => place entry < place e)

def showAlias (a : Bytes × Bytes) : Bytes := a.1 ++ Octet.equals :: singleQuoted a.2

def setAliases (args : List Bytes) : Run Nat := do
  if args = [] then
    for a in (← get).aliases do printLine (showAlias a)
  let mut status := 0
  for arg in args do
    match (partsOf (arg.drop 1)).2 with
    | some value =>
      let name := arg.take (arg.length - value.length - 1)
      modify fun m =>
        let aliases :=
          if (m.aliases.lookup name).isSome then
            m.aliases.map fun a => if a.1 = name then (name, value) else a
          else insertByPlace Prod.fst 39 m.aliases (name, value)
        { m with aliases }
    | none =>
      match (← get).aliases.lookup arg with
      | some value => printLine (showAlias (arg, value))
      | none =>
        say (lineOf (ofText "alias: " ++ arg ++ ofText " not found"))
        status := 1
  return status

def unsetAliases (args : List Bytes) : Run Nat := do
  let (options, names) ← lettersOf "a" args
  if options ≠ [] then
    modify fun m => { m with aliases := [] }
    return 0
  let mut status := 0
  for name in names do
    if ((← get).aliases.lookup name).isNone then
      say (lineOf (ofText "unalias: " ++ name ++ ofText " not found"))
      status := 1
    modify fun m => { m with aliases := m.aliases.filter fun a => a.1 ≠ name }
  return status

end LspRelay.Shell
