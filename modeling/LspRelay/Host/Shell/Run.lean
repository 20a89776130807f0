import LspRelay.Host.Shell.Expansion

namespace LspRelay.Shell

open Run

inductive Task where
  | text (bs : Bytes)
  | file (path : Bytes)
  | input

/-- Options of a shell as a program, and the arguments after them. It tells whether a text is to
follow. The fuel is the number of arguments. -/
def readInvocation : Nat → Bool → List Bytes → Run (Bool × List Bytes)
  | 0, hasText, args => return (hasText, args)
  | _ + 1, hasText, [] => return (hasText, [])
  | fuel + 1, hasText, arg :: args => do
    let isOwn (b : UInt8) : Bool := b = octet 'c' || b = octet 'l'
    match arg with
    | [Octet.dash] => return (hasText, args)
    | [Octet.dash, Octet.dash] => return (hasText, args)
    | Octet.dash :: letters =>
      let args ← setLetters true (letters.filter (!isOwn ·)) args
      readInvocation fuel (hasText || letters.contains (octet 'c')) args
    | Octet.plus :: letters =>
      let args ← setLetters false (letters.filter (!isOwn ·)) args
      readInvocation fuel hasText args
    | _ => return (hasText, arg :: args)

def readTask (args : List Bytes) : Run Task := do
  let (hasText, args) ← readInvocation (args.length + 1) false args
  let named (task : Task) (words : List Bytes) : Run Task := do
    match words with
    | name :: arguments => modify fun m => { m with name, arguments }
    | [] => pure ()
    return task
  if hasText then
    match args with
    | [] => fail (ofText "-c requires an argument")
    | text :: words => named (.text text) words
  else if args = [] ∨ (← get).has 's' then
    setOption 's' true
    modify fun m => { m with arguments := args }
    return .input
  else named (.file (args.headD [])) args

def Machine.ofProcess (p : Process) : Machine :=
  let isVariable (v : Bytes × Bytes) : Bool := isName (toChars v.1)
  let inherited : List (String × Variable) :=
    (p.bindings.filter isVariable).map fun (name, value) =>
    (nameOf name, ⟨some value, true, false⟩)
  let own (name : String) (value : Bytes) : List (String × Variable) :=
    if (inherited.lookup name).isSome && name ≠ "IFS" && name ≠ "OPTIND" && name ≠ "PPID" then []
    else [(name, ⟨some value, false, false⟩)]
  let here := Path.text p.here
  let directory := match p.bindings.lookup (ofText "PWD") with
    | some path =>
      if ((Path.resolve p.files.root p.here true path).toOption.map Path.Found.place) = some p.here
      then path else here
    | none => here
  { process := p
    name := p.label
    root := p.number
    arguments := []
    bindings := own "IFS" defaultSeparators ++ own "OPTIND" (ofText "1") ++
      own "PATH" Process.defaultPath ++ own "PPID" (decimal p.parent) ++ own "PS1" (ofText "$ ") ++
      own "PS2" (ofText "> ") ++ own "PS4" (ofText "+ ") ++ own "PWD" directory ++
      inherited.filter fun v => v.1 ≠ "IFS" && v.1 ≠ "OPTIND" && v.1 ≠ "PPID"
    frames := []
    functions := []
    aliases := []
    traps := []
    fixed := p.ignored
    defersInterrupt := false
    documents := []
    documentCount := 0
    line := 0
    command := none
    directory
    options := []
    jobs := []
    newest := none
    tested := false
    isInner := false
    loops := 0
    depth := 0
    substituted := none
    optionIndex := 1
    optionOffset := none
    found := [] }

inductive Round where
  | normal
  | next
  | ended
  deriving Repr, DecidableEq

def inLoop (s : Run Unit) : Run Round := do
  let before ← get
  let restore : Run Unit := modify fun m => { m with tested := before.tested, loops := before.loops }
  match ← attempt s with
  | .ok () => return .normal
  | .error (.leave n) =>
    if n ≤ 1 then
      restore
      return .ended
    else throw (.leave (n - 1))
  | .error (.goOn n) =>
    if n ≤ 1 then
      restore
      return .next
    else throw (.goOn (n - 1))
  | .error j => throw j

def catchingBack (s : Run Unit) : Run Unit := do
  let tested := (← get).tested
  match ← attempt s with
  | .ok () => return ()
  | .error .back => modify fun m => { m with tested }
  | .error j => throw j

/-- Does something, and then something else in any case. -/
def afterwards (s : Run Unit) (cleanUp : Machine → Machine) : Run Unit := do
  let r ← attempt s
  modify cleanUp
  match r with
  | .ok () => return ()
  | .error j => throw j

def looping (s : Run Unit) : Run Unit := do
  modify fun m => { m with loops := m.loops + 1 }
  afterwards s fun m => { m with loops := m.loops - 1 }

def negateStatus : Run Unit := update fun p => { p with status := if p.status = 0 then 1 else 0 }

/-- With the option `e` a failure ends the shell, unless the command is there to be tested. -/
def checkFailure : Run Unit := do
  let m ← get
  if m.has 'e' && !m.tested && m.status ≠ 0 then throw .exit

def setLine (line : Nat) : Run Unit := modify fun m => { m with line }

def keeping (before p : Process) : Process :=
  let moved := before.streams.filter fun s => p.stream? s.1 ≠ some s.2
  { p with kept := moved.map Prod.snd ++ p.kept }

inductive Leading where
  | copy (stream : Nat) (source : Option Nat)
  | file (stream : Nat) (use : Use) (path : Bytes)
  | document (stream : Nat) (text : Bytes)

def lead (l : Leading) : Run Unit := do
  let refuse (verb : String) (missing : String) (path : Bytes) (e : SystemError) : Run Unit :=
    fail (ofText ("cannot " ++ verb ++ " ") ++ path ++ ofText ": " ++ reason missing e)
  match l with
  | .copy stream none => update fun p => p.lead stream none
  | .copy stream (some source) =>
    match (← get).process.stream? source with
    | some s => update fun p => p.lead stream (some s)
    | none => fail (decimal source ++ ofText ": Bad file descriptor")
  | .document stream text => update fun p => p.feed stream (.text text)
  | .file stream .read path =>
    match ← act (Process.openInput stream path) (.ok ()) with
    | .ok () => pure ()
    | .error e => refuse "open" "No such file" path e
  | .file stream use path =>
    let p := (← get).process
    let isPlain := (p.files.node? p.here path).any Condition.isFile
    if use = .write ∧ (← get).has 'C' ∧ isPlain then
      refuse "create" "" path .fileExists
    let opening : Process.Opening := match use with
      | .both => .both
      | .append => .write false true
      | _ => .write true false
    match ← act (Process.openPath opening path) (.error .notFound) with
    | .error e => refuse "create" "Directory nonexistent" path e
    | .ok s => update fun p => p.lead stream (some s)

/-- Waits for the ends of processes that the shell has started, and tells which signals killed some
of them. The fuel is the number of the processes. -/
def awaitEach : Nat → List Nat → Run Unit
  | 0, _ => return ()
  | fuel + 1, numbers => do
    let isOver (w : World) : Bool := w.remains.any fun r => numbers.contains r.number
    if !isOver (← get).process.toWorld then act (Process.await none isOver) ()
    match (← get).process.remains.reverse.find? fun r => numbers.contains r.number with
    | none => return ()
    | some r =>
      match r.fate.killedBy with
      | some signal =>
        if signal ≠ 2 ∧ signal ≠ 13 then say (lineOf (Signal.description signal))
      | none => pure ()
      update fun p => { p.buried r.number with status := r.fate.outcome }
      let status := (← get).status
      awaitEach fuel (numbers.filter (· ≠ r.number))
      if numbers.getLast? = some r.number then setStatus status

def await (numbers : List Nat) : Run Unit := do
  awaitEach numbers.length numbers
  modify Machine.notice

def afterCommand (m : Machine) : List Bytes → Option (Bool × List Bytes)
  | name :: args =>
    if name ≠ ofText "command" ∨ (m.functions.lookup "command").isSome then none
    else
      let isPath (arg : Bytes) : Bool := arg.head? = some Octet.dash && 1 < arg.length &&
        arg.tail.all fun b => b = octet 'p'
      let rest := args.dropWhile isPath
      let usesDefault := args.any isPath && rest.length < args.length
      match rest with
      | [] => none
      | [Octet.dash, Octet.dash] :: [] => none
      | [Octet.dash, Octet.dash] :: rest => some (usesDefault, rest)
      | (Octet.dash :: _ :: _) :: _ => none
      | rest => some (usesDefault, rest)
  | [] => none

/-- The command that is meant after prefixes: whether functions count, whether there is a prefix,
whether the usual path is to be searched, and the words. The fuel is the number of words. -/
def meantCommand (m : Machine) : Nat → Bool → List Bytes → Bool × Bool × List Bytes
  | 0, usesDefault, words => (false, usesDefault, words)
  | fuel + 1, usesDefault, words =>
    match afterCommand m words with
    | some (more, rest) =>
      let (_, usesDefault, rest) := meantCommand m fuel (usesDefault || more) rest
      (true, usesDefault, rest)
    | none => (false, usesDefault, words)

def askCommand (args : List Bytes) : Run Nat := do
  let (options, names) ← lettersOf "pvV" args
  let path := if options.any fun o => o.1 = 'p' then some Process.defaultPath else none
  match (options.filter fun o => o.1 ≠ 'p').getLast?, names with
  | some (letter, _), name :: _ => describe path (letter = 'V') name
  | _, _ => return 0

def interpreterOf? (content : Bytes) : Option (List Bytes) :=
  match content with
  | a :: b :: rest =>
    if a = octet '#' ∧ b = octet '!' then
      let line := trimBlanks (rest.takeWhile (· ≠ Octet.lineFeed))
      let name := line.takeWhile (!isBlankOctet ·)
      let argument := trimBlanks (line.drop name.length)
      if name = [] then none else some (name :: (if argument = [] then [] else [argument]))
    else none
  | _ => none

/-- Whether a text is not a script only because it is not all there. -/
def ScriptError.isIncomplete : ScriptError → Bool
  | .unexpected token _ => token = Token.description .ending
  | .unterminated => true
  | .unterminatedGrave => true
  | .missingBrace => true
  | .missingParentheses => true
  | _ => false

def Source.ofBytes (bs : Bytes) : Source :=
  { rest := toChars bs
    line := 1
    returned := none
    pending := []
    documents := []
    count := 0
    aliases := []
    active := [] }

def Source.isOver (s : Source) : Bool := s.returned matches some .ending

def nextOf (s : Source) : Run (Except (ScriptError × Nat) (Option Script × Source)) := do
  let m ← get
  match Reader.nextCommand
    { s with aliases := m.aliases, count := m.documentCount, documents := [] } with
  | .ok (script, s) =>
    modify fun m =>
      { m with documents := s.documents ++ m.documents, documentCount := s.count }
    return .ok (script, s)
  | .error e => return .error e

def failToRead {α : Type} (e : ScriptError × Nat) : Run α := do
  setLine e.2
  fail (ofText ("Syntax error: " ++ e.1.message))

def shells : List String := ["dash", "sh", "bash"]

def stages : Script → List Script
  | .pipe source sink => source :: stages sink
  | s => [s]

abbrev Programs := String → Option Command

mutual

def expand (ps : Programs) : Nat → Purpose → Bool → List Piece → Run (List Part)
  | 0, _, _, _ => throw .stuck
  | _ + 1, _, _, [] => return []
  | fuel + 1, p, atFront, piece :: pieces => do
    let now : List Part ← match piece with
      | .text bs true => pure [.text bs true]
      | .text bs false => do pure (plainParts (← get) p atFront pieces.isEmpty bs)
      | .parameter name change word quoted => changed ps fuel p name change word quoted
      | .output s quoted => do
        let before := (← get).process
        let number := before.numbers
        update fun p => p.withFeed (.pipe .empty)
        let i := { (← get) with tested := false }.inner
        let process := i.process.lead 1 (some (.target (.pipe number)))
        let child ← fork { i with process } (complete ps fuel (run ps fuel true s))
        update fun p => { p with kept := .source number :: p.kept }
        let bs ← act (Process.restOf number Process.waitLimit []) []
        update fun p => { p with kept := before.kept }
        await [child]
        modify fun m => { m with substituted := some m.status }
        let text := substitutedText bs
        pure (if quoted then [.text text true] else [.value [text] false])
      | .sum expression quoted => do
        let n ← evaluateSum (Part.bytesOf (← expand ps fuel .plain false expression))
        pure (if quoted then [.text n true] else [.value [n] false])
    return now ++ (← expand ps fuel p false pieces)

def changed (ps : Programs) : Nat → Purpose → String → Change → List Piece → Bool →
    Run (List Part)
  | 0, _, _, _, _, _ => throw .stuck
  | fuel + 1, p, name, change, word, quoted => do
    let fields? := fieldsOfParameter (← get) p name quoted
    let fields := fields?.getD []
    let isEmpty := fields = [] || fields = [[]]
    match change with
    | .none =>
      checkSet name fields?.isSome
      return valuePart name quoted fields
    | .length =>
      checkSet name fields?.isSome
      let n := decimal ([fieldMark].intercalate fields).length
      return if quoted then [.text n true] else [.value [n] false]
    | .bad => fail (ofText "Bad substitution")
    | .trimmed front longest =>
      checkSet name fields?.isSome
      let pattern := Part.patternOf (← expand ps fuel .text true word)
      let kept := throughFields (Glob.trimmed front longest (Glob.ofBytes pattern)) fields
      return valuePart name quoted kept
    | .fallback kind emptyToo =>
      let isMissing := fields?.isNone || (emptyToo && isEmpty)
      let purpose : Purpose := ⟨p.fields, !quoted, if quoted then .none else .front⟩
      if kind = '+' then
        if isMissing then return [] else expand ps fuel purpose true word
      else if !isMissing then return valuePart name quoted fields
      else if kind = '-' then expand ps fuel purpose true word
      else
        let bs := Part.bytesOf (← expand ps fuel .text true word)
        if kind = '=' then
          checkName (ofText name)
          assign name bs false
          return valuePart name quoted [bs]
        else if word.isEmpty then
          fail (ofText (name ++ ": parameter not set" ++ if emptyToo then " or null" else ""))
        else fail (ofText (name ++ ": ") ++ bs)

def expandWords (ps : Programs) : Nat → List Bytes → List (List Piece) → Run (List Bytes)
  | 0, _, _ => throw .stuck
  | _ + 1, fields, [] => return fields
  | fuel + 1, fields, word :: words => do
    let more ← match if takesAssignments (← get) fields then Reader.assignment? word else none with
      | some (name, value) => do
        let parts ← expand ps fuel .assignment true value
        pure [ofText name ++ Octet.equals :: Part.bytesOf parts]
      | none => do fieldsIn (← expand ps fuel .argument true word)
    expandWords ps fuel (fields ++ more) words

/-- Sets variables, for the present command only if they are to be hidden. -/
def assignAll (ps : Programs) : Nat → Bool → Bool → List (String × List Piece) →
    Run (List Bytes)
  | 0, _, _, _ => throw .stuck
  | _ + 1, _, _, [] => return []
  | fuel + 1, hides, exports, (name, value) :: rest => do
    let bs := Part.bytesOf (← expand ps fuel .assignment true value)
    if hides then hide name
    assign name bs (hides || exports)
    return (ofText name ++ Octet.equals :: bs) :: (← assignAll ps fuel hides exports rest)

def expandRedirects (ps : Programs) : Nat → List Redirect → Run (List Leading)
  | 0, _ => throw .stuck
  | _ + 1, [] => return []
  | fuel + 1, r :: rs => do
    let now : Leading ← match r.destination with
      | .copy _ word => do
        let bs := Part.bytesOf (← expand ps fuel .text true word)
        if !Reader.isStream bs then failToRead (.badDescriptor, (← get).line)
        pure (.copy r.stream (number? bs))
      | .file use word => do
        pure (.file r.stream use (Part.bytesOf (← expand ps fuel .text true word)))
      | .document number => do
        let pieces := ((← get).documents.lookup number).getD []
        pure (.document r.stream (Part.bytesOf (← expand ps fuel .plain false pieces)))
    return now :: (← expandRedirects ps fuel rs)

/-- Does something with streams that lead elsewhere, unless that fails. -/
def redirected (ps : Programs) : Nat → List Redirect → Run Unit → Run Unit
  | 0, _, _ => throw .stuck
  | fuel + 1, redirects, s => do
    let leadings ← expandRedirects ps fuel redirects
    let before := (← get).process
    let restore (m : Machine) : Machine := { m with process := m.process.ledBack before }
    match ← attempt (leadings.forM lead) with
    | .error .failed => modify restore
    | .error j =>
      modify restore
      throw j
    | .ok () =>
      update (keeping before)
      afterwards s restore

def run (ps : Programs) : Nat → Bool → Script → Run Unit
  | 0, _, _ => throw .stuck
  | fuel + 1, last, s => do
    match s with
    | .nothing => return ()
    | .command line assignments words redirects =>
      setLine line
      if (← get).has 'n' then return ()
      command ps fuel last assignments words redirects
      let status := (← get).status
      settle ps fuel
      setStatus status
      checkFailure
    | .sequence first second =>
      run ps fuel false first
      run ps fuel last second
    | .background s => background ps fuel s
    | .both first second =>
      testing true (run ps fuel false first)
      if (← get).status = 0 then run ps fuel last second
    | .either first second =>
      testing true (run ps fuel false first)
      if (← get).status ≠ 0 then run ps fuel last second
    | .negate s =>
      testing true (run ps fuel false s)
      negateStatus
    | .pipe source sink =>
      let numbers ← startStages ps fuel Machine.inner none (stages (.pipe source sink))
      await numbers
      settle ps fuel
      checkFailure
    | .inner line s redirects =>
      setLine line
      let m ← get
      if last ∧ m.traps.all fun t => t.2 = [] then
        set { m.untrapped with isInner := true }
        let leadings ← expandRedirects ps fuel redirects
        leadings.forM lead
        run ps fuel true s
        throw .exit
      let leadings ← expandRedirects ps fuel redirects
      let body : Run Unit := do
        leadings.forM lead
        run ps fuel true s
      await [← fork (← get).inner (complete ps fuel body)]
      settle ps fuel
      checkFailure
    | .redirected line s redirects =>
      setLine line
      redirected ps fuel redirects (run ps fuel false s)
    | .choose condition yes no =>
      testing true (run ps fuel false condition)
      if (← get).status = 0 then run ps fuel last yes
      else
        setStatus 0
        run ps fuel last no
    | .loop untilTrue condition body =>
      looping (loop ps fuel untilTrue condition body 0)
    | .each line name words body =>
      setLine line
      let values ← match words with
        | some words => expandWords ps fuel [] words
        | none => pure (← get).arguments
      setStatus 0
      looping (each ps fuel name values body)
    | .select line word cases =>
      setLine line
      let value := Part.bytesOf (← expand ps fuel .text true word)
      setStatus 0
      select ps fuel last value cases
    | .define name body =>
      modify fun m =>
        { m with functions := (name, body) :: m.functions.filter fun f => f.1 ≠ name }
      setStatus 0

/-- Runs a body while its condition holds, or until it does, given the status up to now. -/
def loop (ps : Programs) : Nat → Bool → Script → Script → Nat → Run Unit
  | 0, _, _, _, _ => throw .stuck
  | fuel + 1, untilTrue, condition, body, status => do
    match ← inLoop (testing true (run ps fuel false condition)) with
    | .ended => return ()
    | .next => loop ps fuel untilTrue condition body status
    | .normal =>
      if ((← get).status = 0) = untilTrue then setStatus status
      else
        match ← inLoop (run ps fuel false body) with
        | .ended => return ()
        | _ =>
          rest
          loop ps fuel untilTrue condition body (← get).status

def each (ps : Programs) : Nat → String → List Bytes → Script → Run Unit
  | 0, _, _, _ => throw .stuck
  | _ + 1, _, [], _ => return ()
  | fuel + 1, name, value :: values, body => do
    assign name value false
    match ← inLoop (run ps fuel false body) with
    | .ended => return ()
    | _ =>
      rest
      each ps fuel name values body

def select (ps : Programs) : Nat → Bool → Bytes → List (List (List Piece) × Script) → Run Unit
  | 0, _, _, _ => throw .stuck
  | _ + 1, _, _, [] => return ()
  | fuel + 1, last, value, (patterns, body) :: cases => do
    if ← matchesSome ps fuel value patterns then run ps fuel last body
    else select ps fuel last value cases

def matchesSome (ps : Programs) : Nat → Bytes → List (List Piece) → Run Bool
  | 0, _, _ => throw .stuck
  | _ + 1, _, [] => return false
  | fuel + 1, value, pattern :: patterns => do
    let glob := Glob.ofBytes (Part.patternOf (← expand ps fuel .text true pattern))
    if Glob.matchesAll glob value then return true else matchesSome ps fuel value patterns

def startStages (ps : Programs) : Nat → (Machine → Machine) → Option Nat → List Script →
    Run (List Nat)
  | 0, _, _, _ => throw .stuck
  | _ + 1, _, _, [] => return []
  | fuel + 1, make, input, s :: rest => do
    let number := (← get).process.numbers
    if !rest.isEmpty then update fun p => p.withFeed (.pipe .empty)
    let i := make (← get)
    let p := match input with
      | some n => i.process.lead 0 (some (.source n))
      | none => i.process
    let p := if rest.isEmpty then p else p.lead 1 (some (.target (.pipe number)))
    let child ← fork { i with process := p } (complete ps fuel (run ps fuel true s))
    return child :: (← startStages ps fuel make (some number) rest)

/-- A command that the shell does not wait for. It reads nothing, and notices neither of two
signals. -/
def background (ps : Programs) : Nat → Script → Run Unit
  | 0, _ => throw .stuck
  | fuel + 1, s => do
    modify Machine.forget
    let apart (m : Machine) : Machine :=
      let i := { m with tested := false }.inner.fixing [Signal.interrupt, Signal.quit]
      { i with process := i.process.feed 0 .empty }
    let started (body : Run Unit) : Run (List Nat) := do
      return [← fork (apart (← get)) (complete ps fuel body)]
    let numbers ← match s with
      | .pipe source sink => startStages ps fuel apart none (stages (.pipe source sink))
      | .inner _ body redirects => do
        let leadings ← expandRedirects ps fuel redirects
        started do
          leadings.forM lead
          run ps fuel true body
      | .redirected line body redirects => do
        setLine line
        let leadings ← expandRedirects ps fuel redirects
        started do
          leadings.forM lead
          run ps fuel true body
      | s => started (run ps fuel true s)
    modify fun m =>
      { m with
        jobs := m.jobs ++ [⟨numbers, m.freePlace, false, false⟩]
        newest := numbers.getLast? }
    setStatus 0

def settle (ps : Programs) : Nat → Run Unit
  | 0 => throw .stuck
  | fuel + 1 => do
    let m ← get
    let come := m.process.signals
    if come = [] then return ()
    if come.contains Signal.interrupt ∧ (m.traps.lookup Signal.interrupt).isNone then
      throw (.killed Signal.interrupt)
    update fun p => { p with signals := [] }
    let actions := (List.range Signal.count).filterMap fun n =>
      if come.contains n then m.traps.lookup n else none
    actions.forM fun action =>
      if action = [] then return ()
      else do
        let status := (← get).status
        testing false (runText ps fuel action)
        setStatus status

/-- Runs a shell to its end, where the trap for that runs unless a signal has killed it. -/
def conclude (ps : Programs) : Nat → Run Unit → Run Unit
  | 0, _ => stay
  | fuel + 1, body => do
    let killed (signal : Nat) : Run Unit := finish fun p => { p with killedBy := some signal }
    match ← attempt body with
    | .error (.killed signal) => killed signal
    | .error .stuck => stay
    | _ =>
      let m ← get
      match m.traps.lookup 0 with
      | none => finish id
      | some action =>
        set { m with traps := m.traps.filter fun t => t.1 ≠ 0, tested := false }
        match ← attempt (runText ps fuel action) with
        | .error (.killed signal) => killed signal
        | .error .stuck => stay
        | .error .exit => finish id
        | .error .failed => finish id
        | _ => finish fun p => { p with status := m.status }

def complete (ps : Programs) : Nat → Run Unit → Machine → Course
  | 0, _, m => .ended m.process
  | fuel + 1, body, m => (conclude ps fuel body m).course id fun _ m => m.process

def runText (ps : Programs) : Nat → Bytes → Run Unit
  | 0, _ => throw .stuck
  | fuel + 1, text => runSource ps fuel (.ofBytes text) 0

def runSource (ps : Programs) : Nat → Source → Nat → Run Unit
  | 0, _, _ => throw .stuck
  | fuel + 1, source, status => do
    match ← nextOf source with
    | .error e => failToRead e
    | .ok (none, _) => setStatus status
    | .ok (some .nothing, source) => runSource ps fuel source status
    | .ok (some s, source) =>
      run ps fuel false s
      runSource ps fuel source (← get).status

def runInput (ps : Programs) : Nat → Bool → Source → Run Unit
  | 0, _, _ => throw .stuck
  | fuel + 1, isAll, source => do
    let more : Run Unit := do
      let read ← act (Process.readSome 0 8192) (.ok [])
      match read with
      | .ok [] => runInput ps fuel true source
      | .error _ => runInput ps fuel true source
      | .ok bs => runInput ps fuel false { source with rest := source.rest ++ toChars bs }
    match ← nextOf source with
    | .error e =>
      if e.1.isIncomplete ∧ !isAll then more else failToRead e
    | .ok (none, _) => if isAll then return () else more
    | .ok (some .nothing, source) => runInput ps fuel isAll source
    | .ok (some s, after) =>
      if after.isOver ∧ !isAll then more
      else
        run ps fuel false s
        runInput ps fuel isAll after

/-- A simple command: its words are expanded, its streams led elsewhere, its variables set for as
long as it runs, and then it is run. -/
def command (ps : Programs) : Nat → Bool → List (String × List Piece) → List (List Piece) →
    List Redirect → Run Unit
  | 0, _, _, _, _ => throw .stuck
  | fuel + 1, last, assignments, words, redirects => do
    modify fun m => { m with substituted := none }
    let fields ← expandWords ps fuel [] words
    let m ← get
    let (isPrefixed, usesDefault, meant) := meantCommand m (fields.length + 1) false fields
    let name := meant.headD []
    let isFunction := !isPrefixed && (m.functions.lookup (nameOf name)).isSome
    let isSpecial := !isPrefixed && specialBuiltIns.any fun b => ofText b = name
    let isExec := name = ofText "exec" && !isFunction
    let hides := fields ≠ [] && !isSpecial
    let leadings ← expandRedirects ps fuel redirects
    let before ← get
    let frames := before.frames
    let restore (keepsStreams : Bool) (m : Machine) : Machine :=
      let m := if hides then m.unwind frames.length else m
      if keepsStreams then m else { m with process := m.process.ledBack before.process }
    let body : Run Unit := do
      let set ← assignAll ps fuel hides (isExec && 1 < meant.length) assignments
      let m ← get
      if m.has 'x' ∧ set ++ fields ≠ [] then
        say (lineOf (((m.valueOf? "PS4").getD []) ++ joined (set ++ fields)))
      match meant with
      | [] => setStatus (m.substituted.getD 0)
      | name :: args => invoke ps fuel last isPrefixed isSpecial usesDefault name args
    update fun p => { p with effort := p.effort + 10 }
    match ← attempt (leadings.forM lead) with
    | .error .failed =>
      if isSpecial then throw .failed else modify (restore false)
    | .error j =>
      modify (restore false)
      throw j
    | .ok () =>
      if hides then modify fun m => { m with frames := ⟨[], none⟩ :: m.frames }
      if !isExec then update (keeping before.process)
      afterwards body (restore isExec)

def invoke (ps : Programs) : Nat → Bool → Bool → Bool → Bool → Bytes → List Bytes → Run Unit
  | 0, _, _, _, _, _, _ => throw .stuck
  | fuel + 1, last, isPrefixed, isSpecial, usesDefault, name, args => do
    let m ← get
    match if isPrefixed then none else m.functions.lookup (nameOf name) with
    | some body =>
      modify fun m =>
        { m with
          arguments := args
          depth := m.depth + 1
          loops := 0
          optionIndex := 1
          optionOffset := none }
      afterwards (catchingBack (run ps fuel false body)) fun after =>
        { after with
          arguments := m.arguments
          depth := m.depth
          loops := m.loops
          optionIndex := m.optionIndex
          optionOffset := m.optionOffset }
    | none =>
      let text := nameOf name
      let own : Option (Run Nat) := match text with
        | "eval" => some (do
            if args = [] then return 0
            runText ps fuel (joined args)
            return (← get).status)
        | "." => some (readScript ps fuel args)
        | "command" => some (askCommand args)
        | "exec" => some (do
            match args with
            | [] => return 0
            | target :: _ => do
              replace ps fuel target args
              return (← get).status)
        | _ => (builtIn? text).map fun b => b args
      match own with
      | some b => builtIn ps fuel isSpecial name b
      | none => program ps fuel last usesDefault name args

/-- A built-in command complains by its name, and prints what it has to at its end. What goes wrong
in it is no end of the shell unless it is part of the language. -/
def builtIn (_ : Programs) : Nat → Bool → Bytes → Run Nat → Run Unit
  | 0, _, _, _ => throw .stuck
  | _ + 1, isSpecial, name, b => do
    let before := (← get).command
    modify fun m => { m with command := some name }
    let flushed : Run Unit := do
      let status := (← get).status
      let good ← flush
      if good then setStatus status
      else
        warn (name ++ ofText ": I/O error")
        setStatus (status ||| 1)
    let whole : Run Unit := do
      let start ← get
      match ← attempt b with
      | .ok status =>
        setStatus status
        flushed
      | .error .failed =>
        if isSpecial then
          let _ ← flush
          throw .failed
        else
          modify fun m => { m with tested := start.tested, loops := start.loops }
          flushed
      | .error j => throw j
    afterwards whole fun m => { m with command := before }

def readScript (ps : Programs) : Nat → List Bytes → Run Nat
  | 0, _ => throw .stuck
  | fuel + 1, args => do
    let (_, args) ← lettersOf "" args
    match args with
    | [] => return 0
    | name :: _ =>
      let m ← get
      let file ← if name.contains Octet.slash then pure name else
        match findProgram m m.searchPath name with
        | .ok file => pure file
        | .error _ => fail (name ++ ofText ": not found")
      let read ← act (do
        match ← Process.node file with
        | .ok (.directory ..) => return .ok []
        | .ok _ => Process.readFile file
        | .error e => return .error e) (.ok [])
      match read with
      | .error e => fail (ofText "cannot open " ++ file ++ ofText ": " ++ reason "No such file" e)
      | .ok text =>
        let before ← get
        modify fun m => { m with command := some file }
        testing false (catchingBack (runText ps fuel text))
        modify fun m => { m with command := before.command }
        return (← get).status

/-- Runs a program and waits for it, unless it takes the place of the shell. -/
def program (ps : Programs) : Nat → Bool → Bool → Bytes → List Bytes → Run Unit
  | 0, _, _, _, _ => throw .stuck
  | fuel + 1, last, usesDefault, name, args => do
    let m ← get
    let path := if usesDefault then Process.defaultPath else m.searchPath
    let found : Except SystemError Bytes :=
      if name.contains Octet.slash then .ok name else findProgram m path name
    match found with
    | .error e =>
      warn (name ++ ofText ": " ++ reason "not found" e)
      setStatus 127
    | .ok file =>
      remember name
      if last ∧ m.traps.all fun t => t.2 = [] then replace ps fuel file (name :: args)
      else
        modify Machine.forget
        let body : Run Unit := replace ps fuel file (name :: args)
        await [← fork (← get).inner (complete ps fuel body)]

/-- A program takes the place of the shell, if it can be run. -/
def replace (ps : Programs) : Nat → Bytes → List Bytes → Run Unit
  | 0, _, _ => throw .stuck
  | fuel + 1, file, args => do
    let m ← get
    let name := args.headD []
    let p := { m.process with
      kept := []
      bindings := m.exported
      caught := []
      signals := [] }
    let found : Except SystemError Bytes := do
      let file ← if file.contains Octet.slash then pure file else findProgram m m.searchPath file
      let n ← p.files.node p.here file
      if n.isExecutable then return file else throw .permissionDenied
    match found with
    | .error e =>
      warn (name ++ ofText ": " ++ reason "not found" e)
      let isMissing := e = .notFound || e = .notADirectory || e = .nameTooLong ||
        e = .tooManyLinks
      setStatus (if isMissing then 127 else 126)
      throw .exit
    | .ok file =>
      fun _ =>
        .become (fun q => execute ps fuel file args q)
          { p with held := [], heldSize := 0, status := 0 }

def execute (ps : Programs) : Nat → Bytes → List Bytes → Process → Course
  | 0, _, _, p => .ended p
  | fuel + 1, file, args, p =>
    let p := { p with label := args.headD [] }
    match p.files.node p.here file with
    | .ok (.program name) =>
      if shells.contains name then shell ps fuel args.tail p
      else
        match ps name with
        | some c =>
          let whole : Act Unit := do
            c args.tail
            Process.flush
          (whole p).course (fun words q => perform ps fuel words q) fun _ p => p
        | none => .ended p
    | .ok (.file content _) =>
      match interpreterOf? (p.files.bytesOf content) with
      | some words => execute ps fuel (words.headD []) (words ++ file :: args.tail) p
      | none => shell ps fuel (file :: args.tail) { p with label := ofText "/bin/sh" }
    | _ => .ended { p with status := 126 }

def perform (ps : Programs) : Nat → List Bytes → Process → Course
  | 0, _, p => .ended p
  | fuel + 1, words, p =>
    let p := { p with kept := [], caught := [], signals := [] }
    match p.locate (words.headD []) with
    | .ok file => execute ps fuel file words p
    | .error e => .ended { p with status := if e = .permissionDenied then 126 else 127 }

def shell (ps : Programs) : Nat → List Bytes → Process → Course
  | 0, _, p => .ended p
  | fuel + 1, args, p =>
    let body : Run Unit := do
      match ← readTask args with
      | .text text => do
        deferInterrupt
        runText ps fuel text
      | .input => do
        runInput ps fuel false (.ofBytes [])
      | .file path =>
        let read ← act (do
          match ← Process.node path with
          | .ok (.directory ..) => return .ok []
          | .ok _ => Process.readFile path
          | .error e => return .error e) (.ok [])
        match read with
        | .ok text =>
          deferInterrupt
          runSource ps fuel (.ofBytes text) 0
        | .error e =>
          modify fun m => { m with name := p.label }
          fail (ofText "cannot open " ++ path ++ ofText ": " ++ reason "No such file" e)
    complete ps fuel body (.ofProcess p)

end

def stepLimit : Nat := Nat.pow 2 18

end LspRelay.Shell
