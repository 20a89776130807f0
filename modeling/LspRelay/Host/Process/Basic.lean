import LspRelay.Host.Process.Signal
import LspRelay.Host.Process.World

namespace LspRelay

/-- What a process was given, what it has come to, and the world around it as it was when the
process last waited. Its label stands in front of its complaints. -/
structure Process extends World where
  label : Bytes
  number : Nat
  parent : Nat
  group : Nat
  here : Path
  bindings : List (Bytes × Bytes)
  mask : Nat
  niceness : Int
  streams : List (Nat × Stream)
  /-- What streams led to that have been led elsewhere for a while. -/
  kept : List Stream
  /-- The signals that it does not notice. -/
  ignored : List Nat
  /-- The signals of which it takes note, and those of them that have come. -/
  caught : List Nat
  signals : List Nat
  held : List Bytes
  heldSize : Nat
  /-- Whether it and all that it starts hold nothing back. -/
  isPrompt : Bool
  /-- How much it has done since it last let others go first. -/
  effort : Nat
  status : Nat
  killedBy : Option Nat

/-- What a process waits for: nothing, all others that can go on, or a time or a condition,
whichever comes first. A signal that it takes note of may also end its waiting. -/
inductive Wait where
  | nothing
  | others
  | event (time : Option Nat) (condition : World → Bool) (heeds : Bool)

/-- How far a process has come: it goes on with a value and a state, it is over, it gives its place
to a task, it waits, or it starts another process with a task. -/
inductive Progress (τ σ α : Type) where
  | done (value : α) (state : σ)
  | ended (p : Process)
  | become (task : τ) (p : Process)
  | wait (w : Wait) (p : Process) (resume : Process → Progress τ σ α)
  | start (task : τ) (child p : Process) (resume : Process → Progress τ σ α)

namespace Progress

variable {τ σ α β : Type}

def bind : Progress τ σ α → (α → σ → Progress τ σ β) → Progress τ σ β
  | done a s, f => f a s
  | ended p, _ => ended p
  | become task p, _ => become task p
  | wait w p resume, f => wait w p fun q => (resume q).bind f
  | start task child p resume, f => start task child p fun q => (resume q).bind f

end Progress

inductive Course where
  | ended (p : Process)
  | wait (w : Wait) (p : Process) (resume : Process → Course)
  | start (course : Process → Course) (child p : Process) (resume : Process → Course)

def Progress.course {τ σ α : Type} (task : τ → Process → Course) (last : α → σ → Process) :
    Progress τ σ α → Course
  | done a s => .ended (last a s)
  | ended p => .ended p
  | become t p => task t p
  | wait w p resume => .wait w p fun q => (resume q).course task last
  | start t child p resume => .start (task t) child p fun q => (resume q).course task last

def Act (α : Type) := Process → Progress (List Bytes) Process α

namespace Act

instance : Monad Act where
  pure a := fun p => .done a p
  bind x f := fun p =>
    match x p with
    | .done a p => f a p
    | r => r.bind f

instance : MonadStateOf Process Act where
  get := fun p => .done p p
  set p := fun _ => .done () p
  modifyGet f := fun p => let (a, p) := f p; .done a p

end Act

abbrev Command := List Bytes → Act Unit

namespace Process

def stream? (p : Process) (stream : Nat) : Option Stream := p.streams.lookup stream

def opened (p : Process) : List Stream := p.streams.map Prod.snd ++ p.kept

def party (p : Process) : Party := ⟨p.number, p.parent, p.group, p.opened⟩

def surroundings (p : Process) : World := { p.toWorld with others := p.party :: p.others }

def setSource (p : Process) (number : Nat) (f : Feed) : Process :=
  { p with toWorld := p.toWorld.setFeed number f }

def lead (p : Process) (stream : Nat) (target : Option Stream) : Process :=
  { p with streams := (target.map (stream, ·)).toList ++ p.streams.filter fun s => s.1 ≠ stream }

def withFeed (p : Process) (f : Feed) : Process :=
  { p with numbers := p.numbers + 1, feeds := (p.numbers, f) :: p.feeds }

def feed (p : Process) (stream : Nat) (f : Feed) : Process :=
  (p.withFeed f).lead stream (some (.source p.numbers))

def feedOf (p : Process) (stream : Nat) : Except SystemError (Nat × Feed) :=
  match p.stream? stream with
  | some (.directory _) => .error .isADirectory
  | s =>
    match s.bind Stream.source? with
    | some n =>
      match p.feed? n with
      | some f => .ok (n, f)
      | none => .error .badDescriptor
    | none => .error .badDescriptor

def child (p : Process) : Process :=
  { p with
    number := p.numbers
    numbers := p.numbers + 1
    parent := p.number
    caught := []
    signals := []
    held := []
    heldSize := 0
    effort := 0
    status := 0
    killedBy := none }

def ledBack (p before : Process) : Process :=
  { p with streams := before.streams, kept := before.kept }

def fate (p : Process) : Fate := ⟨p.status, p.killedBy⟩

/-- The process when it has asked how another one ended. -/
def buried (p : Process) (number : Nat) : Process :=
  { p with remains := p.remains.filter fun r => r.number ≠ number }

def pipeSignal : Nat := 13

def setStatus (status : Nat) : Act Unit := modify fun p => { p with status }

/-- Lets time pass until something has come true, or a time has come. -/
def await (time : Option Nat) (condition : World → Bool) : Act Unit := fun p =>
  .wait (.event time condition false) p fun q => .done () q

def pause (time : Nat) : Act Unit := do
  await (some ((← get).clock + time)) fun _ => false

def giveWay : Act Unit := fun p => .wait .others p fun q => .done () q

def waitLimit : Nat := Nat.pow 2 40

def fillPipe (number : Nat) : Nat → Bytes → Act (Except SystemError Unit)
  | 0, _ => return .ok ()
  | fuel + 1, bs => do
    let p ← get
    match p.pipe? number with
    | none => return .error .badDescriptor
    | some pipe =>
      if !p.surroundings.isRead number then return .error .brokenPipe
      let (pipe, rest) := pipe.write bs
      set (p.setSource number (.pipe pipe))
      if rest = [] then return .ok ()
      await none fun w => w.hasRoom number
      fillPipe number fuel rest

def writeStream (s : Stream) (bs : Bytes) : Act (Except SystemError Unit) := do
  let toFeed (number : Nat) : Act (Except SystemError Unit) := do
    match (← get).feed? number with
    | some (.pipe _) => fillPipe number waitLimit bs
    | _ =>
      modify fun p => { p with toWorld := p.toWorld.writeFile number bs }
      return .ok ()
  if bs = [] then return .ok ()
  match s with
  | .target .null => return .ok ()
  | .target .full => return .error .noSpace
  | .target .errors =>
    modify fun p => { p with errors := ⟨p.clock, bs⟩ :: p.errors }
    return .ok ()
  | .target (.pipe number) => toFeed number
  | .target (.file number) => toFeed number
  | .both number => toFeed number
  | _ => return .error .badDescriptor

/-- Prints on a stream, unless that is not possible. -/
def tryWrite (stream : Nat) (bs : Bytes) : Act (Except SystemError Unit) := do
  if bs = [] then return .ok ()
  match (← get).stream? stream with
  | some s => writeStream s bs
  | none => return .error .badDescriptor

def writeError (bs : Bytes) : Act Unit := do
  let _ ← tryWrite 2 bs

def complain (text : Bytes) : Act Unit := do
  writeError (lineOf ((← get).label ++ ofText ": " ++ text))

def fail (status : Nat) (text : Bytes) : Act Unit := do
  complain text
  setStatus status

/-- Prints at once. If nobody reads that, the process is killed unless it does not notice. -/
def writeTo (stream : Nat) (bs : Bytes) : Act Unit := do
  match ← tryWrite stream bs with
  | .ok () => pure ()
  | .error e =>
    if e = .brokenPipe ∧ pipeSignal ∉ (← get).ignored then
      fun p => .ended { p with killedBy := some pipeSignal }
    else
      complain (ofText ("write error: " ++ e.description))
      fun p => .ended { p with status := 1 }

def flush : Act Unit := do
  let p ← get
  if p.heldSize ≠ 0 then
    set { p with held := [], heldSize := 0 }
    writeTo 1 p.held.reverse.flatten

def exit {α : Type} (status : Nat) : Act α := do
  flush
  fun p => .ended { p with status }

def die {α : Type} (status : Nat) (text : Bytes) : Act α := do
  complain text
  exit status

def write (bs : Bytes) : Act Unit := do
  flush
  writeTo 1 bs

def holdLimit : Nat := 4096

/-- Prints when the process ends or holds back too much, or at once if it holds nothing back. -/
def print (bs : Bytes) : Act Unit := do
  let p ← get
  if p.isPrompt then write bs
  else
    let size := p.heldSize + bs.length
    if size < holdLimit then set { p with held := bs :: p.held, heldSize := size }
    else
      let all := (bs :: p.held).reverse.flatten
      let count := size / holdLimit * holdLimit
      set { p with held := [all.drop count], heldSize := size - count }
      writeTo 1 (all.take count)

def printLine (bs : Bytes) : Act Unit := print (lineOf bs)

def readLimit : Nat := Nat.pow 2 17

/-- One read of at most so many octets of a feed, which waits until there is something, or nothing
will come any more. -/
def readFeed (number count : Nat) : Act Bytes := do
  if !(← get).surroundings.hasInput number then
    await none fun w => w.hasInput number
  if (← get).feed? number matches some .zeros then giveWay
  let p ← get
  match p.feed? number with
  | none => return []
  | some f =>
    let (bs, rest) := (f.refreshed p.files).take count
    set (p.setSource number rest)
    return bs

def readSome (stream count : Nat) : Act (Except SystemError Bytes) := do
  match (← get).feedOf stream with
  | .error e => return .error e
  | .ok (number, _) => return .ok (← readFeed number count)

def eachPieceOf (number : Nat) (f : Bytes → Act Unit) : Nat → Act Unit
  | 0 => return ()
  | fuel + 1 => do
    let bs ← readFeed number readLimit
    if bs = [] then return ()
    f bs
    eachPieceOf number f fuel

def eachPiece (f : Bytes → Act Unit) : Act (Except SystemError Unit) := do
  match (← get).feedOf 0 with
  | .error e => return .error e
  | .ok (number, _) =>
    eachPieceOf number f waitLimit
    return .ok ()

def restOf (number : Nat) : Nat → List Bytes → Act Bytes
  | 0, pieces => return pieces.reverse.flatten
  | fuel + 1, pieces => do
    let bs ← readFeed number readLimit
    if bs = [] then return pieces.reverse.flatten else restOf number fuel (bs :: pieces)

def readAll (stream : Nat) : Act (Except SystemError Bytes) := do
  match (← get).feedOf stream with
  | .error e => return .error e
  | .ok (number, _) => return .ok (← restOf number waitLimit [])

/-- All that is left of the input, if there is an input. -/
def readInput : Act (Except SystemError Bytes) := readAll 0

/-- Takes octets of a feed until `enough` tells how many of those seen so far to take, or to the
end. They are read in blocks, and what is left of a block is lost if it cannot be given back. -/
def takeFeed (number block : Nat) (heeds : Bool) (enough : Bytes → Option Nat) :
    Nat → Bytes → Act Bytes
  | 0, seen => return seen
  | fuel + 1, seen => do
    if !(← get).surroundings.hasInput number then
      fun p => .wait (.event none (fun w => w.hasInput number) heeds) p fun q => .done () q
    if (← get).feed? number matches some .zeros then giveWay
    let p ← get
    match (p.feed? number).map fun f => f.refreshed p.files with
    | none => return seen
    | some f =>
      let front := f.front
      if front = [] then return seen
      let isGiven := f.isFile || block ≤ 1
      let piece := if isGiven then front else (f.take block).1
      let all := seen ++ piece
      match enough all with
      | some n =>
        let used := if isGiven then n - seen.length else piece.length
        set (p.setSource number (f.take used).2)
        return all.take n
      | none =>
        set (p.setSource number (f.take piece.length).2)
        takeFeed number block heeds enough fuel all

def takeUntil (stream block : Nat) (heeds : Bool) (enough : Bytes → Option Nat) :
    Act (Except SystemError Bytes) := do
  match (← get).feedOf stream with
  | .error e => return .error e
  | .ok (number, _) => return .ok (← takeFeed number block heeds enough waitLimit [])

/-- So many octets of a feed, or what there is up to the end, behind pieces of it that have been
read, the last one first. -/
def countOf (number : Nat) : Nat → Nat → List Bytes → Act Bytes
  | 0, _, pieces => return pieces.reverse.flatten
  | fuel + 1, left, pieces => do
    if left = 0 then return pieces.reverse.flatten
    let bs ← readFeed number (min left readLimit)
    if bs = [] then return pieces.reverse.flatten
    else countOf number fuel (left - bs.length) (bs :: pieces)

def takeCount (stream n : Nat) : Act (Except SystemError Bytes) := do
  match (← get).feedOf stream with
  | .error e => return .error e
  | .ok (number, _) => return .ok (← countOf number waitLimit n [])

/-- How long the first lines of a text are, if it has so many, beyond a length that is known. -/
def linesLength? (mark : UInt8) (length : Nat) : Nat → Bytes → Option Nat
  | 0, _ => some length
  | _ + 1, [] => none
  | n + 1, b :: bs => linesLength? mark (length + 1) (if b = mark then n else n + 1) bs

def giveBack (number count : Nat) : Act Unit := do
  match (← get).feed? number with
  | some (.file o) =>
    let o := { o with offset := o.offset - count, version := o.version + 1 }
    modify fun p => p.setSource number (.file o)
  | _ => return ()

def takeLines (stream block n : Nat) : Act (Except SystemError Bytes) := do
  if n = 0 then return (← get).feedOf stream |>.map fun _ => []
  takeUntil stream block false (linesLength? Octet.lineFeed 0 n)

def node (path : Bytes) : Act (Except SystemError Node) := do
  let p ← get
  return p.files.node p.here path

/-- How something is opened: to be read, to be written to, where it may lose what is in it and where
each text may go behind the end, or to be read and written to. -/
inductive Opening where
  | read
  | write (truncated atEnd : Bool)
  | both

namespace Opening

def stream (o : Opening) (number : Nat) (target : Nat → Target) : Stream :=
  match o with
  | read => .source number
  | write .. => .target (target number)
  | both => .both number

def isMet (o : Opening) (number : Nat) (w : World) : Bool :=
  match o with
  | read => w.isWritten number
  | write .. => w.isRead number
  | both => true

end Opening

def hold (s : Stream) : Act Unit := modify fun p => { p with kept := s :: p.kept }

def letGo (s : Stream) : Act Unit := modify fun p => { p with kept := p.kept.erase s }

def openFeed (o : Opening) (f : Feed) : Act Stream := do
  let number := (← get).numbers
  modify fun p => p.withFeed f
  return o.stream number .file

def openKept (o : Opening) (number : Nat) : Act Stream := do
  let atEnd := o matches .write _ true
  if o matches .write true _ then
    modify fun p => { p with files := p.files.setContent number fun _ => [] }
  match (← get).files.kept? number with
  | some k => openFeed o (.file ⟨number, 0, atEnd, k.content, k.version⟩)
  | none => openFeed o .empty

/-- Opens a pipe, and waits until someone has opened its other end. What is in a pipe is lost when
nobody has opened it. -/
def openPipe (o : Opening) (number : Nat) : Act Stream := do
  let s := o.stream number .pipe
  modify fun p =>
    let isOpen := p.surroundings.others.any fun q => q.opened.any fun s => s.number? = some number
    if isOpen then p
    else { p with feeds := (number, .pipe .empty) :: p.feeds.filter fun f => f.1 ≠ number }
  hold s
  if o.isMet number (← get).surroundings then giveWay else await none (o.isMet number)
  letGo s
  return s

def reopen (o : Opening) (s : Stream) : Act Stream := do
  match s.number?.bind (← get).feed? with
  | some (.file opened) => openKept o opened.number
  | _ => return s

/-- Opens what a path leads to. What can be written to is made if there is nothing. -/
def openPath (o : Opening) (path : Bytes) : Act (Except SystemError Stream) := do
  let p ← get
  let isRead := o matches .read
  match p.files.node p.here path with
  | .ok (.device (.stream n)) =>
    match p.stream? n with
    | some s => return .ok (← reopen o s)
    | none => return .error .notFound
  | .ok (.device .terminal) => return .error .noDevice
  | .ok (.device d) =>
    if o matches .write .. then return .ok (.target (if d = .full then .full else .null))
    else return .ok (← openFeed o (if d = .null then .empty else .zeros))
  | .ok (.pipe number _) => return .ok (← openPipe o number)
  | .ok (.program name) =>
    if isRead then return .ok (← openFeed o (.text (ofText ("\x7fELF" ++ name))))
    else return .ok (.target .null)
  | .ok (.directory ..) =>
    match isRead, Path.resolve p.files.root p.here true path with
    | true, .ok found => return .ok (.directory found.place)
    | _, _ => return .error .isADirectory
  | .error e =>
    if isRead then return .error e else make p
  | .ok _ => make p
where
  /-- Opens a file, which is made if there is none. -/
  make (p : Process) : Act (Except SystemError Stream) := do
    let mode := 0o666 &&& (0o777 ^^^ (p.mask &&& 0o777))
    match p.files.create p.here path mode false with
    | .ok (files, some number) =>
      set { p with files }
      return .ok (← openKept o number)
    | .ok (_, none) => return .error .notFound
    | .error e => return .error e

def seek (s : Stream) (offset : Nat) (ends : Bool) : Act Unit := do
  match s.number? with
  | none => return ()
  | some number =>
    match (← get).feed? number with
    | some (.file o) =>
      if ends then
        modify fun p =>
          { p with
            files := p.files.setContent o.number fun bs =>
              bs.take offset ++ List.replicate (offset - bs.length) 0 }
      modify fun p => p.setSource number (.file { o with offset, version := o.version + 1 })
    | _ => return ()

/-- Opens a file for printing to it, and makes it if there is none. It stays open. -/
def openTarget (path : Bytes) (truncated : Bool) : Act (Except SystemError Stream) := do
  match ← openPath (.write truncated !truncated) path with
  | .ok s =>
    hold s
    return .ok s
  | .error e => return .error e

def openSource (path : Bytes) : Act (Except SystemError Stream) := do
  match ← openPath .read path with
  | .ok s =>
    hold s
    return .ok s
  | .error e => return .error e

def openInput (stream : Nat) (path : Bytes) : Act (Except SystemError Unit) := do
  match ← openPath .read path with
  | .ok s =>
    modify fun p => p.lead stream (some s)
    return .ok ()
  | .error e => return .error e

def readFile (path : Bytes) : Act (Except SystemError Bytes) := do
  let p ← get
  match p.files.node p.here path with
  | .ok (.file content _) => return .ok (p.files.bytesOf content)
  | .ok (.device (.stream n)) =>
    match p.feedOf n with
    | .ok (_, .file o) => return .ok (((p.files.kept? o.number).map KeptFile.content).getD [])
    | _ => readAll n
  | _ =>
    match ← openSource path with
    | .error e => return .error e
    | .ok s =>
      match s.source? with
      | none => return .error .isADirectory
      | some number =>
        let bs ← restOf number waitLimit []
        letGo s
        return .ok bs

def readOperand (operand : Bytes) : Act (Except SystemError Bytes) :=
  if operand = [Octet.dash] then readInput else readFile operand

def change (f : Files → Path → Except SystemError Files) : Act (Except SystemError Unit) := do
  let p ← get
  match f p.files p.here with
  | .ok files =>
    set { p with files }
    return .ok ()
  | .error e => return .error e

def newMode (mode : Nat) : Act Nat := return mode &&& (0o777 ^^^ ((← get).mask &&& 0o777))

def writeFile (path bs : Bytes) (truncated : Bool) : Act (Except SystemError Unit) := do
  match ← openTarget path truncated with
  | .ok s =>
    let result ← writeStream s bs
    letGo s
    return result
  | .error e => return .error e

def renewFile (path bs : Bytes) : Act Unit := do
  let p ← get
  match Path.resolve p.files.root p.here true path with
  | .ok ⟨place, some n⟩ =>
    let (files, number) := p.files.keep bs
    set { p with files := files.put place (some (.file (.kept number) n.mode)) }
  | _ => return ()

def valueOf? (name : String) : Act (Option Bytes) :=
  return (← get).bindings.lookup (ofText name)

def launch (command : List Bytes) (prepare : Process → Process) : Act Nat := fun p =>
  let child := prepare p.child
  .start command child { p with toWorld := child.toWorld } fun q => .done child.number q

def awaitEnd (number : Nat) : Act Fate := do
  if ((← get).fate? number).isNone then await none fun w => (w.fate? number).isSome
  let p ← get
  set (p.buried number)
  return (p.fate? number).getD ⟨0, none⟩

/-- Runs another program as a process that has been prepared for it, and tells how it ended. What is
held back is not printed before. -/
def start (command : List Bytes) (prepare : Process → Process) : Act Fate := do
  awaitEnd (← launch command prepare)

def callAs (command : List Bytes) (prepare : Process → Process) : Act Fate := do
  flush
  start command prepare

def capture (command : List Bytes) : Act (Bytes × Fate) := do
  flush
  let before ← get
  let number := before.numbers
  set (before.withFeed (.pipe .empty))
  let child ← launch command fun q => q.lead 1 (some (.target (.pipe number)))
  modify fun p => { p with kept := .source number :: p.kept }
  let bs ← restOf number waitLimit []
  modify fun p =>
    { p with kept := before.kept, feeds := p.feeds.filter fun f => f.1 ≠ number }
  return (bs, ← awaitEnd child)

def call (command : List Bytes) : Act Nat := return (← callAs command id).outcome

def replaceBy (command : List Bytes) : Act Unit := do
  flush
  fun p => .become command p

end Process

end LspRelay
