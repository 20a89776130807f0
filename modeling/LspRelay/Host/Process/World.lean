import LspRelay.Host.Files.Basic
import LspRelay.Host.Process.Pipe

namespace LspRelay

structure Burst where
  time : Nat
  bytes : Bytes
  deriving Repr, DecidableEq

def never : Nat := Nat.pow 10 9

/-- An open file: the number under which its content is kept, where the next octet is read or
written, whether each text is written behind the end, and what is left to read, as of a version. -/
structure Opened where
  number : Nat
  offset : Nat
  atEnd : Bool
  rest : Bytes
  version : Nat

/-- What can be read: a text that is all there, a file, a pipe, or zeros without end. Files and pipes
can also be written to. -/
inductive Feed where
  | text (rest : Bytes)
  | file (o : Opened)
  | pipe (p : Pipe)
  | zeros

namespace Feed

def empty : Feed := .text []

def zeroLimit : Nat := Nat.pow 2 24

def isFile : Feed → Bool
  | file _ => true
  | _ => false

def front : Feed → Bytes
  | text rest => rest
  | file o => o.rest
  | pipe p => p.front
  | zeros => List.replicate Page.size 0

/-- What is there, at most so many octets, and what is left then. -/
def take (f : Feed) (n : Nat) : Bytes × Feed :=
  match f with
  | text rest => (rest.take n, text (rest.drop n))
  | file o =>
    let bs := o.rest.take n
    (bs, file { o with offset := o.offset + bs.length, rest := o.rest.drop n })
  | pipe p =>
    let (bs, p) := p.read n
    (bs, pipe p)
  | zeros => (List.replicate (min n zeroLimit) 0, zeros)

def refreshed (f : Feed) (files : Files) : Feed :=
  match f with
  | file o =>
    match files.kept? o.number with
    | some k =>
      if k.version = o.version then f
      else file { o with rest := k.content.drop o.offset, version := k.version }
    | none => f
  | f => f

end Feed

/-- Where what is printed goes: to the outermost error stream, to nothing, to a device without room,
or to a pipe or an open file with a number. -/
inductive Target where
  | errors
  | null
  | full
  | pipe (number : Nat)
  | file (number : Nat)
  deriving Repr, DecidableEq

/-- What an open stream is: a feed with a number, which processes can share, a target, a feed with a
number that is also written to, or a directory. -/
inductive Stream where
  | source (number : Nat)
  | target (t : Target)
  | both (number : Nat)
  | directory (place : Path)
  deriving Repr, DecidableEq

namespace Stream

def source? : Stream → Option Nat
  | source n => some n
  | both n => some n
  | _ => none

def writes (number : Nat) : Stream → Bool
  | target (.pipe n) => n = number
  | both n => n = number
  | _ => false

def number? : Stream → Option Nat
  | source n => some n
  | both n => some n
  | target (.pipe n) => some n
  | target (.file n) => some n
  | _ => none

end Stream

/-- A process as others see it: its own number, those of its parent and its group, and what it
keeps open. -/
structure Party where
  number : Nat
  parent : Nat
  group : Nat
  opened : List Stream

structure Fate where
  status : Nat
  killedBy : Option Nat
  deriving Repr, DecidableEq

def Fate.outcome (e : Fate) : Nat :=
  match e.killedBy with
  | some signal => 128 + signal
  | none => e.status

/-- A process that is over, whose parent has not asked how it ended. -/
structure Remains where
  number : Nat
  parent : Nat
  fate : Fate

structure Sending where
  number : Nat
  toGroup : Bool
  signal : Nat

structure World where
  files : Files
  feeds : List (Nat × Feed)
  /-- How many numbers have been given to processes and feeds. -/
  numbers : Nat
  /-- What has been printed on the outermost error stream, the last first. -/
  errors : List Burst
  /-- The processes beside the present one. -/
  others : List Party
  /-- Processes that are over, the last first. -/
  remains : List Remains
  /-- Signals on their way, the last first. -/
  sent : List Sending

namespace World

def clock (w : World) : Nat := w.files.now.toNat

def feed? (w : World) (number : Nat) : Option Feed := w.feeds.lookup number

def setFeed (w : World) (number : Nat) (f : Feed) : World :=
  { w with feeds := w.feeds.map fun s => if s.1 = number then (number, f) else s }

def pipe? (w : World) (number : Nat) : Option Pipe :=
  match w.feed? number with
  | some (.pipe p) => some p
  | _ => none

def isRead (w : World) (number : Nat) : Bool :=
  w.others.any fun p => p.opened.any fun s => s.source? = some number

def isWritten (w : World) (number : Nat) : Bool :=
  w.others.any fun p => p.opened.any (Stream.writes number)

def hasInput (w : World) (number : Nat) : Bool :=
  match w.pipe? number with
  | some p => !p.pages.isEmpty || !w.isWritten number
  | none => true

def hasRoom (w : World) (number : Nat) : Bool :=
  match w.pipe? number with
  | some p => !p.isFull || !w.isRead number
  | none => true

def writeFile (w : World) (number : Nat) (bs : Bytes) : World :=
  match w.feed? number with
  | some (.file o) =>
    let start := if o.atEnd then ((w.files.kept? o.number).map fun k => k.content.length).getD 0
      else o.offset
    let w := w.setFeed number (.file { o with offset := start + bs.length })
    { w with files := w.files.setContent o.number (Files.written start bs) }
  | _ => w

def fate? (w : World) (number : Nat) : Option Fate :=
  (w.remains.find? fun r => r.number = number).map Remains.fate

end World

end LspRelay
