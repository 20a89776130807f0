import LspRelay.Fault.System
import LspRelay.Host.Text.Octets

namespace LspRelay

inductive Device where
  | null
  | zeros
  | full
  | random
  | terminal
  | stream (number : Nat)
  deriving Repr, DecidableEq

inductive Content where
  | fixed (bytes : Bytes)
  | kept (number : Nat)
  deriving Repr, DecidableEq

/-- What a name in a directory stands for. Modes are permissions as three octal digits. A directory
has the time when an entry last came or went. -/
inductive Node where
  | file (content : Content) (mode : Nat)
  | program (name : String)
  | directory (entries : List (Bytes × Node)) (mode : Nat) (time : Int)
  | link (target : Bytes)
  | device (d : Device)
  | pipe (number mode : Nat)

abbrev Path := List Bytes

namespace Node

def isDirectory : Node → Bool
  | directory .. => true
  | _ => false

def mode : Node → Nat
  | file _ mode => mode
  | program _ => 0o755
  | directory _ mode _ => mode
  | link _ => 0o777
  | device _ => 0o666
  | pipe _ mode => mode

def withMode (n : Node) (mode : Nat) : Node :=
  match n with
  | file content _ => file content mode
  | directory entries _ time => directory entries mode time
  | pipe number _ => pipe number mode
  | n => n

def isExecutable : Node → Bool
  | program _ => true
  | file _ mode => mode &&& 0o111 ≠ 0
  | _ => false

def entries : Node → List (Bytes × Node)
  | directory es _ _ => es
  | _ => []

/-- An entry of a directory in place of the one of its name, or without that one. -/
def setEntry (es : List (Bytes × Node)) (name : Bytes) (n : Option Node) : List (Bytes × Node) :=
  match n with
  | none => es.filter fun e => e.1 ≠ name
  | some n =>
    if es.any fun e => e.1 = name then es.map fun e => if e.1 = name then (name, n) else e
    else es ++ [(name, n)]

def at? : Node → Path → Option Node
  | n, [] => some n
  | directory es _ _, name :: names =>
    match es.lookup name with
    | some n => n.at? names
    | none => none
  | _, _ :: _ => none

/-- The tree with something else at a place, or with nothing there. The root stays what it is. -/
def put : Node → Path → Option Node → Node
  | directory es mode time, [name], new => directory (setEntry es name new) mode time
  | directory es mode time, name :: names, new =>
    match es.lookup name with
    | some n => directory (setEntry es name (some (n.put names new))) mode time
    | none => directory es mode time
  | n, _, _ => n

def setTime : Node → Path → Int → Node
  | directory es mode _, [], time => directory es mode time
  | directory es mode time, name :: names, new =>
    match es.lookup name with
    | some n => directory (setEntry es name (some (n.setTime names new))) mode time
    | none => directory es mode time
  | n, _, _ => n

def names (number : Nat) : Node → Nat
  | file (.kept n) _ => if n = number then 1 else 0
  | directory es _ _ => namesIn number es
  | _ => 0
where
  namesIn (number : Nat) : List (Bytes × Node) → Nat
    | [] => 0
    | (_, n) :: es => n.names number + namesIn number es

end Node

namespace Path

def nameLimit : Nat := 255

def lengthLimit : Nat := 4096

def linkLimit : Nat := 40

def dot : Bytes := [Octet.point]

def dots : Bytes := [Octet.point, Octet.point]

structure Found where
  place : Path
  node : Option Node

def names (bs : Bytes) : List Bytes := bs.splitOn Octet.slash

/-- Follows names from a directory, through links unless a link comes last and is itself meant. Only
the last name may stand for nothing. -/
def walk (root : Node) (follow : Bool) : Nat → Path → List Bytes → Except SystemError Found
  | _, here, [] => .ok ⟨here, root.at? here⟩
  | 0, _, _ => .error .tooManyLinks
  | fuel + 1, here, name :: rest =>
    if name = [] ∨ name = dot then walk root follow (fuel + 1) here rest
    else if name = dots then walk root follow (fuel + 1) here.dropLast rest
    else if nameLimit < name.length then .error .nameTooLong
    else
      let next := here ++ [name]
      match root.at? next with
      | none => if rest.all (· = []) then .ok ⟨next, none⟩ else .error .notFound
      | some (.link target) =>
        if rest = [] ∧ !follow then .ok ⟨next, root.at? next⟩
        else
          walk root follow fuel (if target.head? = some Octet.slash then [] else here)
            (names target ++ rest)
      | some node =>
        if node.isDirectory then walk root follow (fuel + 1) next rest
        else if rest = [] then .ok ⟨next, some node⟩
        else .error .notADirectory
termination_by fuel _ names => (fuel, names.length)

def resolve (root : Node) (here : Path) (follow : Bool) (path : Bytes) :
    Except SystemError Found :=
  if path = [] then .error .notFound
  else if lengthLimit ≤ path.length then .error .nameTooLong
  else walk root follow linkLimit (if path.head? = some Octet.slash then [] else here) (names path)

def text (p : Path) : Bytes :=
  if p = [] then [Octet.slash] else p.flatMap fun name => Octet.slash :: name

end Path

/-- What is kept of a file: its content, how often that has been changed, and when last. -/
structure KeptFile where
  content : Bytes
  version : Nat
  time : Int

/-- A file system: its tree, what is kept of files, the last one first, how many names of its own it
has made up, and the time. Times are in milliseconds, and the first one is zero. -/
structure Files where
  root : Node
  kept : List (Nat × KeptFile)
  made : Nat
  now : Int

namespace Files

def node (f : Files) (here : Path) (path : Bytes) : Except SystemError Node := do
  match (← Path.resolve f.root here true path).node with
  | some n => return n
  | none => throw .notFound

def node? (f : Files) (here : Path) (path : Bytes) : Option Node := (f.node here path).toOption

def entry? (f : Files) (here : Path) (path : Bytes) : Option Node :=
  (Path.resolve f.root here false path).toOption.bind Path.Found.node

def alter (f : Files) (place : Path) (n : Option Node) : Files :=
  { f with root := f.root.put place n }

def put (f : Files) (place : Path) (n : Option Node) : Files :=
  { f with root := (f.root.put place n).setTime place.dropLast f.now }

def kept? (f : Files) (number : Nat) : Option KeptFile := f.kept.lookup number

def bytesOf (f : Files) : Content → Bytes
  | .fixed bytes => bytes
  | .kept number => ((f.kept? number).map KeptFile.content).getD []

/-- The time of what has not changed since before the first one. -/
def oldTime : Int := -3600000

def timeOf (f : Files) : Node → Int
  | .file (.kept number) _ => ((f.kept? number).map KeptFile.time).getD oldTime
  | .directory _ _ time => time
  | _ => oldTime

/-- When what a path leads to was last changed, if it leads somewhere. -/
def time? (f : Files) (here : Path) (path : Bytes) : Option Int :=
  (f.node? here path).map f.timeOf

/-- What a path leads to as it can be told from all else: a file by its number if it has one, and
all else by its place. -/
def identity? (f : Files) (here : Path) (path : Bytes) : Option (Nat ⊕ Path) :=
  match (Path.resolve f.root here true path).toOption with
  | some ⟨_, some (.file (.kept number) _)⟩ => some (.inl number)
  | some ⟨place, some _⟩ => some (.inr place)
  | _ => none

def areSame (f : Files) (here : Path) (a b : Bytes) : Bool :=
  (f.identity? here a).isSome && f.identity? here a = f.identity? here b

def keep (f : Files) (bs : Bytes) : Files × Nat :=
  let number := f.kept.length
  ({ f with kept := (number, ⟨bs, 0, f.now⟩) :: f.kept }, number)

def modify (f : Files) (number : Nat) (g : KeptFile → KeptFile) : Files :=
  { f with kept := change f.kept }
where
  change : List (Nat × KeptFile) → List (Nat × KeptFile)
    | [] => []
    | (n, k) :: ks => if n = number then (n, g k) :: ks else (n, k) :: change ks

/-- The number of the file at a place, if there is one. -/
def numberAt (f : Files) (place : Path) : Option (Files × Nat) :=
  match f.root.at? place with
  | some (.file (.kept number) _) => some (f, number)
  | some (.file (.fixed bs) mode) =>
    let (f, number) := f.keep bs
    let f := f.modify number fun k => { k with time := oldTime }
    some (f.alter place (some (.file (.kept number) mode)), number)
  | _ => none

def setContent (f : Files) (number : Nat) (g : Bytes → Bytes) : Files :=
  f.modify number fun k => ⟨g k.content, k.version + 1, f.now⟩

def setTime (f : Files) (place : Path) (time : Int) : Files :=
  match f.numberAt place with
  | some (f, number) => f.modify number fun k => { k with time }
  | none => { f with root := f.root.setTime place time }

def written (start : Nat) (bs old : Bytes) : Bytes :=
  if start = old.length then old ++ bs
  else
    old.take start ++ List.replicate (start - old.length) 0 ++ bs ++ old.drop (start + bs.length)

def read (f : Files) (here : Path) (path : Bytes) : Except SystemError Bytes := do
  match ← f.node here path with
  | .file content _ => return f.bytesOf content
  | .program name => return ofText ("\x7fELF" ++ name)
  | .directory .. => throw .isADirectory
  | _ => return []

/-- The number of a file that can be written to. It is made if there is none. -/
def create (f : Files) (here : Path) (path : Bytes) (mode : Nat) (truncated : Bool) :
    Except SystemError (Files × Option Nat) := do
  let found ← Path.resolve f.root here true path
  match found.node with
  | none =>
    if path.getLast? = some Octet.slash then throw .isADirectory
    else
      let (f, number) := f.keep []
      return (f.put found.place (some (.file (.kept number) mode)), some number)
  | some (.directory ..) => throw .isADirectory
  | some _ =>
    match f.numberAt found.place with
    | some (f, number) =>
      return (if truncated then f.setContent number fun _ => [] else f, some number)
    | none => return (f, none)

def makeDirectory (f : Files) (here : Path) (path : Bytes) (mode : Nat) :
    Except SystemError Files := do
  let found ← Path.resolve f.root here true path
  match found.node with
  | none => return f.put found.place (some (.directory [] mode f.now))
  | some _ => throw .fileExists

def place (f : Files) (here : Path) (path : Bytes) : Except SystemError (Path × Node) := do
  let found ← Path.resolve f.root here false path
  match found.node with
  | some n => return (found.place, n)
  | none => throw .notFound

def unlink (f : Files) (here : Path) (path : Bytes) : Except SystemError Files := do
  let (place, n) ← f.place here path
  if n.isDirectory then throw .isADirectory else return f.put place none

def removeDirectory (f : Files) (here : Path) (path : Bytes) : Except SystemError Files := do
  let (place, n) ← f.place here path
  if !n.isDirectory then throw .notADirectory
  else if n.entries ≠ [] then throw .notEmpty
  else return f.put place none

def freshName (f : Files) (width : Nat) : Bytes × Files :=
  let digits := decimal (f.made + 1)
  (List.replicate (width - digits.length) (octet 'A') ++ digits, { f with made := f.made + 1 })

end Files

end LspRelay
