import LspRelay.Host.Process.Basic

namespace LspRelay

inductive Supply where
  | none
  | input
  | feed (number : Nat)
  deriving Repr, DecidableEq

/-- What has been read and not used, where more comes from, and whether a whole block is waited for
each time. -/
structure Lines where
  rest : Bytes
  supply : Supply
  isWhole : Bool

namespace Lines

open Process

def blockSize : Nat := 4096

def ofInput : Lines := ⟨[], .input, false⟩

def ofBytes (bs : Bytes) : Lines := ⟨bs, .none, false⟩

def ofPath (path : Bytes) : Act (Except SystemError Lines) := do
  match ← node path with
  | .ok (.file ..) => return (← readFile path).map ofBytes
  | _ =>
    match ← openSource path with
    | .error e => return .error e
    | .ok s =>
      match s.source? with
      | some number => return .ok ⟨[], .feed number, false⟩
      | none => return .error .isADirectory

/-- One block of a feed, which is not over before it is full or nothing is left. The fuel bounds the
readings. -/
def block (number : Nat) : Nat → Bytes → Act Bytes
  | 0, seen => return seen
  | fuel + 1, seen => do
    if blockSize ≤ seen.length then return seen
    let bs ← readFeed number (blockSize - seen.length)
    if bs = [] then return seen else block number fuel (seen ++ bs)

/-- Reads one more piece, which is a line if what is left over can be given back. -/
def more (l : Lines) : Act Lines := do
  let found : Option (Nat × Feed) ← do
    match l.supply with
    | .none => pure none
    | .input => do pure ((← get).feedOf 0).toOption
    | .feed number => do pure (((← get).feed? number).map fun f => (number, f))
  match found with
  | none => return { l with supply := .none }
  | some (number, feed) =>
    let bs ← if l.isWhole then block number blockSize []
      else if feed.isFile then takeFeed number 1 false (linesLength? Octet.lineFeed 0 1) waitLimit []
      else readFeed number blockSize
    return { l with rest := l.rest ++ bs, supply := if bs = [] then .none else l.supply }

/-- A line with its mark, or what is left at the end without one. The fuel bounds the readings. -/
def nextWithin (mark : UInt8) : Nat → Lines → Act (Option Bytes × Lines)
  | 0, l => return (none, l)
  | fuel + 1, l => do
    let line := l.rest.takeWhile (· ≠ mark)
    match l.rest.drop line.length with
    | b :: rest => return (some (line ++ [b]), { l with rest })
    | [] =>
      if l.supply ≠ .none then nextWithin mark fuel (← l.more)
      else return (if line = [] then none else some line, { l with rest := [] })

def readLimit : Nat := Nat.pow 2 20

def next (l : Lines) (mark : UInt8) : Act (Option Bytes × Lines) := nextWithin mark readLimit l

def hasMore (l : Lines) : Act (Bool × Lines) := do
  if l.rest ≠ [] then return (true, l)
  else if l.supply ≠ .none then
    let l ← l.more
    return (l.rest ≠ [], l)
  else return (false, l)

end Lines

end LspRelay
