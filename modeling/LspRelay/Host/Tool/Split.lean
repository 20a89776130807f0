import LspRelay.Host.Tool.Amounts
import LspRelay.Host.Tool.Show

namespace LspRelay.Tool

open Process

namespace Split

/-- How a text is cut: into lines, octets, whole lines in so many octets, or a number of parts of
equal size, of lines that lie in them, or of lines in turn. -/
inductive Rule where
  | lines (n : Nat)
  | octets (n : Nat)
  | lineOctets (n : Nat)
  | parts (n : Nat)
  | lineParts (n : Nat)
  | turns (n : Nat)
  deriving Repr, DecidableEq

def inPieces {α : Type} (size : Nat) : Nat → List α → List (List α)
  | 0, _ => []
  | _ + 1, [] => []
  | fuel + 1, xs => xs.take size :: inPieces size fuel (xs.drop size)

/-- Lines put together as long as they have room; a longer one is cut. The fuel is more than the
number of lines and octets. -/
def filled (size : Nat) : Nat → Bytes → List Bytes → List Bytes
  | 0, _, _ => []
  | _ + 1, now, [] => if now = [] then [] else [now]
  | fuel + 1, now, line :: lines =>
    if now.length + line.length ≤ size then filled size fuel (now ++ line) lines
    else if now ≠ [] then now :: filled size fuel [] (line :: lines)
    else line.take size :: filled size fuel [] (line.drop size :: lines)

/-- Where the parts of a size end when there are so many of them. -/
def ends (n size : Nat) : List Nat :=
  (List.range n).map fun i => size / n * (i + 1) + min (i + 1) (size % n)

def pieces (rule : Rule) (mark : UInt8) (bs : Bytes) : List Bytes :=
  let lines := piecesOf mark bs
  match rule with
  | .lines n => (inPieces n (lines.length + 1) lines).map List.flatten
  | .octets n => inPieces n (bs.length + 1) bs
  | .lineOctets n => filled n (lines.length + 2 * bs.length + 2) [] lines
  | .parts n =>
    let (all, _) := (ends n bs.length).foldl
      (fun (all, start) stop => (((bs.drop start).take (stop - start)) :: all, stop))
      (([] : List Bytes), 0)
    all.reverse
  | .lineParts n =>
    let (placed, _) := lines.foldl
      (fun (placed, start) line => ((start, line) :: placed, start + line.length))
      (([] : List (Nat × Bytes)), 0)
    let within (low high : Nat) : Bytes :=
      (placed.reverse.filter fun l => low ≤ l.1 && l.1 < high).flatMap Prod.snd
    let stops := ends n bs.length
    (List.zip (0 :: stops) stops).map fun (low, high) => within low high
  | .turns n =>
    (List.range n).map fun i =>
      (lines.zipIdx.filter fun l => l.2 % n = i).flatMap Prod.fst

/-- A number by digits of a set, in so many of them. -/
def digitsOf (digits : List Char) : Nat → Nat → List Char
  | 0, _ => []
  | k + 1, n =>
    digitsOf digits k (n / digits.length) ++ [digits.getD (n % digits.length) ' ']

/-- The ending of the name of a file. If its length is open, names get longer before the last digit
comes first. The fuel bounds that. -/
def suffix? (digits : List Char) (isOpen : Bool) : Nat → Nat → Nat → Option (List Char)
  | 0, _, _ => none
  | fuel + 1, length, n =>
    let base := digits.length
    if isOpen then
      let room := (base - 1) * Nat.pow base (length - 1)
      if n < room then some (digitsOf digits length n)
      else
        (suffix? digits true fuel (length + 1) (n - room)).map fun cs =>
          digits.getD (base - 1) ' ' :: cs
    else if n < Nat.pow base length then some (digitsOf digits length n)
    else none

end Split

structure PartChoice where
  kind : Nat → Split.Rule
  alone : Option Bytes
  count : Bytes

def partChoice (bs : Bytes) : PartChoice :=
  let words := bs.splitOn Octet.slash
  let (kind, words) : (Nat → Split.Rule) × List Bytes := match words with
    | first :: rest =>
      if first = ofText "l" then (.lineParts, rest)
      else if first = ofText "r" then (.turns, rest)
      else (.parts, words)
    | [] => (.parts, words)
  match words with
  | [alone, count] => ⟨kind, some alone, count⟩
  | words => ⟨kind, none, words.getLastD []⟩

def split : Command := fun args => do
  /- A number behind a dash is one of lines. -/
  let isCount (arg : Bytes) : Bool := arg.head? = some Octet.dash && (number? arg.tail).isSome
  let args := args.flatMap fun arg => if isCount arg then [ofText "-l", arg.tail] else [arg]
  let known := [option 'l' "lines" .value, option 'b' "bytes" .value,
    option 'C' "line-bytes" .value, option 'n' "number" .value, option 'a' "suffix-length" .value,
    option 'd' "" .nothing, named 'd' "numeric-suffixes" .optional, option 'x' "" .nothing,
    named 'x' "hex-suffixes" .optional, option 'e' "elide-empty-files" .nothing,
    option 't' "separator" .value, option 'u' "unbuffered" .nothing,
    named 'A' "additional-suffix" .value, named 'V' "verbose" .nothing, named 'F' "filter" .value]
  withOptions known 1 args fun c => do
    let ways := ['l', 'b', 'C', 'n'].filter c.has
    if 1 < ways.length then misuse 1 (ofText "cannot split in more than one way")
    else
      let count (key : Char) (what : String) : Act Nat := do
        let v := (c.value? key).getD []
        match amount? "bkKmMGTPEZY" v with
        | some (n + 1) => return n + 1
        | _ => die 1 (ofText ("invalid number of " ++ what ++ ": ") ++ quoted v)
      let choice := partChoice ((c.value? 'n').getD [])
      let rule : Split.Rule ← match ways with
        | ['l'] => do pure (.lines (← count 'l' "lines"))
        | ['b'] => do pure (.octets (← count 'b' "bytes"))
        | ['C'] => do pure (.lineOctets (← count 'C' "bytes"))
        | ['n'] => do
          match number? choice.count with
          | some (n + 1) => pure (choice.kind (n + 1))
          | _ => die 1 (ofText "invalid number of chunks: " ++ quoted choice.count)
        | _ => pure (.lines 1000)
      let ending := (c.value? 'A').getD []
      let mark : UInt8 := match c.value? 't' with
        | some [b] => b
        | some bs => if bs = ofText "\\0" then 0 else Octet.lineFeed
        | none => Octet.lineFeed
      let length? : Option Nat ← match c.value? 'a' with
        | none => pure none
        | some v =>
          match number? v with
          | some n => pure (if n = 0 then none else some n)
          | none => die 1 (ofText "invalid suffix length: " ++ quoted v)
      if ending.contains Octet.slash then
        misuse 1 (ofText "invalid suffix " ++ quoted ending ++
          ofText ", contains directory separator")
      else
        match c.operands with
        | _ :: _ :: other :: _ => extraOperand 1 other
        | operands =>
          let file := operands.headD [Octet.dash]
          let start := operands.getD 1 (ofText "x")
          match ← readOperand file with
          | .error .isADirectory => fail 1 (shownName file ++ ofText ": Is a directory")
          | .error e =>
            fail 1 (ofText "cannot open " ++ shellQuoted file ++
              ofText (" for reading: " ++ e.description))
          | .ok bs =>
            let all := Split.pieces rule mark bs
            match choice.alone with
            | some v =>
              match number? v with
              | some (n + 1) =>
                if n < all.length then print (all.getD n [])
                else fail 1 (ofText "invalid chunk number: " ++ quoted v)
              | _ => fail 1 (ofText "invalid chunk number: " ++ quoted v)
            | none =>
              let style := c.last? ['d', 'x']
              let digits : List Char := match style with
                | some 'd' => "0123456789".toList
                | some _ => "0123456789abcdef".toList
                | none => "abcdefghijklmnopqrstuvwxyz".toList
              let first := (number? ((style.bind c.value?).getD [])).getD 0
              let all := if c.has 'e' then all.filter (· ≠ []) else all
              /- A known number of parts has names of one length. -/
              let width := (List.range 20).find? fun k =>
                1 < k && all.length + first ≤ Nat.pow digits.length k
              let isOpen := length?.isNone && !c.has 'n' && first = 0
              let length := length?.getD (if c.has 'n' then width.getD 2 else 2)
              emit c start ending (Split.suffix? digits isOpen 20 length) first all
where
  /-- Writes the pieces to files, or gives them to a command. -/
  emit (c : Chosen) (start ending : Bytes) (suffix? : Nat → Option (List Char)) (first : Nat)
      (all : List Bytes) : Act Unit := do
    for (piece, i) in all.zipIdx do
      match suffix? (first + i) with
      | none => die 1 (ofText "output file suffixes exhausted")
      | some cs =>
        let name := start ++ ofChars cs ++ ending
        match c.value? 'F' with
        | some command =>
          flush
          let _ ← start' name piece command
        | none =>
          if c.has 'V' then printLine (ofText "creating file " ++ shellQuoted name)
          match ← writeFile name piece true with
          | .ok () => pure ()
          | .error e => die 1 (shownName name ++ ofText (": " ++ e.description))
  start' (name piece command : Bytes) : Act Fate :=
    Process.start [ofText "/bin/sh", ofText "-c", command] fun q =>
      { q.feed 0 (.text piece) with
        bindings := q.bindings ++ [(ofText "FILE", name)] }

end LspRelay.Tool
