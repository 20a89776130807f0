import LspRelay.Host.Tool.Show

namespace LspRelay.Tool

open Process

structure Counts where
  lines : Nat
  words : Nat
  chars : Nat
  octets : Nat
  longest : Nat

namespace Counts

def zero : Counts := ⟨0, 0, 0, 0, 0⟩

def widthAfter (width : Nat) (b : UInt8) : Nat :=
  if b = Octet.tab then width + 8 - width % 8
  else if b = Octet.lineFeed ∨ b = 13 ∨ b = 12 then 0
  else if 32 ≤ b ∧ b < 127 then width + 1
  else width

def ofBytes (bs : Bytes) : Counts :=
  let isSpace (b : UInt8) : Bool := b = Octet.space || (9 ≤ b && b ≤ 13)
  let (words, _) := bs.foldl
    (fun (n, inside) b =>
      if isSpace b then (n, false) else (if inside then n else n + 1, true)) (0, false)
  let (longest, width) := bs.foldl
    (fun (longest, width) b => (max longest width, widthAfter width b)) (0, 0)
  { lines := bs.count Octet.lineFeed
    words
    chars := bs.length
    octets := bs.length
    longest := max longest width }

def plus (a b : Counts) : Counts :=
  ⟨a.lines + b.lines, a.words + b.words, a.chars + b.chars, a.octets + b.octets,
    max a.longest b.longest⟩

def shown (c : Chosen) (width : Nat) (n : Counts) (name : Option Bytes) : Bytes :=
  let all := !(['c', 'm', 'l', 'w', 'L'].any c.has)
  let columns : List (Bool × Nat) :=
    [(all || c.has 'l', n.lines), (all || c.has 'w', n.words), (c.has 'm', n.chars),
     (all || c.has 'c', n.octets), (c.has 'L', n.longest)]
  let texts := (columns.filter Prod.fst).map fun x => padded width (decimal x.2)
  lineOf (joined (texts ++ name.toList))

end Counts

def sizeOf (file : Bytes) : Act (Option Nat) := do
  let p ← get
  if file = [Octet.dash] then
    match p.feedOf 0 with
    | .ok (_, feed) =>
      return if feed.isFile then some (feed.refreshed p.files).front.length else none
    | .error _ => return none
  else
    match p.files.node? p.here file with
    | some (.file content _) => return some (p.files.bytesOf content).length
    | _ => return none

def wc : Command := fun args =>
  let known := [option 'c' "bytes" .nothing, option 'm' "chars" .nothing,
    option 'l' "lines" .nothing, option 'w' "words" .nothing,
    option 'L' "max-line-length" .nothing, named 'f' "files0-from" .value,
    named 't' "total" .value]
  withOptions known 1 args fun c => do
    let kinds := (['c', 'm', 'l', 'w', 'L'].filter c.has).length
    let files := c.operandsOrInput
    let sizes ← files.mapM sizeOf
    let isThere ← files.mapM fun file => do
      if file = [Octet.dash] then return ((← get).feedOf 0).toBool
      else return (← node file).toBool
    let isSingle := files.length = 1 && kinds = 1
    let special := (sizes.zip isThere).any fun (size, here) => size.isNone && here
    let width :=
      if isSingle then 1
      else
        let digits := decimal (total (sizes.map fun size => size.getD 0))
        max digits.length (if special then 7 else 1)
    let total := (c.value? 't').getD (ofText "auto")
    let mut sum := Counts.zero
    let mut isClosed := false
    for file in files do
      let name := if c.operands = [] then none else some file
      let result ← readOperand file
      let counts : Counts := match result with
        | .ok bs => .ofBytes bs
        | .error _ => .zero
      match result with
      | .ok _ => pure ()
      | .error e =>
        if c.operands = [] then fail 1 (ofText ("'standard input': " ++ e.description))
        else failOn 1 file e
        isClosed := isClosed || (file = [Octet.dash] && e = .badDescriptor)
      let isShown : Bool := match result with
        | .ok _ => true
        | .error e => e = .isADirectory || file = [Octet.dash]
      if isShown ∧ total ≠ ofText "only" then print (counts.shown c width name)
      sum := sum.plus counts
    let hasTotal := (total = ofText "auto" && 1 < files.length) || total = ofText "always" ||
      total = ofText "only"
    if hasTotal then
      print (sum.shown c (if total = ofText "only" then 1 else width)
        (if total = ofText "only" then none else some (ofText "total")))
    if isClosed then fail 1 (ofText "-: Bad file descriptor")

end LspRelay.Tool
