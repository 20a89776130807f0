import LspRelay.Host.Text.Layout
import LspRelay.Host.Tool.Amounts

namespace LspRelay.Tool

open Process

structure BlockJob where
  source : Option Bytes
  target : Option Bytes
  inputSize : Nat
  outputSize : Nat
  /-- Whether what is read in one piece is written in one piece. -/
  isDirect : Bool
  count : Option Nat
  countsOctets : Bool
  skip : Nat
  skipsOctets : Bool
  seek : Nat
  seeksOctets : Bool
  lineSize : Nat
  conversions : List String
  status : String
  isFull : Bool

structure BlockCounts where
  whole : Nat
  parts : Nat
  octets : Nat

namespace BlockJob

def initial : BlockJob :=
  { source := none
    target := none
    inputSize := 512
    outputSize := 512
    isDirect := false
    count := none
    countsOctets := false
    skip := 0
    skipsOctets := false
    seek := 0
    seeksOctets := false
    lineSize := 0
    conversions := []
    status := ""
    isFull := false }

def conversionNames : List String :=
  ["ascii", "ebcdic", "ibm", "block", "unblock", "lcase", "ucase", "sparse", "swab", "sync", "excl",
   "nocreat", "notrunc", "noerror", "fdatasync", "fsync"]

def flagNames : List String :=
  ["append", "binary", "cio", "direct", "directory", "dsync", "noatime", "nocache", "noctty",
   "nofollow", "nolinks", "nonblock", "sync", "text", "fullblock", "count_bytes", "skip_bytes",
   "seek_bytes"]

def number? (bs : Bytes) : Option Nat :=
  ((bs.splitOn (octet 'x')).mapM (amount? "cwbkKMGTPEZY")).map fun ns => ns.foldl (· * ·) 1

def has (j : BlockJob) (name : String) : Bool := j.conversions.contains name

/-- The words between commas, if they are all known. -/
def wordsOf (known : List String) (what : String) (value : Bytes) : Except Bytes (List String) :=
  (value.splitOn (octet ',')).mapM fun word =>
    match known.find? fun name => ofText name = word with
    | some name => .ok name
    | none => .error (ofText (what ++ ": ") ++ quoted word)

/-- Takes an operand. The first kind of problem goes with a hint, the second one without. -/
def take (j : BlockJob) (arg : Bytes) : Except (Bool × Bytes) BlockJob := do
  let name := arg.takeWhile (· ≠ Octet.equals)
  let value := arg.drop (name.length + 1)
  let hinted {α : Type} (e : Except Bytes α) : Except (Bool × Bytes) α :=
    match e with
    | .ok a => .ok a
    | .error text => .error (true, text)
  let invalid : Bytes := ofText "invalid number: " ++ quoted value
  let amount : Except (Bool × Bytes) Nat :=
    match number? value with
    | some n =>
      if n < Nat.pow 2 63 then .ok n
      else .error (false, invalid ++ ofText ": Value too large for defined data type")
    | none => .error (false, invalid)
  let size : Except (Bool × Bytes) Nat := do
    let n ← amount
    if n = 0 then throw (false, invalid) else return n
  /- A number of blocks, or of octets if a letter says so. -/
  let counted : Except (Bool × Bytes) (Nat × Bool) :=
    match if value.getLast? = some (octet 'B') then number? value.dropLast else none with
    | some n => .ok (n, true)
    | none => do return (← amount, false)
  if !arg.contains Octet.equals then
    throw (true, ofText "unrecognized operand " ++ quoted arg)
  else if name = ofText "if" then return { j with source := some value }
  else if name = ofText "of" then return { j with target := some value }
  else if name = ofText "bs" then
    let n ← size
    return { j with inputSize := n, outputSize := n, isDirect := true }
  else if name = ofText "ibs" then return { j with inputSize := ← size }
  else if name = ofText "obs" then return { j with outputSize := ← size }
  else if name = ofText "cbs" then return { j with lineSize := ← size }
  else if name = ofText "count" then
    let (n, isOctets) ← counted
    return { j with count := some n, countsOctets := j.countsOctets || isOctets }
  else if name = ofText "skip" ∨ name = ofText "iseek" then
    let (n, isOctets) ← counted
    return { j with skip := n, skipsOctets := j.skipsOctets || isOctets }
  else if name = ofText "seek" ∨ name = ofText "oseek" then
    let (n, isOctets) ← counted
    return { j with seek := n, seeksOctets := j.seeksOctets || isOctets }
  else if name = ofText "status" then
    let names ← hinted (wordsOf ["none", "noxfer", "progress"] "invalid status level" value)
    return { j with status := names.getLastD "" }
  else if name = ofText "conv" then
    let names ← hinted (wordsOf conversionNames "invalid conversion" value)
    return { j with conversions := j.conversions ++ names }
  else if name = ofText "iflag" then
    let names ← hinted (wordsOf flagNames "invalid input flag" value)
    return { j with
      isFull := j.isFull || names.contains "fullblock"
      countsOctets := j.countsOctets || names.contains "count_bytes"
      skipsOctets := j.skipsOctets || names.contains "skip_bytes" }
  else if name = ofText "oflag" then
    let names ← hinted (wordsOf flagNames "invalid output flag" value)
    return { j with
      conversions := j.conversions ++ (if names.contains "append" then ["append"] else [])
      seeksOctets := j.seeksOctets || names.contains "seek_bytes" }
  else throw (true, ofText "unrecognized operand " ++ quoted arg)

def swapped : Bytes → Bytes
  | a :: b :: bs => b :: a :: swapped bs
  | bs => bs

def blocked (size : Nat) (bs : Bytes) : Bytes :=
  (plainLines bs).flatMap fun line =>
    line.take size ++ List.replicate (size - line.length) Octet.space

/-- Blocks of a size as lines, without the spaces behind them. The fuel is the length of the text.
-/
def unblocked (size : Nat) : Nat → Bytes → Bytes
  | 0, _ => []
  | _ + 1, [] => []
  | fuel + 1, bs =>
    lineOf ((bs.take size).reverse.dropWhile (· = Octet.space)).reverse ++
      unblocked size fuel (bs.drop size)

def regroups (j : BlockJob) : Bool :=
  !j.isDirect || ["block", "unblock", "lcase", "ucase", "swab"].any j.has

def converted (j : BlockJob) (bs : Bytes) : Bytes :=
  let each (f : Char → Char) (bs : Bytes) : Bytes :=
    bs.map fun b => if b < 128 then octet (f (Char.ofNat b.toNat)) else b
  let bs := if j.has "swab" then swapped bs else bs
  let bs := if j.has "lcase" then each Char.toLower bs else bs
  let bs := if j.has "ucase" then each Char.toUpper bs else bs
  if j.has "block" ∧ j.lineSize ≠ 0 then blocked j.lineSize bs
  else if j.has "unblock" ∧ j.lineSize ≠ 0 then unblocked j.lineSize bs.length bs
  else bs

def inUnits (base : Nat) (units : List String) (n : Nat) : String :=
  let power := ((List.range units.length).filter fun i => Nat.pow base (i + 1) ≤ n).length
  let unit := Nat.pow base power
  let tenths := (n * 20 + unit) / (2 * unit)
  (if tenths < 100 then toString (tenths / 10) ++ "." ++ toString (tenths % 10)
    else toString ((n * 2 + unit) / (2 * unit))) ++ " " ++ units.getD (power - 1) ""

def sizeText (n : Nat) : String :=
  let decimalUnits := ["kB", "MB", "GB", "TB", "PB", "EB"]
  let binaryUnits := ["KiB", "MiB", "GiB", "TiB", "PiB", "EiB"]
  if n = 1 then "1 byte"
  else if n < 1000 then toString n ++ " bytes"
  else if n < 1024 then toString n ++ " bytes (" ++ inUnits 1000 decimalUnits n ++ ")"
  else
    toString n ++ " bytes (" ++ inUnits 1000 decimalUnits n ++ ", " ++
      inUnits 1024 binaryUnits n ++ ")"

def report (j : BlockJob) (read written : BlockCounts) : Act Unit := do
  let records (c : BlockCounts) (word : String) : String :=
    toString c.whole ++ "+" ++ toString c.parts ++ " records " ++ word ++ "\n"
  if j.status ≠ "none" then
    writeError (ofText (records read "in" ++ records written "out"))
    if j.status ≠ "noxfer" then
      writeError (ofText (sizeText written.octets ++ " copied, 0 s, Infinity B/s\n"))

def readBlock (j : BlockJob) (size : Nat) : Nat → Act (Except SystemError Bytes)
  | 0 => return .ok []
  | fuel + 1 => do
    match ← readSome 0 size with
    | .error e => return .error e
    | .ok bs =>
      if j.isFull ∧ bs ≠ [] ∧ bs.length < size then
        match ← readBlock j (size - bs.length) fuel with
        | .ok more => return .ok (bs ++ more)
        | .error e => return .error e
      else return .ok bs

def left? (j : BlockJob) (read : BlockCounts) : Option Nat :=
  j.count.map fun n =>
    if j.countsOctets then n - read.octets else (n - (read.whole + read.parts)) * j.inputSize

def counted (c : BlockCounts) (size n : Nat) : BlockCounts :=
  if n = size then { c with whole := c.whole + 1, octets := c.octets + n }
  else { c with parts := c.parts + 1, octets := c.octets + n }

/-- How a copy goes on: what was read and written, what waits to be written, and whether writing
has failed. -/
structure Copied where
  read : BlockCounts
  written : BlockCounts
  waiting : Bytes
  hasFailed : Bool

def writeBlocks (size : Nat) (emit : Bytes → Act Bool) : Nat → Copied → Act Copied
  | 0, c => return c
  | fuel + 1, c => do
    if c.waiting.length < size then return c
    else if ← emit (c.waiting.take size) then
      writeBlocks size emit fuel
        { c with written := counted c.written size size, waiting := c.waiting.drop size }
    else return { c with hasFailed := true }

def sourceName (j : BlockJob) (shown : Bytes → Bytes) : Bytes :=
  match j.source with
  | some file => shown file
  | none => between (ofText "standard input")

/-- Copies block by block. What is turned into lines waits up to the end. The fuel bounds the number
of blocks. -/
def copy (j : BlockJob) (emit : Bytes → Act Bool) : Nat → Copied → Act Copied
  | 0, c => return c
  | fuel + 1, c => do
    let size := match j.left? c.read with
      | some n => min n j.inputSize
      | none => j.inputSize
    if size = 0 ∨ c.hasFailed then return c
    else
      match ← j.readBlock size fuel with
      | .error e =>
        fail 1 (ofText "error reading " ++ j.sourceName between ++ ofText (": " ++ e.description))
        return c
      | .ok [] => return c
      | .ok bs =>
        let c := { c with read := counted c.read j.inputSize bs.length }
        let turnsLines := j.has "block" || j.has "unblock"
        let filler := if turnsLines then Octet.space else 0
        let bs :=
          if j.has "sync" then bs ++ List.replicate (j.inputSize - bs.length) filler else bs
        if turnsLines then copy j emit fuel { c with waiting := c.waiting ++ bs }
        else if j.regroups then
          let all := c.waiting ++ j.converted bs
          let c ← writeBlocks j.outputSize emit (all.length + 1) { c with waiting := all }
          copy j emit fuel c
        else if ← emit bs then
          copy j emit fuel { c with written := counted c.written j.outputSize bs.length }
        else return { c with hasFailed := true }

def writeRest (j : BlockJob) (emit : Bytes → Act Bool) (c : Copied) : Act Copied := do
  let turnsLines := j.has "block" || j.has "unblock"
  let waiting := if turnsLines then j.converted c.waiting else c.waiting
  let c ← writeBlocks j.outputSize emit (waiting.length + 1) { c with waiting }
  if c.waiting = [] ∨ c.hasFailed then return c
  else if ← emit c.waiting then
    return { c with written := counted c.written j.outputSize c.waiting.length }
  else return { c with hasFailed := true }

def refuse {α : Type} (file : Bytes) (e : SystemError) : Act α :=
  die 1 (ofText "failed to open " ++ between file ++ ofText (": " ++ e.description))

def openInput (j : BlockJob) : Act Unit := do
  match j.source with
  | none => pure ()
  | some file =>
    match ← Process.openInput 0 file with
    | .ok () => pure ()
    | .error e => refuse file e

def skipInput (j : BlockJob) : Act Unit := do
  if j.skip ≠ 0 then
    let size := if j.skipsOctets then j.skip else j.skip * j.inputSize
    match ← takeCount 0 size with
    | .ok bs =>
      if bs.length < size ∧ j.status ≠ "none" then
        complain (j.sourceName shownName ++ ofText ": cannot skip to specified offset")
    | .error _ => pure ()

def openOutput (j : BlockJob) (file : Bytes) : Act Stream := do
  let start := if j.seeksOctets then j.seek else j.seek * j.outputSize
  let keeps := j.has "notrunc" || start ≠ 0
  match ← node file with
  | .ok (.file ..) => if j.has "excl" then refuse file .fileExists
  | .ok _ => pure ()
  | .error e => if j.has "nocreat" then refuse file e
  match ← openPath (.write (!keeps) (j.has "append")) file with
  | .error e => refuse file e
  | .ok s =>
    hold s
    if start ≠ 0 then Process.seek s start !(j.has "notrunc")
    return s

def run (j : BlockJob) : Act Unit := do
  if j.has "lcase" ∧ j.has "ucase" then die 1 (ofText "cannot combine lcase and ucase")
  j.openInput
  let output ← match j.target with
    | some file => do pure (some (file, ← j.openOutput file))
    | none => pure none
  let emit (bs : Bytes) : Act Bool := do
    match output with
    | none =>
      write bs
      return true
    | some (file, s) =>
      match ← writeStream s bs with
      | .ok () => return true
      | .error e =>
        fail 1 (ofText "writing to " ++ between file ++ ofText (": " ++ e.description))
        return false
  j.skipInput
  let zero : BlockCounts := ⟨0, 0, 0⟩
  let c ← j.copy emit (Nat.pow 2 22) ⟨zero, zero, [], false⟩
  let c ← if c.hasFailed then pure c else j.writeRest emit c
  j.report c.read c.written

end BlockJob

def dd : Command := fun args => do
  match readOptions [] true (args.length + 1) args with
  | .error text => misuse 1 text
  | .ok c =>
    match c.operands.foldlM BlockJob.take BlockJob.initial with
    | .error (true, text) => misuse 1 text
    | .error (false, text) => fail 1 text
    | .ok j => j.run

end LspRelay.Tool
