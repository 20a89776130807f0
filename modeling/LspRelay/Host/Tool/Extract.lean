import LspRelay.Host.Tool.Amounts
import LspRelay.Host.Tool.Follow
import LspRelay.Host.Tool.Show

namespace LspRelay.Tool

open Process

/-- How much of a text is meant: octets or lines, as many, all but as many, or all from one on. -/
inductive Extent where
  | count
  | allBut
  | onward
  deriving Repr, DecidableEq

structure Extract where
  octets : Bool
  extent : Extent
  amount : Nat
  mark : UInt8

def Extract.front (e : Extract) (bs : Bytes) : Bytes :=
  let pieces : Unit → List Bytes := fun _ => piecesOf e.mark bs
  match e.octets, e.extent with
  | true, .allBut => bs.take (bs.length - e.amount)
  | true, _ => bs.take e.amount
  | false, .allBut => ((pieces ()).take ((pieces ()).length - e.amount)).flatten
  | false, _ => ((pieces ()).take e.amount).flatten

def Extract.back (e : Extract) (bs : Bytes) : Bytes :=
  let pieces : Unit → List Bytes := fun _ => piecesOf e.mark bs
  match e.octets, e.extent with
  | true, .onward => bs.drop (e.amount - 1)
  | true, _ => bs.drop (bs.length - e.amount)
  | false, .onward => ((pieces ()).drop (e.amount - 1)).flatten
  | false, _ => ((pieces ()).drop ((pieces ()).length - e.amount)).flatten

def titleOf (file : Bytes) : Bytes :=
  if file = [Octet.dash] then ofText "standard input" else file

/-- A header between files, if there is to be one. -/
def printTitle (c : Chosen) (isFirst : Bool) (file : Bytes) : Act Unit := do
  let isShown := match c.last? ['q', 'v'] with
    | some 'q' => false
    | some _ => true
    | none => 1 < c.operands.length
  if isShown then
    print ((if isFirst then [] else [Octet.lineFeed]) ++ ofText "==> " ++ titleOf file ++
      ofText " <==\n")

def plainAmount (sign : UInt8) (args : List Bytes) : List Bytes :=
  match args with
  | (b :: bs) :: rest =>
    let isDigit (b : UInt8) : Bool := octet '0' ≤ b && b ≤ octet '9'
    let digits := bs.takeWhile isDigit
    let letter : Option Bytes := match bs.dropWhile isDigit with
      | [] => some (ofText "-n")
      | [c] => if c = octet 'c' then some (ofText "-c") else if c = octet 'l' then
          some (ofText "-n") else none
      | _ => none
    match letter with
    | some option =>
      if b = Octet.dash ∧ digits ≠ [] then [option, digits] ++ rest
      else if b = sign ∧ digits ≠ [] then [option, sign :: digits] ++ rest
      else args
    | none => args
  | args => args

def readExtract (c : Chosen) (signed : UInt8) (extent : Extent) : Act Extract := do
  let octets := c.last? ['c', 'n'] = some 'c'
  let mark : UInt8 := if c.has 'z' then 0 else Octet.lineFeed
  match c.value? (if octets then 'c' else 'n') with
  | none => return ⟨false, .count, 10, mark⟩
  | some text =>
    let isSigned := text.head? = some signed
    let plain := match text with
      | Octet.dash :: rest => rest
      | Octet.plus :: rest => if signed = Octet.plus then rest else text
      | text => text
    match amount? "bkKmMGTPEZYRQ" plain with
    | some n => return ⟨octets, if isSigned then extent else .count, n, mark⟩
    | none =>
      let what := if octets then "invalid number of bytes: " else "invalid number of lines: "
      die 1 (ofText what ++ quoted plain)

def blockSize : Nat := 8192

/-- Prints so many octets of a feed, as they come. The fuel bounds the readings. -/
def printOctets (number : Nat) : Nat → Nat → Act Unit
  | 0, _ => return ()
  | fuel + 1, left => do
    if left = 0 then return ()
    let bs ← readFeed number (min left readLimit)
    if bs = [] then return ()
    print bs
    printOctets number fuel (left - bs.length)

/-- Prints so many lines of a feed, as they come. The fuel bounds the readings. -/
def printLines (number : Nat) (mark : UInt8) : Nat → Nat → Act Unit
  | 0, _ => return ()
  | fuel + 1, left => do
    if left = 0 then return ()
    let bs ← readFeed number blockSize
    if bs = [] then return ()
    match linesLength? mark 0 left bs with
    | some n =>
      print (bs.take n)
      giveBack number (bs.length - n)
    | none =>
      print bs
      printLines number mark fuel (left - bs.count mark)

def Extract.printFront (e : Extract) (number : Nat) : Act Unit := do
  match e.octets, e.extent with
  | true, .count => printOctets number waitLimit e.amount
  | false, .count => printLines number e.mark waitLimit e.amount
  | _, _ => print (e.front (← restOf number waitLimit []))

def head : Command := fun args =>
  let known := [option 'c' "bytes" .value, option 'n' "lines" .value,
    option 'q' "quiet" .nothing, named 'q' "silent" .nothing, option 'v' "verbose" .nothing,
    option 'z' "zero-terminated" .nothing]
  withOptions known 1 (plainAmount Octet.dash args) fun c => do
    let e ← readExtract c Octet.dash .allBut
    let mut isFirst := true
    for file in c.operandsOrInput do
      if file = [Octet.dash] then
        match (← get).feedOf 0 with
        | .error error =>
          printTitle c isFirst file
          fail 1 (ofText ("error reading 'standard input': " ++ error.description))
          if error = .badDescriptor then fail 1 (ofText "-: Bad file descriptor")
        | .ok (number, _) =>
          printTitle c isFirst file
          e.printFront number
        isFirst := false
      else
        match ← openSource file with
        | .error error =>
          fail 1 (ofText "cannot open " ++ shellQuoted file ++
            ofText (" for reading: " ++ error.description))
        | .ok s =>
          printTitle c isFirst file
          isFirst := false
          match s.source? with
          | some number => e.printFront number
          | none =>
            fail 1 (ofText "error reading " ++ shellQuoted file ++ ofText ": Is a directory")
          letGo s

/-- Prints the last part of what an operand names, and gives that to be followed: a file, or
something else from which nothing comes. -/
def Extract.printBack (e : Extract) (file : Bytes) (s : Stream) (number : Nat) (isWatched : Bool) :
    Act (Option Followed × Bool) := do
  print (e.back (← restOf number waitLimit []))
  match s.number?.bind (← get).feed? with
  | some (.file o) => return (some ⟨file, some o.number, o.offset, some o.version, isWatched⟩, false)
  | some (.pipe _) => return (none, false)
  | _ => return (none, true)

def tail : Command := fun args =>
  let known := [option 'c' "bytes" .value, option 'f' "follow" .optional,
    option 'n' "lines" .value, option 'q' "quiet" .nothing, named 'q' "silent" .nothing,
    option 's' "sleep-interval" .value, named 'p' "pid" .value, named 'r' "retry" .nothing,
    option 'v' "verbose" .nothing, option 'z' "zero-terminated" .nothing] ++ letters "F" .nothing
  withOptions known 1 (plainAmount Octet.plus args) fun c => do
    let e ← readExtract c Octet.plus .onward
    let follows := c.has 'f' || c.has 'F'
    let isByName := c.has 'F' || c.value? 'f' = some (ofText "name")
    let mut isFirst := true
    let mut isClosed := false
    let mut followed : List Followed := []
    let mut hasOther := false
    let mut isMissed := false
    for file in c.operandsOrInput do
      if file = [Octet.dash] then
        printTitle c isFirst file
        isFirst := false
        match (← get).feedOf 0 with
        | .ok (number, _) =>
          let (found, isOther) ← e.printBack (ofText "standard input") (.source number) number false
          followed := followed ++ found.toList
          hasOther := hasOther || isOther
        | .error error =>
          if error = .badDescriptor then
            fail 1 (ofText "cannot fstat 'standard input': Bad file descriptor")
            isClosed := true
          else fail 1 (ofText ("error reading 'standard input': " ++ error.description))
      else
        match ← openSource file with
        | .error error =>
          fail 1 (ofText "cannot open " ++ shellQuoted file ++
            ofText (" for reading: " ++ error.description))
          isMissed := true
          if c.has 'F' || c.has 'r' then followed := followed ++ [⟨file, none, 0, none, false⟩]
        | .ok s =>
          printTitle c isFirst file
          isFirst := false
          match s.source? with
          | some number =>
            let (found, isOther) ← e.printBack file s number true
            followed := followed ++ found.toList
            hasOther := hasOther || isOther
          | none =>
            fail 1 (ofText "error reading " ++ shellQuoted file ++ ofText ": Is a directory")
            if follows then
              fail 1 (file ++ ofText
                ": cannot follow end of this type of file; giving up on this name")
            isMissed := true
    if isClosed then fail 1 (ofText "-: Bad file descriptor")
    if follows then
      let g : Following :=
        { isByName := isByName || c.has 'r'
          isTitled := c.last? ['q', 'v'] ≠ some 'q' &&
            (1 < c.operands.length || c.last? ['q', 'v'] = some 'v')
          interval := ((c.value? 's').bind milliseconds?).getD 1000
          process := (c.value? 'p').bind number?
          isPatient := c.has 'F' || c.has 'r'
          hasOther }
      if !followed.isEmpty || hasOther || isMissed then
        g.follow waitLimit (followed.getLast?.map Followed.name) followed

end LspRelay.Tool
