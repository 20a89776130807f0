import LspRelay.Host.Shell.Glob
import LspRelay.Host.Tool.Show

namespace LspRelay.Tool

open Process

inductive SetPart where
  | octets (bs : Bytes)
  | classOf (name : String) (bs : Bytes)
  | fill (b : UInt8) (count : Option Nat)

def octetRange (low high : UInt8) : Bytes :=
  (List.range (high.toNat + 1 - low.toNat)).map fun k => UInt8.ofNat (low.toNat + k)

def unescapedOctets : Nat → Bytes → List (UInt8 × Bool)
  | 0, _ => []
  | _ + 1, [] => []
  | fuel + 1, b :: bs =>
    if b ≠ Octet.backslash then (b, false) :: unescapedOctets fuel bs
    else
      let isOctal (b : UInt8) : Bool := octet '0' ≤ b && b ≤ octet '7'
      let digits := (bs.take 3).takeWhile isOctal
      let value := digits.foldl (fun n d => n * 8 + (d.toNat - 48)) 0
      let digits := if 255 < value then digits.take 2 else digits
      let value := digits.foldl (fun n d => n * 8 + (d.toNat - 48)) 0
      match bs with
      | [] => [(b, false)]
      | c :: rest =>
        if digits ≠ [] then
          (UInt8.ofNat value, true) :: unescapedOctets fuel (bs.drop digits.length)
        else
          let named := [('a', 7), ('b', 8), ('f', 12), ('n', 10), ('r', 13), ('t', 9), ('v', 11)]
          let e := ((named.find? fun p => octet p.1 = c).map Prod.snd).getD c
          (e, true) :: unescapedOctets fuel rest

def readNamed (bs : List (UInt8 × Bool)) : Option (Except Bytes SetPart × List (UInt8 × Bool)) :=
  let closing (mark : Char) (rest : List (UInt8 × Bool)) : Option Nat :=
    (List.range rest.length).find? fun n =>
      (rest[n]? = some (octet mark, false)) && rest[n + 1]? = some (Octet.closeBracket, false)
  match bs with
  | (Octet.openBracket, false) :: (mark, false) :: rest =>
    if mark = octet ':' then
      (closing ':' rest).map fun n =>
        let name := String.ofList (toChars ((rest.take n).map Prod.fst))
        let found := Shell.octetClasses.lookup name
        (match found with
          | some f =>
            .ok (.classOf name (((List.range 256).map UInt8.ofNat).filter fun b => f b && b < 128))
          | none => .error (ofText "invalid character class " ++ quoted (ofText name)),
         rest.drop (n + 2))
    else if mark = Octet.equals then
      (closing '=' rest).bind fun n =>
        match rest.take n with
        | [(b, _)] => some (.ok (.octets [b]), rest.drop (n + 2))
        | _ => none
    else none
  | _ => none

def readRepeated (bs : List (UInt8 × Bool)) : Option (SetPart × List (UInt8 × Bool)) :=
  match bs with
  | (Octet.openBracket, false) :: (b, _) :: (star, false) :: rest =>
    let isDigit (x : UInt8 × Bool) : Bool := octet '0' ≤ x.1 && x.1 ≤ octet '9'
    let digits := (rest.takeWhile isDigit).map Prod.fst
    let base := if digits.head? = some Octet.zero then 8 else 10
    let n := digits.foldl (fun n d => n * base + (d.toNat - 48)) 0
    match rest.drop digits.length with
    | (Octet.closeBracket, false) :: after =>
      if star = octet '*' then some (.fill b (if n = 0 then none else some n), after) else none
    | _ => none
  | _ => none

def readParts : Nat → List (UInt8 × Bool) → Except Bytes (List SetPart)
  | 0, _ => .ok []
  | _ + 1, [] => .ok []
  | fuel + 1, (b, escaped) :: bs =>
    match readNamed ((b, escaped) :: bs) with
    | some (.error e, _) => .error e
    | some (.ok part, rest) => do return part :: (← readParts fuel rest)
    | none =>
      match readRepeated ((b, escaped) :: bs) with
      | some (part, rest) => do return part :: (← readParts fuel rest)
      | none =>
        match bs with
        | (Octet.dash, false) :: (high, _) :: rest =>
          if high < b then
            .error (ofText "range-endpoints of " ++ quoted [b, Octet.dash, high] ++
              ofText " are in reverse collating sequence order")
          else do return .octets (octetRange b high) :: (← readParts fuel rest)
        | _ => do return .octets [b] :: (← readParts fuel bs)

def readSet (bs : Bytes) : Except Bytes (List SetPart) :=
  let octets := unescapedOctets (bs.length + 1) bs
  readParts (octets.length + 1) octets

def octetsOf (size : Nat) (parts : List SetPart) : Bytes :=
  let fixed (part : SetPart) : Bytes :=
    match part with
    | .octets bs => bs
    | .classOf _ bs => bs
    | .fill b count => List.replicate (count.getD 0) b
  let known := (parts.flatMap fixed).length
  parts.flatMap fun part =>
    match part with
    | .fill b none => List.replicate (size - known) b
    | part => fixed part

def hasClass (parts : List SetPart) : Bool :=
  parts.any fun part =>
    match part with
    | .classOf name _ => name ≠ "lower" && name ≠ "upper"
    | _ => false

def squeezed (set : Array Bool) (before : Option UInt8) (bs : Bytes) : Bytes :=
  let (out, _) := bs.foldl
    (fun (out, before) b =>
      if before = some b ∧ set.getD b.toNat false then (out, before) else (b :: out, some b))
    (([] : Bytes), before)
  out.reverse

def members (bs : Bytes) : Array Bool :=
  bs.foldl (fun table b => table.setIfInBounds b.toNat true) (Array.replicate 256 false)

/-- A table in which octets of one set stand for those of another; the last one stands for all that
are missing. -/
def exchangeTable (source target : Bytes) : Array UInt8 :=
  let start := ((List.range 256).map UInt8.ofNat).toArray
  (source.zipIdx).foldl
    (fun table (b, i) => table.setIfInBounds b.toNat (target.getD i (target.getLastD b))) start

def tr : Command := fun args =>
  let known := [option 'c' "complement" .nothing, option 'd' "delete" .nothing,
    option 's' "squeeze-repeats" .nothing, option 't' "truncate-set1" .nothing] ++
    letters "C" .nothing
  match readOptions known false (args.length + 1) args with
  | .error text => misuse 1 text
  | .ok c => do
    let hint : Act Unit := do
      let label := (← get).label
      writeError (ofText "Try " ++ between (label ++ ofText " --help") ++
        ofText " for more information.\n")
      setStatus 1
    let deletes := c.has 'd'
    let squeezes := c.has 's'
    let complement := c.has 'c' || c.has 'C'
    let exchanges := c.operands.length = 2 && !deletes
    let least := if deletes = squeezes then 2 else 1
    let most := if deletes && !squeezes then 1 else 2
    match c.operands with
    | [] => missingOperand 1
    | first :: others =>
      if c.operands.length < least then
        complain (ofText "missing operand after " ++ quoted first)
        let why := if squeezes then
            "Two strings must be given when both deleting and squeezing repeats.\n"
          else "Two strings must be given when translating.\n"
        writeError (ofText why)
        hint
      else if most < c.operands.length then
        complain (ofText "extra operand " ++ quoted ((others[most - 1]?).getD []))
        if c.operands.length = 2 then
          writeError (ofText
            "Only one string may be given when deleting without squeezing repeats.\n")
        hint
      else
        match readSet first, readSet (others.headD []) with
        | .error e, _ => die 1 e
        | _, .error e => die 1 e
        | .ok source, .ok target => do
          let plain := octetsOf 0 source
          let all := (List.range 256).map UInt8.ofNat
          let source' := if complement then all.filter (!plain.contains ·) else plain
          if exchanges ∧ others.headD [] = [] ∧ !c.has 't' then
            die 1 (ofText "when not truncating set1, string2 must be non-empty")
          if exchanges ∧ hasClass target then
            die 1 (ofText ("when translating, the only character classes that may appear in\n" ++
              "string2 are 'upper' and 'lower'"))
          let target' := octetsOf source'.length target
          let source' := if c.has 't' then source'.take target'.length else source'
          let table := exchangeTable source' target'
          let gone := members source'
          let run := members (if others = [] then source' else target')
          let change (last : Option UInt8) (bs : Bytes) : Bytes :=
            let bs :=
              if deletes then bs.filter fun b => !gone.getD b.toNat false
              else if exchanges then bs.map fun b => table.getD b.toNat b
              else bs
            if squeezes then squeezed run last bs else bs
          match (← get).feedOf 0 with
          | .ok (number, _) => changeAll number change waitLimit none
          | .error e => fail 1 (ofText ("read error: " ++ e.description))
where
  /-- Prints what is left of a feed as it is changed, given the last octet that was printed. -/
  changeAll (number : Nat) (change : Option UInt8 → Bytes → Bytes) : Nat → Option UInt8 → Act Unit
    | 0, _ => return ()
    | fuel + 1, last => do
      let bs ← readFeed number readLimit
      if bs ≠ [] then
        let text := change last bs
        print text
        changeAll number change fuel (text.getLast?.or last)

end LspRelay.Tool
