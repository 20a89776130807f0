import LspRelay.Host.Digest.Blake
import LspRelay.Host.Digest.Checksum
import LspRelay.Host.Digest.Md5
import LspRelay.Host.Digest.Sha1
import LspRelay.Host.Tool.Amounts

namespace LspRelay.Tool

open Process

structure DigestKind where
  tag : String
  size : Nat
  digest : Bytes → Bytes

namespace DigestKind

def md5 : DigestKind := ⟨"MD5", 16, Digest.md5⟩

def sha1 : DigestKind := ⟨"SHA1", 20, Digest.sha1⟩

def sha224 : DigestKind := ⟨"SHA224", 28, Digest.sha224⟩

def sha256 : DigestKind := ⟨"SHA256", 32, Digest.sha256⟩

def sha384 : DigestKind := ⟨"SHA384", 48, Digest.sha384⟩

def sha512 : DigestKind := ⟨"SHA512", 64, Digest.sha512⟩

/-- A digest that is shorter tells so in its name. -/
def blake2b (size : Nat) : DigestKind :=
  ⟨if size = 64 then "BLAKE2b" else "BLAKE2b-" ++ toString (8 * size), size, Digest.blake2b size⟩

end DigestKind

def listedName (name : Bytes) : Bytes × Bool :=
  let shown := name.flatMap fun b =>
    if b = Octet.backslash then [b, b]
    else if b = Octet.lineFeed then [Octet.backslash, octet 'n']
    else if b = 13 then [Octet.backslash, octet 'r']
    else [b]
  (shown, shown ≠ name)

/-- A name without the characters that hide others, unless they hide what needs no hiding. -/
def plainName? : Bytes → Option Bytes
  | [] => some []
  | Octet.backslash :: b :: bs =>
    if b = Octet.backslash then (plainName? bs).map (b :: ·)
    else if b = octet 'n' then (plainName? bs).map (Octet.lineFeed :: ·)
    else if b = octet 'r' then (plainName? bs).map (13 :: ·)
    else none
  | [Octet.backslash] => none
  | b :: bs => (plainName? bs).map (b :: ·)

structure ListStyle where
  isTagged : Bool
  isBinary : Bool
  endsWithZero : Bool

def listed (s : ListStyle) (k : DigestKind) (name text : Bytes) : Bytes :=
  let digest := Digest.hexadecimal (k.digest text)
  let (shown, isHidden) := if s.endsWithZero then (name, false) else listedName name
  let line : Bytes :=
    if s.isTagged then
      ofText (k.tag ++ " (") ++ shown ++ ofText ") = " ++ digest
    else digest ++ [Octet.space, if s.isBinary then octet '*' else Octet.space] ++ shown
  (if isHidden then [Octet.backslash] else []) ++ line ++
    [if s.endsWithZero then 0 else Octet.lineFeed]

structure DigestLine where
  kind : DigestKind
  digest : Bytes
  name : Bytes

def isHexadecimal (b : UInt8) : Bool :=
  let c := Char.ofNat b.toNat
  c.isDigit || ('a' ≤ c && c ≤ 'f') || ('A' ≤ c && c ≤ 'F')

/-- How a list is read: with which digests, by their names, and with which one in lines without a
name, where the number of octets may be open. -/
structure ListForm where
  tagged : List DigestKind
  plain : Option DigestKind
  isOpen : Bool

def readTagged? (f : ListForm) (isHidden : Bool) (bs : Bytes) : Option DigestLine :=
  f.tagged.findSome? fun k =>
    let tag := ofText k.tag
    if tag.isPrefixOf bs then
      let rest := bs.drop tag.length
      let rest := if rest.head? = some Octet.space then rest.tail else rest
      match rest with
      | b :: rest =>
        let digest := (rest.reverse.takeWhile isHexadecimal).reverse
        let name := rest.take (rest.length - digest.length)
        let trimmed := (name.reverse.dropWhile fun b => b = Octet.space || b = Octet.tab)
        match trimmed with
        | Octet.equals :: more =>
          match more.dropWhile fun b => b = Octet.space || b = Octet.tab with
          | c :: name =>
            let name := name.reverse
            let plain := if isHidden then plainName? name else some name
            if b = octet '(' ∧ c = octet ')' ∧ digest.length = 2 * k.size then
              plain.map fun name => ⟨k, digest, name⟩
            else none
          | [] => none
        | _ => none
      | [] => none
    else none

def readPlain? (f : ListForm) (isHidden : Bool) (bs : Bytes) : Option DigestLine :=
  f.plain.bind fun k =>
    let digest := bs.takeWhile isHexadecimal
    let k := if f.isOpen then DigestKind.blake2b (digest.length / 2) else k
    if digest.length ≠ 2 * k.size ∨ k.size = 0 ∨ (f.isOpen ∧ 64 < k.size) then none
    else
      match bs.drop digest.length with
      | blank :: rest =>
        if blank ≠ Octet.space ∧ blank ≠ Octet.tab then none
        else
          let name := match rest with
            | [_] => rest
            | b :: more => if b = Octet.space ∨ b = octet '*' then more else rest
            | [] => []
          if name = [] then none
          else
            (if isHidden then plainName? name else some name).map fun name => ⟨k, digest, name⟩
      | [] => none

def readDigestLine? (f : ListForm) (line : Bytes) : Option DigestLine :=
  let bs := line.dropWhile fun b => b = Octet.space || b = Octet.tab
  let isHidden := bs.head? = some Octet.backslash
  let bs := if isHidden then bs.tail else bs
  match readTagged? f isHidden bs with
  | some l => some l
  | none => readPlain? f isHidden bs

structure ListResult where
  good : Nat
  matched : Nat
  unread : Nat
  different : Nat
  improper : Nat

structure CheckStyle where
  isQuiet : Bool
  isSilent : Bool
  warns : Bool
  isStrict : Bool
  ignoresMissing : Bool

def checkLine (s : CheckStyle) (f : ListForm) (tag : String) (list : Bytes) (number : Nat)
    (r : ListResult) (line : Bytes) : Act ListResult := do
  match readDigestLine? f line with
  | none =>
    if s.warns then
      complain (list ++ ofText (": " ++ toString number ++ ": improperly formatted " ++ tag ++
        " checksum line"))
    return { r with improper := r.improper + 1 }
  | some l =>
    let (shown, isHidden) := listedName l.name
    let name := (if isHidden then [Octet.backslash] else []) ++ shown
    let r := { r with good := r.good + 1 }
    match ← readOperand l.name with
    | .error e =>
      if s.ignoresMissing ∧ e = .notFound then return r
      else
        failOn 1 l.name e
        if !s.isSilent then printLine (name ++ ofText ": FAILED open or read")
        return { r with unread := r.unread + 1 }
    | .ok bs =>
      let lower (bs : Bytes) : Bytes := bs.map fun b => octet (Char.ofNat b.toNat).toLower
      let isSame := lower l.digest = Digest.hexadecimal (l.kind.digest bs)
      if !s.isSilent ∧ !(isSame ∧ s.isQuiet) then
        printLine (name ++ ofText (if isSame then ": OK" else ": FAILED"))
      if isSame then return { r with matched := r.matched + 1 }
      else return { r with different := r.different + 1 }

def checkList (s : CheckStyle) (f : ListForm) (tag : String) (file : Bytes) : Act Unit := do
  let list := shownName (if file = [Octet.dash] then ofText "standard input" else file)
  match ← readOperand file with
  | .error e => failOn 1 file e
  | .ok bs =>
    let mut r : ListResult := ⟨0, 0, 0, 0, 0⟩
    for (line, i) in (plainLines bs).zipIdx do
      let line := if line.getLast? = some 13 then line.dropLast else line
      if line ≠ [] ∧ line.head? ≠ some (octet '#') then
        r ← checkLine s f tag list (i + 1) r line
    flush
    if r.good = 0 then fail 1 (list ++ ofText ": no properly formatted checksum lines found")
    else
      let warn (n : Nat) (one several : String) : Act Unit :=
        if n = 0 then pure ()
        else
          complain (ofText ("WARNING: " ++ toString n ++ " " ++ (if n = 1 then one else several)))
      if !s.isSilent then
        warn r.improper "line is improperly formatted" "lines are improperly formatted"
        warn r.unread "listed file could not be read" "listed files could not be read"
        warn r.different "computed checksum did NOT match" "computed checksums did NOT match"
        if s.ignoresMissing ∧ r.matched = 0 then
          complain (list ++ ofText ": no file was verified")
      if r.different ≠ 0 ∨ r.unread ≠ 0 ∨ (s.isStrict ∧ r.improper ≠ 0) ∨
          (s.ignoresMissing ∧ r.matched = 0) then
        setStatus 1

def digestOptions : List Choice :=
  [option 'b' "binary" .nothing, option 'c' "check" .nothing, option 't' "text" .nothing,
   option 'z' "zero" .nothing, option 'w' "warn" .nothing, named 'I' "ignore-missing" .nothing,
   named 'q' "quiet" .nothing, named 'S' "status" .nothing, named 'r' "strict" .nothing,
   named 'T' "tag" .nothing]

/-- What is wrong with options that do not go together. -/
def conflict? (c : Chosen) : Option String :=
  let checks := c.has 'c'
  let meaningless (s : String) : String := s ++ " meaningless when verifying checksums"
  let onlyThen (key : Char) (name : String) : Option String :=
    if c.has key ∧ !checks then
      some ("the --" ++ name ++ " option is meaningful only when verifying checksums")
    else none
  if checks ∧ c.has 'z' then
    some "the --zero option is not supported when verifying checksums"
  else if checks ∧ c.has 'T' then some (meaningless "the --tag option is")
  else if checks ∧ (c.has 'b' || c.has 't') then
    some (meaningless "the --binary and --text options are")
  else
    [('I', "ignore-missing"), ('S', "status"), ('w', "warn"), ('q', "quiet"), ('r', "strict")]
      |>.findSome? fun (key, name) => onlyThen key name

def listOrCheck (c : Chosen) (k : DigestKind) (f : ListForm) (s : ListStyle) : Act Unit := do
  for file in c.operandsOrInput do
    if c.has 'c' then
      checkList ⟨c.has 'q', c.has 'S', c.has 'w', c.has 'r', c.has 'I'⟩ f k.tag file
    else
      match ← readOperand file with
      | .ok bs => print (listed s k file bs)
      | .error e => failOn 1 file e

def digestSum (k : DigestKind) : Command := fun args =>
  withOptions digestOptions 1 args fun c => do
    let isText := c.last? ['b', 't'] = some 't'
    if c.has 'T' ∧ isText then misuse 1 (ofText "--tag does not support --text mode")
    else
      match conflict? c with
      | some text => misuse 1 (ofText text)
      | none =>
        listOrCheck c k ⟨[k], some k, false⟩
          ⟨c.has 'T', c.last? ['b', 't'] = some 'b', c.has 'z'⟩

def digestSize (c : Chosen) : Act Nat := do
  match c.value? 'l' with
  | none => return 64
  | some value =>
    let invalid := ofText "invalid length: " ++ quoted value
    match number? value with
    | none => die 1 invalid
    | some n =>
      if 512 < n then
        complain invalid
        die 1 (ofText "maximum digest length for 'BLAKE2b' is 512 bits")
      else if n % 8 ≠ 0 then
        complain invalid
        die 1 (ofText "length is not a multiple of 8")
      else return if n = 0 then 64 else n / 8

def blakeSizes : List DigestKind := (List.range 65).map DigestKind.blake2b

def blakeSum : Command := fun args =>
  withOptions (option 'l' "length" .value :: digestOptions) 1 args fun c => do
    let size ← digestSize c
    let isText := c.last? ['b', 't'] = some 't'
    if c.has 'T' ∧ isText then misuse 1 (ofText "--tag does not support --text mode")
    else
      match conflict? c with
      | some text => misuse 1 (ofText text)
      | none =>
        let k := DigestKind.blake2b size
        listOrCheck c k ⟨blakeSizes.reverse, some k, true⟩
          ⟨c.has 'T', c.last? ['b', 't'] = some 'b', c.has 'z'⟩

def cyclicLine (bs : Bytes) : Bytes := joined [decimal (Digest.cyclic bs), decimal bs.length]

def turningLine (bs : Bytes) : Bytes :=
  let n := decimal (Digest.turning bs)
  joined [List.replicate (5 - n.length) Octet.zero ++ n,
    let blocks := decimal ((bs.length + 1023) / 1024)
    List.replicate (5 - blocks.length) Octet.space ++ blocks]

def foldedLine (bs : Bytes) : Bytes :=
  joined [decimal (Digest.folded bs), decimal ((bs.length + 511) / 512)]

def printSums (c : Chosen) (line : Bytes → Bytes) : Act Unit := do
  for file in c.operandsOrInput do
    match ← readOperand file with
    | .ok bs =>
      print (line bs ++ (if c.operands = [] then [] else Octet.space :: file) ++
        [if c.has 'z' then 0 else Octet.lineFeed])
    | .error e => failOn 1 file e

def sum : Command := fun args =>
  withOptions (option 's' "sysv" .nothing :: letters "r" .nothing) 1 args fun c =>
    printSums c (if c.last? ['r', 's'] = some 's' then foldedLine else turningLine)

inductive Algorithm where
  | sum (line : Bytes → Bytes)
  | digest (k : DigestKind)
  | blake

def algorithms : List (String × Algorithm) :=
  [("bsd", .sum turningLine), ("sysv", .sum foldedLine), ("crc", .sum cyclicLine),
   ("md5", .digest .md5), ("sha1", .digest .sha1), ("sha224", .digest .sha224),
   ("sha256", .digest .sha256), ("sha384", .digest .sha384), ("sha512", .digest .sha512),
   ("blake2b", .blake), ("sm3", .sum fun _ => [])]

def cksum : Command := fun args =>
  let known := [option 'a' "algorithm" .value, option 'l' "length" .value,
    named 'u' "untagged" .nothing, named 'D' "debug" .nothing] ++ digestOptions
  withOptions known 1 args fun c => do
    let name := (c.value? 'a').getD (ofText "crc")
    match algorithms.find? fun a => ofText a.1 = name with
    | none =>
      misuse 1 (ofText "invalid argument " ++ quoted name ++
        ofText " for '--algorithm'\nValid arguments are:" ++
        (algorithms.flatMap fun a => ofText ("\n  - '" ++ a.1 ++ "'")))
    | some (_, algorithm) =>
      let size ← digestSize c
      let isBlake := match algorithm with
        | .blake => true
        | _ => false
      if (c.value? 'l').isSome ∧ !isBlake then
        die 1 (ofText "--length is only supported with --algorithm=blake2b")
      match conflict? c with
      | some text => misuse 1 (ofText text)
      | none =>
        let isTagged := c.last? ['u', 'T'] ≠ some 'u'
        let style : ListStyle := ⟨isTagged, c.has 'b', c.has 'z'⟩
        let simple : List DigestKind := [.md5, .sha1, .sha224, .sha256, .sha384, .sha512]
        let tagged := blakeSizes.reverse ++ simple
        match algorithm with
        | .sum line =>
          if c.has 'c' then listOrCheck c ⟨"CRC", 0, fun _ => []⟩ ⟨tagged, none, false⟩ style
          else printSums c line
        | .digest k => listOrCheck c k ⟨tagged, some k, false⟩ style
        | .blake =>
          let k := DigestKind.blake2b size
          listOrCheck c k ⟨tagged, some k, true⟩ style

end LspRelay.Tool
