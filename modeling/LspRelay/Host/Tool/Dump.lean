import LspRelay.Host.Text.Layout
import LspRelay.Host.Tool.Amounts
import LspRelay.Host.Tool.Show

namespace LspRelay.Tool

open Process

/-- How a group of octets is read: as a name, as a character, as a whole number in the form of a
letter, or as a number with a point. -/
inductive Reading where
  | name
  | character
  | whole (letter : Char)
  | floating
  deriving Repr, DecidableEq

structure Row where
  reading : Reading
  size : Nat
  hasText : Bool

namespace Row

def controls : List String :=
  ["nul", "soh", "stx", "etx", "eot", "enq", "ack", "bel", "bs", "ht", "nl", "vt", "ff", "cr", "so",
   "si", "dle", "dc1", "dc2", "dc3", "dc4", "nak", "syn", "etb", "can", "em", "sub", "esc", "fs",
   "gs", "rs", "us"]

def name (b : UInt8) : Bytes :=
  let n := b.toNat % 128
  if n = 32 then ofText "sp"
  else if n = 127 then ofText "del"
  else
    match controls[n]? with
    | some s => ofText s
    | none => [UInt8.ofNat n]

def character (b : UInt8) : Bytes :=
  if b = 0 then ofText "\\0"
  else if isPrinted b then [b]
  else
    let escaped := escapedOctet b
    if escaped.length = 2 then escaped else escaped.tail

def width (r : Row) : Nat :=
  match r.reading with
  | .name => 3
  | .character => 3
  | .floating => if r.size = 4 then 15 else 24
  | .whole letter =>
    let widths : List Nat := match letter with
      | 'o' => [3, 6, 11, 22]
      | 'd' => [4, 6, 11, 20]
      | 'u' => [3, 5, 10, 20]
      | _ => [2, 4, 8, 16]
    ((([1, 2, 4, 8] : List Nat).zip widths).lookup r.size).getD 0

/-- A number with as few digits as tell it from its neighbours, from a count of digits on. The fuel
bounds the count. -/
def shortest (isSame : Float → Bool) (f : Float) : Nat → Nat → Bytes
  | 0, digits => (Layout.mk [] 0 (some digits)).floating (octet 'g') f
  | fuel + 1, digits =>
    let text := (Layout.mk [] 0 (some digits)).floating (octet 'g') f
    match Decimal.Floating.read? (toChars text) with
    | some (g, _) => if isSame g then text else shortest isSame f fuel (digits + 1)
    | none => text

def shown (r : Row) (group : Bytes) : Bytes :=
  let value : Nat := group.foldr (fun b n => n * 256 + b.toNat) 0
  match r.reading with
  | .name => name (group.headD 0)
  | .character => character (group.headD 0)
  | .whole 'd' =>
    let top := Nat.pow 256 r.size
    signedDecimal (if 2 * value < top then value else (value : Int) - top)
  | .whole 'u' => decimal value
  | .whole letter => (Layout.mk [] 0 (some r.width)).natural (octet letter) value
  | .floating =>
    let sign : Bytes := if Nat.pow 256 r.size ≤ 2 * value then [Octet.dash] else []
    if r.size = 4 then
      let f := (Float32.ofBits (UInt32.ofNat value)).toFloat
      let isSmall := value / Nat.pow 2 23 % Nat.pow 2 8 = 0
      if f.isNaN then sign ++ ofText "nan" else
      shortest (fun g => g.toFloat32.toBits.toNat = value) f 8 (if isSmall then 1 else 6)
    else
      let f := Float.ofBits (UInt64.ofNat value)
      let isSmall := value / Nat.pow 2 52 % Nat.pow 2 11 = 0
      if f.isNaN then sign ++ ofText "nan" else
      shortest (fun g => g.toBits.toNat = value) f 16 (if isSmall then 1 else 15)

def groups (size : Nat) : Nat → Bytes → List Bytes
  | 0, _ => []
  | _ + 1, [] => []
  | fuel + 1, bs => bs.take size :: groups size fuel (bs.drop size)

def line (r : Row) (room lineWidth : Nat) (isBig : Bool) (bs : Bytes) : Bytes :=
  let fields := room / r.size
  let pad := lineWidth - r.width * fields
  let padding (i : Nat) : Nat := pad * (fields - i) / fields - pad * (fields - i - 1) / fields
  let pieces := groups r.size bs.length bs
  let texts := pieces.zipIdx.map fun (group, i) =>
    let group := group ++ List.replicate (r.size - group.length) 0
    padded (r.width + padding i) (r.shown (if isBig then group.reverse else group))
  let blank := fields - pieces.length
  let trailer : Bytes :=
    if r.hasText then
      List.replicate (blank * r.width + pad * blank / fields) Octet.space ++ ofText "  >" ++
        (bs.map fun b => if isPrinted b then b else Octet.point) ++ ofText "<"
    else []
  texts.flatten ++ trailer

end Row

inductive TypeError where
  | character (c : UInt8)
  | size (text : Bytes) (n : Nat) (isFloating : Bool)

def readRows : Nat → Bytes → Except TypeError (List Row)
  | 0, _ => .ok []
  | _ + 1, [] => .ok []
  | fuel + 1, b :: bs => do
    let c := Char.ofNat b.toNat
    let isDigit (b : UInt8) : Bool := octet '0' ≤ b && b ≤ octet '9'
    let (reading, size, rest) : Reading × Nat × Bytes ←
      if c = 'a' then pure (.name, 1, bs)
      else if c = 'c' then pure (.character, 1, bs)
      else if "doux".toList.contains c ∨ c = 'f' then
        let digits := bs.takeWhile isDigit
        let sizes : List (Char × Nat) :=
          if c = 'f' then [('F', 4), ('D', 8)] else [('C', 1), ('S', 2), ('I', 4), ('L', 8)]
        let known : List Nat := if c = 'f' then [4, 8] else [1, 2, 4, 8]
        let reading : Reading := if c = 'f' then .floating else .whole c
        match number? digits with
        | some n =>
          if known.contains n then pure (reading, n, bs.drop digits.length)
          else throw (.size (b :: digits) n (c = 'f'))
        | none =>
          match bs.head?.bind fun b => sizes.lookup (Char.ofNat b.toNat) with
          | some n => pure (reading, n, bs.tail)
          | none => pure (reading, if c = 'f' then 8 else 4, bs)
      else throw (.character b)
    let (hasText, rest) : Bool × Bytes := match rest with
      | b :: more => if b = octet 'z' then (true, more) else (false, rest)
      | [] => (false, [])
    return ⟨reading, size, hasText⟩ :: (← readRows fuel rest)

def basedAmount? (bs : Bytes) : Option Nat :=
  let value? (base : Nat) (cs : List Char) : Option Nat :=
    let isDigit (c : Char) : Bool := (Decimal.Floating.hexValue? c).any (· < base)
    let digits := cs.takeWhile isDigit
    let unit := ofChars (cs.drop digits.length)
    if digits = [] then none
    else (unit? unit).map fun factor =>
      digits.foldl (fun n c => n * base + (Decimal.Floating.hexValue? c).getD 0) 0 * factor
  match toChars bs with
  | '0' :: 'x' :: cs => value? 16 cs
  | '0' :: cs => value? 8 ('0' :: cs)
  | cs => value? 10 cs

def startOf? (operand : Bytes) : Option Nat :=
  let cs := toChars (if operand.head? = some Octet.plus then operand.tail else operand)
  let (cs, factor) : List Char × Nat := match cs.getLast? with
    | some 'b' => (cs.dropLast, 512)
    | _ => (cs, 1)
  let number (base : Nat) (cs : List Char) : Option Nat :=
    if cs ≠ [] ∧ cs.all fun c => (Decimal.Floating.hexValue? c).any (· < base) then
      some (cs.foldl (fun n c => n * base + (Decimal.Floating.hexValue? c).getD 0) 0 * factor)
    else none
  match cs with
  | '0' :: 'x' :: cs => number 16 cs
  | cs => if cs.getLast? = some '.' then number 10 cs.dropLast else number 8 cs

def placeText (radix : Char) (n : Nat) : Bytes :=
  match radix with
  | 'n' => []
  | 'x' => (Layout.mk [] 0 (some 6)).natural (octet 'x') n
  | 'd' => (Layout.mk [] 0 (some 7)).natural (octet 'u') n
  | _ => (Layout.mk [] 0 (some 7)).natural (octet 'o') n

/-- Lines of rows for a text. Equal lines after the first of them are left out if asked for. -/
def dumped (rows : List Row) (room lineWidth : Nat) (radix : Char) (isBig isShort : Bool)
    (start : Nat) (bs : Bytes) : Bytes :=
  let blocks := Row.groups room bs.length bs
  let margin := List.replicate (placeText radix 0).length Octet.space
  let (pieces, _, _) := blocks.zipIdx.foldl
    (fun (pieces, before, isCut) (block, i) =>
      if isShort && before = some block && block.length = room then
        (if isCut then pieces else ofText "*\n" :: pieces, before, true)
      else
        let lines := rows.zipIdx.map fun (row, k) =>
          lineOf ((if k = 0 then placeText radix (start + i * room) else margin) ++
            row.line room lineWidth isBig block)
        (lines.flatten :: pieces, some block, false))
    (([] : List Bytes), (none : Option Bytes), false)
  pieces.reverse.flatten

def stringsIn (least : Nat) (bs : Bytes) : List (Nat × Bytes) :=
  let (found, _, _) := bs.zipIdx.foldl
    (fun (found, run, start) (b, i) =>
      let isKept := isPrinted b || (7 ≤ b && b ≤ 13)
      if isKept then (found, b :: run, if run = [] then i else start)
      else if b = 0 ∧ least ≤ run.length ∧ run ≠ [] then ((start, run.reverse) :: found, [], i)
      else (found, [], i))
    (([] : List (Nat × Bytes)), ([] : Bytes), 0)
  found.reverse

def od : Command := fun args => do
  let short : List (Char × String) :=
    [('a', "a"), ('b', "o1"), ('c', "c"), ('d', "u2"), ('f', "f4"), ('i', "d4"), ('l', "d8"),
     ('o', "o2"), ('s', "d2"), ('x', "x2"), ('B', "o2"), ('D', "u4"), ('e', "f8"), ('F', "f8"),
     ('h', "x2"), ('H', "x4"), ('I', "d8"), ('L', "d8"), ('O', "o4"), ('X', "x4")]
  let known := [option 'A' "address-radix" .value, named 'E' "endian" .value,
    option 'j' "skip-bytes" .value, option 'N' "read-bytes" .value, option 'S' "" .value,
    named 'S' "strings" .optional, option 't' "format" .value,
    option 'v' "output-duplicates" .nothing, option 'w' "width" .optional,
    named 'T' "traditional" .nothing] ++ letters (String.ofList (short.map Prod.fst)) .nothing
  withOptions known 1 args fun c => do
    let radix := (c.value? 'A').map toChars
    let radix ← match radix with
      | none => pure 'o'
      | some (r :: _) =>
        if "doxn".toList.contains r then pure r
        else die 1 (ofText "invalid output address radix " ++ between [octet r] ++
          ofText "; it must be one character from [doxn]")
      | some [] => die 1 (ofText "invalid output address radix '\x00'; it must be one " ++
          ofText "character from [doxn]")
    let amount (key : Char) : Act (Option Nat) := do
      match c.value? key with
      | none => return none
      | some text =>
        match basedAmount? text with
        | some n => return some n
        | none =>
          let what := "invalid -" ++ String.singleton key ++ " argument "
          die 1 (ofText what ++ between text)
    let skip := (← amount 'j').getD 0
    let limit ← amount 'N'
    let mut rows : List Row := []
    for (key, value) in c.options do
      let text := if key = 't' then value else ofText ((short.lookup key).getD "")
      match readRows text.length text with
      | .ok more => rows := rows ++ more
      | .error (.character b) =>
        die 1 (ofText "invalid character " ++ between [b] ++ ofText " in type string " ++
          quoted text)
      | .error (.size part n isFloating) =>
        let what := if isFloating then "floating point" else "integral"
        die 1 (ofText "invalid type string " ++ quoted part ++
          ofText (";\nthis system doesn't provide a " ++ toString n ++ "-byte " ++ what ++ " type"))
    let isModern := c.options.any fun o => "AjNStvw".toList.contains o.1
    let (operands, moved) : List Bytes × Option Nat := match isModern, c.operands with
      | false, [a] => if a.head? = some Octet.plus then
          match startOf? a with
          | some n => ([], some n)
          | none => ([a], none)
        else ([a], none)
      | false, [a, b] => match startOf? b with
          | some n => ([a], some n)
          | none => ([a, b], none)
      | _, operands => (operands, none)
    let skip := moved.getD skip
    if rows.isEmpty then rows := [⟨.whole 'o', 2, false⟩]
    let common := rows.foldl (fun n r => max n r.size) 1
    let room ← match c.value? 'w' with
      | none => pure 16
      | some [] => pure 32
      | some text =>
        match basedAmount? text with
        | none => die 1 (ofText "invalid -w argument " ++ between text)
        | some n =>
          if n ≠ 0 ∧ n % common = 0 then pure n
          else
            complain (ofText ("warning: invalid width " ++ toString n ++ "; using " ++
              toString common ++ " instead"))
            pure common
    let lineWidth := rows.foldl (fun n r => max n ((r.width + 1) * (room / r.size))) 0
    let mut parts : List Bytes := []
    let mut wanted := limit.map (skip + ·)
    let mut isOpen := false
    for file in (if operands = [] then [[Octet.dash]] else operands) do
      if wanted ≠ some 0 then
        let read ← if file = [Octet.dash] then
            match wanted with
            | some n => takeCount 0 n
            | none => readInput
          else readFile file
        match read with
        | .error e =>
          fail 1 (file ++ ofText (": " ++ e.description))
          isOpen := isOpen || e = .isADirectory
        | .ok bs =>
          isOpen := true
          let bs := bs.take (wanted.getD bs.length)
          wanted := wanted.map (· - bs.length)
          parts := parts ++ [bs]
    let all := parts.flatten
    if all.length < skip then die 1 (ofText "cannot skip past end of combined input")
    let bs := all.drop skip
    if c.has 'S' then
      let least := ((c.value? 'S').bind basedAmount?).getD 3
      for (place, text) in stringsIn least bs do
        print (placeText radix (skip + place) ++
          (if radix = 'n' then [] else [Octet.space]) ++
          lineOf (text.flatMap fun b => if isPrinted b then [b] else character b))
    else
      print (dumped rows room lineWidth radix (c.value? 'E' = some (ofText "big")) (!c.has 'v')
        skip bs)
      if radix ≠ 'n' ∧ (isOpen ∨ limit = some 0) then printLine (placeText radix (skip + bs.length))
where
  character (b : UInt8) : Bytes := Row.character b

end LspRelay.Tool
