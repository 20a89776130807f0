import LspRelay.Host.Text.Layout

namespace LspRelay.Rows

inductive Value where
  | unset
  | number (f : Float)
  | text (bs : Bytes)
  | given (bs : Bytes)

namespace Value

def ofBool (b : Bool) : Value := number (if b then 1 else 0)

def ofNat (n : Nat) : Value := number (Float.ofNat n)

def frontNumber (bs : Bytes) : Float :=
  if bs ≠ [] ∧ bs.length < 16 ∧ bs.all fun b => octet '0' ≤ b && b ≤ octet '9' then
    Float.ofNat (bs.foldl (fun n b => n * 10 + (b.toNat - 48)) 0)
  else
    match Decimal.Floating.read? (toChars bs) with
    | some (f, _) => f
    | none => 0

/-- The number that a text looks like, from its first character to its last digit. -/
def wholeNumber? (bs : Bytes) : Option Float :=
  let plain := trimBlanks bs
  let isDigit (b : UInt8) : Bool := octet '0' ≤ b && b ≤ octet '9'
  let starts := plain.head?.any fun b => isDigit b || b = Octet.plus || b = Octet.dash ||
    b = Octet.point
  let ends := plain.getLast?.any fun b => isDigit b || b = Octet.point
  if !(starts && ends) then none
  else if plain.all isDigit then some (frontNumber plain)
  else
    match Decimal.Floating.read? (toChars plain) with
    | some (f, []) => some f
    | _ => none

def toNumber : Value → Float
  | unset => 0
  | number f => f
  | text bs => frontNumber bs
  | given bs => frontNumber bs

/-- The number that a value is, if it does not have to be taken as a text. -/
def number? : Value → Option Float
  | unset => some 0
  | number f => some f
  | text _ => none
  | given bs => wholeNumber? bs

def isTrue : Value → Bool
  | unset => false
  | number f => f != 0
  | text bs => bs ≠ []
  | given bs =>
    match wholeNumber? bs with
    | some f => f != 0
    | none => bs ≠ []

end Value

def wholePart (f : Float) : Int :=
  if f.isNaN then -(Nat.pow 2 63)
  else if f < 0 then
    if f ≤ -9223372036854775808.0 then -(Nat.pow 2 63) else -((-f).toUInt64.toNat : Int)
  else if 18446744073709551615.0 ≤ f then Nat.pow 2 64 - 1
  else f.toUInt64.toNat

def isWhole (f : Float) : Bool :=
  f == f.floor && -9223372036854775808.0 ≤ f && f < 18446744073709551616.0

inductive FormatProblem where
  | missing
  | improper (count : Nat)

def numberText (format : Float → Bytes) (f : Float) : Bytes :=
  if isWhole f then signedDecimal (wholePart f) else format f

def floatingText (l : Layout) (letter : UInt8) (f : Float) : Bytes :=
  if f.isNaN then l.pad false [] (ofText "-nan") else l.floating letter f

/-- The layout of a conversion after its percent sign: flags, a width and a precision, which may
come from arguments, and what follows them. The last result tells whether an argument was missing.
-/
def readLayout (bs : Bytes) (args : List Value) : Layout × Bytes × List Value × Bool :=
  let isFlag (b : UInt8) : Bool := "-+ #0".toList.contains (Char.ofNat b.toNat)
  let isDigit (b : UInt8) : Bool := octet '0' ≤ b && b ≤ octet '9'
  let flags := bs.takeWhile isFlag
  let rest := bs.drop flags.length
  let amount (bs : Bytes) (args : List Value) : Int × Bytes × List Value × Bool :=
    match bs with
    | b :: more =>
      if b = octet '*' then
        match args with
        | v :: args => (wholePart v.toNumber, more, args, false)
        | [] => (0, more, [], true)
      else
        let digits := bs.takeWhile isDigit
        (((LspRelay.number? digits).getD 0 : Nat), bs.drop digits.length, args, false)
    | [] => (0, [], args, false)
  let (width, rest, args, lacks) := amount rest args
  let flags := if width < 0 then octet '-' :: flags else flags
  match rest with
  | Octet.point :: more =>
    let (precision, rest, args, lacks') := amount more args
    (⟨flags, width.natAbs, if precision < 0 then none else some precision.toNat⟩, rest, args,
      lacks || lacks')
  | rest => (⟨flags, width.natAbs, none⟩, rest, args, lacks)

/-- Arguments in the places of a format, and what is wrong, if something is. What has come out so
far has its last piece first. The fuel is the length of the format. -/
def formatted (text : Value → Bytes) (out : List Bytes) (count : Nat) :
    Nat → Bytes → List Value → List Bytes × Option FormatProblem
  | 0, _, _ => (out, none)
  | _ + 1, [], _ => (out, none)
  | fuel + 1, b :: bs, args =>
    if b ≠ Octet.percent then
      let plain := b :: bs.takeWhile (· ≠ Octet.percent)
      formatted text (plain :: out) count fuel (bs.drop (plain.length - 1)) args
    else if bs.head? = some Octet.percent then
      formatted text ([Octet.percent] :: out) count fuel bs.tail args
    else
      let (l, rest, args, lacks) := readLayout bs args
      let isLength (b : UInt8) : Bool := "hlLqjzt".toList.contains (Char.ofNat b.toNat)
      let rest := rest.dropWhile isLength
      let letter := rest.headD 0
      let c := Char.ofNat letter.toNat
      let isKnown := "diouxXcsfeEgG".toList.contains c
      match lacks, isKnown, args with
      | true, _, _ => (out, some .missing)
      | false, _, [] => (out, some .missing)
      | false, false, _ => (out, some (.improper (count + 1)))
      | false, true, v :: args =>
        let n := wholePart v.toNumber
        let piece : Bytes :=
          if c = 'd' ∨ c = 'i' then l.signed n
          else if "ouxX".toList.contains c then l.natural letter (n % Nat.pow 2 64).toNat
          else if c = 'c' then
            let plain : Bytes := match v with
              | .number f => [UInt8.ofNat ((wholePart f) % 256).toNat]
              | .unset => [0]
              | .text bs => if bs = [] then [0] else bs.take 1
              | .given bs =>
                match Value.wholeNumber? bs with
                | some f => [UInt8.ofNat ((wholePart f) % 256).toNat]
                | none => if bs = [] then [0] else bs.take 1
            { l with precision := none }.text plain
          else if c = 's' then l.text (text v)
          else floatingText l letter v.toNumber
        formatted text (piece :: out) (count + 1) fuel rest.tail args

def numberBy (format : Bytes) (f : Float) : Bytes :=
  (formatted (fun _ => []) [] 0 (format.length + 1) format [.number f]).1.reverse.flatten

/-- A value as a text, where numbers that are not whole are told by a format. -/
def Value.toText (format : Bytes) : Value → Bytes
  | .unset => []
  | .number f => numberText (numberBy format) f
  | .text bs => bs
  | .given bs => bs

/-- How two values compare: as numbers if both are such, as texts otherwise. -/
def compareValues (format : Bytes) (a b : Value) : Ordering × Bool :=
  match a.number?, b.number? with
  | some x, some y =>
    if x.isNaN ∨ y.isNaN then (.gt, false)
    else (if x < y then .lt else if x == y then .eq else .gt, true)
  | _, _ =>
    let s := a.toText format
    let t := b.toText format
    (if s = t then .eq else if s < t then .lt else .gt, true)

end LspRelay.Rows
