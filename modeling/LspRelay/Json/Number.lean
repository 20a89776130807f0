import LspRelay.Decimal.Shortest

namespace LspRelay.Json

/-- A number as it is written. The fraction may be empty; an exponent has a sign and digits. -/
structure Literal where
  negative : Bool
  whole : List Char
  fraction : List Char
  exponent : Option (Bool × List Char)
  deriving Repr, DecidableEq

namespace Literal

def span (cs : List Char) : List Char × List Char :=
  (cs.takeWhile Char.isDigit, cs.dropWhile Char.isDigit)

/-- A nought stands alone: whole digits have no other leading zero. -/
def readWhole? : List Char → Option (List Char × List Char)
  | '0' :: cs => some (['0'], cs)
  | cs => if (span cs).1 = [] then none else some (span cs)

def readFraction? : List Char → Option (List Char × List Char)
  | '.' :: cs => if (span cs).1 = [] then none else some (span cs)
  | cs => some ([], cs)

def readSign : List Char → Bool × List Char
  | '-' :: cs => (true, cs)
  | '+' :: cs => (false, cs)
  | cs => (false, cs)

def readExponent? : List Char → Option (Option (Bool × List Char) × List Char)
  | c :: cs =>
    if c = 'e' ∨ c = 'E' then
      let (negative, cs) := readSign cs
      if (span cs).1 = [] then none else some (some (negative, (span cs).1), (span cs).2)
    else some (none, c :: cs)
  | [] => some (none, [])

def read? (cs : List Char) : Option (Literal × List Char) := do
  let (negative, cs) := match cs with
    | '-' :: cs => (true, cs)
    | cs => (false, cs)
  let (whole, cs) ← readWhole? cs
  let (fraction, cs) ← readFraction? cs
  let (exponent, cs) ← readExponent? cs
  some (⟨negative, whole, fraction, exponent⟩, cs)

end Literal

/-- Integers between -2^63 and 2^64 are exact; all other numbers are binary64, a sign and a
magnitude. -/
inductive Number where
  | int (n : Int)
  | float (negative : Bool) (magnitude : Decimal.Binary)
  deriving Repr, DecidableEq

/-- Appends digits to a 64-bit significand; the second part holds the digits from the first that
does not fit. -/
def accumulate : Nat → List Char → Nat × List Char
  | s, [] => (s, [])
  | s, c :: cs =>
    let t := 10 * s + (c.toNat - '0'.toNat)
    if t < Nat.pow 2 64 then accumulate t cs else (s, c :: cs)

/-- The significand and decimal exponent before an explicit exponent is added. A whole digit that
does not fit counts as a zero, a fraction digit that does not fit is dropped. -/
def Literal.scientific (l : Literal) : Nat × Int :=
  let (s, beyond) := accumulate 0 l.whole
  let (s, dropped) := accumulate s l.fraction
  (s, beyond.length - (l.fraction.length - dropped.length : Nat))

/-- One multiplication or division by a rounded power of ten, and a second division below 10^-308.
Where the second power would lie below 10^-308 too, nothing is left of a 64-bit significand. A
product that is no number is too large. -/
def scaled? (s : Nat) (e : Int) : Option Decimal.Binary :=
  let finite? (x : Float) := Decimal.Binary.ofBits? x.toBits
  let power (k : Nat) := Float.ofScientific 1 false k
  let x := s.toFloat
  if 308 < e then if s = 0 then finite? x else none
  else if 0 ≤ e then finite? (x * power e.toNat)
  else if -308 ≤ e then finite? (x / power (-e).toNat)
  else if -616 ≤ e then finite? (x / power 308 / power (-e - 308).toNat)
  else finite? 0

/-- An exponent of more than 31 bits makes any number but zero too large or nothing. -/
def Literal.magnitude? (l : Literal) : Option Decimal.Binary :=
  let (s, e) := l.scientific
  match l.exponent with
  | none => scaled? s e
  | some (negative, ds) =>
    let k := Nat.ofDigitChars 10 ds 0
    if k < Nat.pow 2 31 then scaled? s (if negative then e - k else e + k)
    else if negative ∨ s = 0 then scaled? 0 0
    else none

/-- What a literal stands for, unless it is too large. Minus nought is a binary64 number. -/
def Literal.number? (l : Literal) : Option Number :=
  let n := Nat.ofDigitChars 10 l.whole 0
  let integral := l.fraction = [] ∧ l.exponent = none
  if integral ∧ l.negative = false ∧ n < Nat.pow 2 64 then some (.int n)
  else if integral ∧ l.negative = true ∧ 0 < n ∧ n ≤ Nat.pow 2 63 then some (.int (-n))
  else l.magnitude?.map (.float l.negative)

/-- Positional from hundred-thousandths to 16 whole digits, with a digit on both sides of the point;
otherwise one digit before the point and an exponent with its sign. -/
def numeral (d : Decimal.Digits) : List Char :=
  let digits := d.first :: d.rest
  let orZero (fraction : List Char) := if fraction = [] then ['0'] else fraction
  if 0 ≤ d.place ∧ d.place ≤ 15 then
    let whole := d.place.toNat + 1
    digits.take whole ++ List.replicate (whole - digits.length) '0' ++
      '.' :: orZero (digits.drop whole)
  else if -5 ≤ d.place ∧ d.place < 0 then
    '0' :: '.' :: (List.replicate ((-d.place).toNat - 1) '0' ++ digits)
  else
    d.first :: ((if d.rest = [] then [] else '.' :: d.rest) ++
      'e' :: (if d.place < 0 then '-' else '+') :: Nat.toDigits 10 d.place.natAbs)

def signed (negative : Bool) (cs : List Char) : List Char :=
  if negative then '-' :: cs else cs

def Number.text : Number → List Char
  | .int n => signed (n < 0) (Nat.toDigits 10 n.natAbs)
  | .float negative b => signed negative (numeral b.shortest)

end LspRelay.Json
