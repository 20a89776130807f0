import LspRelay.Decimal.Shortest

namespace LspRelay.Decimal

/-- A quotient to the nearest whole number, of two equally near ones to the even one. -/
def roundedQuotient (n d : Nat) : Nat :=
  let q := n / d
  let twice := 2 * (n % d)
  if d < twice ∨ (twice = d ∧ q % 2 = 1) then q + 1 else q

def bitsOfRatio (negative : Bool) (n d : Nat) : UInt64 :=
  let sign : Nat := if negative then Nat.pow 2 63 else 0
  if n = 0 ∨ d = 0 then UInt64.ofNat sign
  else
    let size : Int := (Nat.log2 n : Int) - Nat.log2 d
    let size := if n * Nat.pow 2 (-size).toNat < d * Nat.pow 2 size.toNat then size - 1 else size
    let exponent := max (size - 52) (-1074)
    let s := roundedQuotient (n * Nat.pow 2 (-exponent).toNat) (d * Nat.pow 2 exponent.toNat)
    /- A significand that has become too large goes over into the exponent. -/
    let bits := (exponent + 1074).toNat * Nat.pow 2 52 + s
    UInt64.ofNat (sign + min bits (2047 * Nat.pow 2 52))

def floatOfRatio (negative : Bool) (n d : Nat) : Float := Float.ofBits (bitsOfRatio negative n d)

def floatOfScientific (negative : Bool) (digits : Nat) (exponent : Int) : Float :=
  if digits = 0 ∨ exponent < -(20000 : Int) then floatOfRatio negative 0 1
  else if 20000 < exponent then floatOfRatio negative (Nat.pow 2 1025) 1
  else floatOfRatio negative (digits * Nat.pow 10 exponent.toNat) (Nat.pow 10 (-exponent).toNat)

namespace Floating

def hexValue? (c : Char) : Option Nat :=
  if c.isDigit then some (c.toNat - 48)
  else if 'a' ≤ c ∧ c ≤ 'f' then some (c.toNat - 87)
  else if 'A' ≤ c ∧ c ≤ 'F' then some (c.toNat - 55)
  else none

/-- Digits of a base with a point among them: their value without the point, how many of them come
after it, how many there are, and what follows. -/
def readDigits (base : Nat) (cs : List Char) : Nat × Nat × Nat × List Char :=
  let isDigit (c : Char) : Bool := (hexValue? c).any (· < base)
  let whole := cs.takeWhile isDigit
  let rest := cs.dropWhile isDigit
  let (fraction, rest) : List Char × List Char := match rest with
    | '.' :: more => (more.takeWhile isDigit, more.dropWhile isDigit)
    | rest => ([], rest)
  let all := whole ++ fraction
  (all.foldl (fun n c => n * base + (hexValue? c).getD 0) 0, fraction.length, all.length, rest)

/-- An exponent after its mark, and what follows it. Without digits there is none. -/
def readExponent (mark : Char) (cs : List Char) : Int × List Char :=
  match cs with
  | c :: rest =>
    if c.toLower = mark then
      let (negative, rest) : Bool × List Char := match rest with
        | '-' :: rest => (true, rest)
        | '+' :: rest => (false, rest)
        | rest => (false, rest)
      let digits := rest.takeWhile Char.isDigit
      if digits = [] then (0, cs)
      else
        let n := Nat.ofDigitChars 10 digits 0
        (if negative then -(n : Int) else (n : Int), rest.dropWhile Char.isDigit)
    else (0, cs)
  | [] => (0, [])

def word? (word : String) (cs : List Char) : Option (List Char) :=
  if word.toList.isPrefixOf (cs.map Char.toLower) then some (cs.drop word.length) else none

def read? (cs : List Char) : Option (Float × List Char) :=
  let isBlank (c : Char) : Bool := c = ' ' || ('\t' ≤ c && c ≤ '\r')
  let (negative, cs) : Bool × List Char := match cs.dropWhile isBlank with
    | '-' :: cs => (true, cs)
    | '+' :: cs => (false, cs)
    | cs => (false, cs)
  let signed (f : Float) : Float := if negative then -f else f
  let infinite := floatOfRatio false (Nat.pow 2 1025) 1
  match (word? "infinity" cs).or (word? "inf" cs), word? "nan" cs with
  | some rest, _ => some (signed infinite, rest)
  | none, some rest => some (signed (infinite - infinite), rest)
  | none, none =>
    let decimal : Option (Float × List Char) :=
      let (n, places, count, rest) := readDigits 10 cs
      if count = 0 then none
      else
        let (exponent, rest) := readExponent 'e' rest
        some (floatOfScientific negative n (exponent - places), rest)
    match cs with
    | '0' :: x :: rest =>
      let (n, places, count, rest) := readDigits 16 rest
      if (x = 'x' ∨ x = 'X') ∧ count ≠ 0 then
        let (exponent, rest) := readExponent 'p' rest
        let exponent := max (-(20000 : Int)) (min 20000 (exponent - 4 * places))
        let denominator := Nat.pow 2 (-exponent).toNat
        some (floatOfRatio negative (n * Nat.pow 2 exponent.toNat) denominator, rest)
      else decimal
    | _ => decimal

/-- How a number is shown: after how many digits, whether with a point even if none follow it, and
whether without zeros at the end. -/
structure Style where
  precision : Nat
  keepsPoint : Bool
  dropsZeros : Bool

def isNegative (f : Float) : Bool := Nat.pow 2 63 ≤ f.toBits.toNat

def magnitude? (f : Float) : Option Binary :=
  Binary.ofBits? (UInt64.ofNat (f.toBits.toNat % Nat.pow 2 63))

def zeros (n : Nat) : List Char := List.replicate n '0'

/-- A whole number with so many of its digits after a point. -/
def pointed (s : Style) (digits : List Char) : List Char :=
  let digits := zeros (s.precision + 1 - digits.length) ++ digits
  let whole := digits.take (digits.length - s.precision)
  let fraction := digits.drop (digits.length - s.precision)
  let fraction :=
    if s.dropsZeros then (fraction.reverse.dropWhile (· = '0')).reverse else fraction
  whole ++ (if fraction = [] ∧ !s.keepsPoint then [] else ['.']) ++ fraction

def ratio (b : Binary) : Nat × Nat :=
  (b.significand * Nat.pow 2 b.exponent.toNat, Nat.pow 2 (-b.exponent).toNat)

def fixed (s : Style) (b : Binary) : List Char :=
  let (n, d) := ratio b
  pointed s (Nat.toDigits 10 (roundedQuotient (n * Nat.pow 10 s.precision) d))

def rounded (precision : Nat) (b : Binary) : Nat × Int :=
  let (n, d) := ratio b
  if n = 0 then (0, 0)
  else
    let first : Int := place n d
    let first := if n * Nat.pow 10 (-first).toNat < d * Nat.pow 10 first.toNat then first - 1
      else if 10 * d * Nat.pow 10 first.toNat ≤ n * Nat.pow 10 (-first).toNat then first + 1
      else first
    let shift : Int := precision - first
    let q := roundedQuotient (n * Nat.pow 10 shift.toNat) (d * Nat.pow 10 (-shift).toNat)
    if Nat.pow 10 (precision + 1) ≤ q then (q / 10, first + 1) else (q, first)

def exponentText (mark : Char) (least : Nat) (e : Int) : List Char :=
  let digits := Nat.toDigits 10 e.natAbs
  [mark, if e < 0 then '-' else '+'] ++ zeros (least - digits.length) ++ digits

def scientific (s : Style) (b : Binary) : List Char :=
  let (q, e) := rounded s.precision b
  pointed s (Nat.toDigits 10 q) ++ exponentText 'e' 2 e

/-- The fixed form, or the scientific one if that is shorter for so many digits in all. -/
def general (s : Style) (b : Binary) : List Char :=
  let digits := max s.precision 1
  let (_, e) := rounded (digits - 1) b
  if e < -4 ∨ (digits : Int) ≤ e then scientific { s with precision := digits - 1 } b
  else fixed { s with precision := ((digits : Int) - 1 - e).toNat } b

def hexadecimal (precision : Option Nat) (keepsPoint : Bool) (b : Binary) : List Char :=
  let (s, e) : Nat × Int :=
    if b.significand = 0 then (0, 0)
    else if b.significand < Nat.pow 2 52 then (b.significand, -1022)
    else (b.significand, b.exponent + 52)
  let digits := precision.getD 13
  let missing := 13 - digits
  let s :=
    if digits < 13 then roundedQuotient s (Nat.pow 2 (4 * missing)) * Nat.pow 16 missing else s
  let s := s * Nat.pow 16 (digits - 13)
  let style : Style := ⟨max digits 13, keepsPoint, precision.isNone⟩
  let text := pointed style (Nat.toDigits 16 s)
  let text := if digits < 13 then
      let kept := text.take (if digits = 0 then 1 else digits + 2)
      if digits = 0 ∧ keepsPoint then kept ++ ['.'] else kept
    else text
  ['0', 'x'] ++ text ++ exponentText 'p' 1 e

end Floating

end LspRelay.Decimal
