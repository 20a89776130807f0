namespace LspRelay.Decimal

/-- The number `significand * 2 ^ exponent`. -/
structure Binary where
  significand : Nat
  exponent : Int
  deriving Repr, DecidableEq

/-- The magnitude that binary64 bits stand for, if they stand for a number. -/
def Binary.ofBits? (bits : UInt64) : Option Binary :=
  let exponent : Nat := bits.toNat / Nat.pow 2 52 % Nat.pow 2 11
  let fraction := bits.toNat % Nat.pow 2 52
  if exponent = 2047 then none
  else if exponent = 0 then some ⟨fraction, -1074⟩
  else some ⟨fraction + Nat.pow 2 52, (exponent : Int) - 1075⟩

/-- A number with the two ends of its interval over one denominator. The ends belong to the interval
when the significand is even, since a tie is rounded to the even neighbour. -/
structure Interval where
  low : Nat
  value : Nat
  high : Nat
  denominator : Nat
  closed : Bool

/-- Below a power of two the next number is half as far away, except at the smallest exponent. -/
def Binary.interval (b : Binary) : Interval :=
  let below := if b.significand = Nat.pow 2 52 ∧ b.exponent > -1074 then 1 else 2
  let scale := Nat.pow 2 (b.exponent - 2).toNat
  { low := (4 * b.significand - below) * scale
    value := 4 * b.significand * scale
    high := (4 * b.significand + 2) * scale
    denominator := Nat.pow 2 (2 - b.exponent).toNat
    closed := b.significand % 2 = 0 }

def Interval.contains (i : Interval) (n d : Nat) : Bool :=
  let l := i.low * d
  let m := n * i.denominator
  let h := i.high * d
  if i.closed then l ≤ m && m ≤ h else l < m && m < h

/-- The place of the first digit of a positive `value / denominator`: 0 for units, -1 for tenths. -/
def place (value denominator : Nat) : Int :=
  if denominator ≤ value then (Nat.toDigits 10 (value / denominator)).length - 1
  else -(Nat.toDigits 10 (denominator / value)).length

/-- The point of the grid of multiples of `10 ^ p` that is nearest to the value, if it is in the
interval; of two equally near points the even one. -/
def Interval.nearest? (i : Interval) (p : Int) : Option Nat :=
  let up := Nat.pow 10 p.toNat
  let down := Nat.pow 10 (-p).toNat
  let n := i.value * down
  let d := i.denominator * up
  let k := n / d
  let below := i.contains (k * up) down
  let above := i.contains ((k + 1) * up) down
  let twice := 2 * (n % d)
  let upward := if twice = d then k % 2 = 1 else d < twice
  if below && (!above || !upward) then some k
  else if above then some (k + 1)
  else none

/-- Digits, of which there is at least one, and the place of the first. -/
structure Digits where
  first : Char
  rest : List Char
  place : Int
  deriving Repr, DecidableEq

namespace Digits

def zero : Digits := ⟨'0', [], 0⟩

def ofGrid (k : Nat) (p : Int) : Digits :=
  let ds := Nat.toDigits 10 k
  match (ds.reverse.dropWhile (· = '0')).reverse with
  | d :: rest => ⟨d, rest, p + ds.length - 1⟩
  | [] => zero

end Digits

def Binary.shortest (b : Binary) : Digits :=
  if b.significand = 0 then .zero
  else
    let i := b.interval
    let first := Decimal.place i.value i.denominator
    let found := (List.range 17).findSome? fun (n : Nat) =>
      (i.nearest? (first - n)).map (Digits.ofGrid · (first - n))
    found.getD .zero

end LspRelay.Decimal
