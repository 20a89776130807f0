import LspRelay.Host.Decimal.Floating
import LspRelay.Host.Text.Octets

namespace LspRelay

def upper (bs : Bytes) : Bytes := bs.map fun b => if 97 ≤ b ∧ b ≤ 122 then b - 32 else b

def lower (bs : Bytes) : Bytes := bs.map fun b => if 65 ≤ b ∧ b ≤ 90 then b + 32 else b

/-- How a conversion is laid out: its flags, how wide it is, and how many digits or octets it has.
-/
structure Layout where
  flags : Bytes
  width : Nat
  precision : Option Nat

namespace Layout

def has (l : Layout) (flag : Char) : Bool := l.flags.contains (octet flag)

def pad (l : Layout) (zeros : Bool) (sign body : Bytes) : Bytes :=
  let room := l.width - (sign.length + body.length)
  if l.has '-' then sign ++ body ++ List.replicate room Octet.space
  else if zeros && l.has '0' then sign ++ List.replicate room Octet.zero ++ body
  else List.replicate room Octet.space ++ sign ++ body

def text (l : Layout) (bs : Bytes) : Bytes :=
  l.pad false [] (match l.precision with
    | some n => bs.take n
    | none => bs)

def sign (l : Layout) (negative : Bool) : Bytes :=
  if negative then [Octet.dash]
  else if l.has '+' then [Octet.plus]
  else if l.has ' ' then [Octet.space]
  else []

/-- A whole number after a sign or a mark. Zero has no digits if none are asked for. -/
def whole (l : Layout) (sign digits : Bytes) : Bytes :=
  let digits := if l.precision = some 0 ∧ digits = [Octet.zero] then [] else digits
  let zeros := List.replicate (l.precision.getD 1 - digits.length) Octet.zero
  l.pad l.precision.isNone sign (zeros ++ digits)

def signed (l : Layout) (n : Int) : Bytes := l.whole (l.sign (n < 0)) (decimal n.natAbs)

/-- A number without a sign, in the base of a letter. -/
def natural (l : Layout) (letter : UInt8) (n : Nat) : Bytes :=
  let digits (base : Nat) : Bytes := (Nat.toDigits base n).map octet
  if letter = octet 'o' then
    let ds := digits 8
    let ds := List.replicate (l.precision.getD 1 - ds.length) Octet.zero ++ ds
    l.whole [] (if l.has '#' ∧ ds.head? ≠ some Octet.zero then Octet.zero :: ds else ds)
  else if letter = octet 'x' then
    l.whole (if l.has '#' ∧ n ≠ 0 then ofText "0x" else []) (digits 16)
  else if letter = octet 'X' then
    l.whole (if l.has '#' ∧ n ≠ 0 then ofText "0X" else []) (upper (digits 16))
  else l.whole [] (digits 10)

def floating (l : Layout) (letter : UInt8) (f : Float) : Bytes :=
  let isUpper := 65 ≤ letter && letter ≤ 90
  let kind := if isUpper then letter + 32 else letter
  let sign := l.sign (Decimal.Floating.isNegative f)
  let cased (cs : List Char) : Bytes := if isUpper then upper (ofChars cs) else ofChars cs
  match Decimal.Floating.magnitude? f with
  | none => l.pad false sign (cased (if f.isNaN then "nan".toList else "inf".toList))
  | some b =>
    let style : Decimal.Floating.Style := ⟨l.precision.getD 6, l.has '#', false⟩
    if kind = octet 'f' then l.pad true sign (cased (Decimal.Floating.fixed style b))
    else if kind = octet 'e' then l.pad true sign (cased (Decimal.Floating.scientific style b))
    else if kind = octet 'a' then
      let text := cased (Decimal.Floating.hexadecimal l.precision (l.has '#') b)
      l.pad true (sign ++ text.take 2) (text.drop 2)
    else
      l.pad true sign
        (cased (Decimal.Floating.general { style with dropsZeros := !l.has '#' } b))

end Layout

end LspRelay
