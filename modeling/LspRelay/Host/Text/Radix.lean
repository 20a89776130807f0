import LspRelay.Host.Text.Octets

namespace LspRelay.Text

structure Radix where
  digits : List Char
  bits : Nat
  group : Nat
  /-- Whether the first bit counts least. -/
  isReversed : Bool
  /-- Whether a digit group that is not full is read at all. -/
  readsParts : Bool

namespace Radix

def upperLetters : List Char := "ABCDEFGHIJKLMNOPQRSTUVWXYZ".toList

def lowerLetters : List Char := "abcdefghijklmnopqrstuvwxyz".toList

def decimals : List Char := "0123456789".toList

def base64 : Radix := ⟨upperLetters ++ lowerLetters ++ decimals ++ ['+', '/'], 6, 4, false, true⟩

def base64url : Radix := ⟨upperLetters ++ lowerLetters ++ decimals ++ ['-', '_'], 6, 4, false, true⟩

def base32 : Radix := ⟨upperLetters ++ "234567".toList, 5, 8, false, false⟩

def base32hex : Radix := ⟨decimals ++ upperLetters.take 22, 5, 8, false, false⟩

def base16 : Radix := ⟨decimals ++ upperLetters.take 6, 4, 2, false, false⟩

def base2 (isReversed : Bool) : Radix := ⟨['0', '1'], 1, 8, isReversed, false⟩

def filler : UInt8 := Octet.equals

def octets (r : Radix) : Nat := r.group * r.bits / 8

def bitsOf (r : Radix) (b : UInt8) : List Bool :=
  let bits := (List.range 8).map fun i => b.toNat.testBit i
  if r.isReversed then bits else bits.reverse

def ofBits (bits : List Bool) : Nat := bits.foldl (fun n b => 2 * n + b.toNat) 0

def digitsOf (r : Radix) : Nat → List Bool → Bytes
  | 0, _ => []
  | fuel + 1, bits =>
    if bits = [] then []
    else
      let piece := bits.take r.bits
      let value := ofBits (piece ++ List.replicate (r.bits - piece.length) false)
      octet (r.digits.getD value '0') :: digitsOf r fuel (bits.drop r.bits)

def encodeGroup (r : Radix) (bs : Bytes) : Bytes :=
  let ds := r.digitsOf (r.group + 1) (bs.flatMap r.bitsOf)
  ds ++ List.replicate (r.group - ds.length) filler

def encode (r : Radix) (bs : Bytes) : Bytes :=
  if _h : bs = [] ∨ r.octets = 0 then []
  else r.encodeGroup (bs.take r.octets) ++ r.encode (bs.drop r.octets)
termination_by bs.length
decreasing_by
  have : 0 < bs.length := List.length_pos_iff.2 fun e => _h (.inl e)
  simp only [List.length_drop]
  omega

def digit? (r : Radix) (b : UInt8) : Option Nat := r.digits.findIdx? fun c => octet c = b

def decodeGroup (r : Radix) (ds : Bytes) : Bytes × Bool :=
  let values := (ds.map r.digit?).takeWhile Option.isSome |>.filterMap id
  let count := values.length
  let bits := values.flatMap fun n => ((List.range r.bits).map n.testBit).reverse
  let whole := count * r.bits / 8
  let value (i : Nat) : UInt8 :=
    let bits := (bits.drop (8 * i)).take 8
    UInt8.ofNat (ofBits (if r.isReversed then bits.reverse else bits))
  let isFull := ds.length = r.group
  let isRight := isFull && (ds.drop count).all (· = filler) && whole ≠ 0 &&
    (whole - 1) * 8 / r.bits + 1 < count && count * r.bits - whole * 8 < r.bits
  (if isFull || r.readsParts then (List.range whole).map value else [], isRight)

def decode (r : Radix) (ds : Bytes) : Bytes × Bool :=
  if _h : ds = [] ∨ r.group = 0 then ([], true)
  else
    let (bs, isRight) := r.decodeGroup (ds.take r.group)
    if isRight then
      let (rest, isRight) := r.decode (ds.drop r.group)
      (bs ++ rest, isRight)
    else (bs, false)
termination_by ds.length
decreasing_by
  have : 0 < ds.length := List.length_pos_iff.2 fun e => _h (.inl e)
  simp only [List.length_drop]
  omega

end Radix

end LspRelay.Text
