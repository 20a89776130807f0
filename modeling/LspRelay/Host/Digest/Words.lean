import LspRelay.Host.Text.Octets

namespace LspRelay.Digest

def littleOctets (count n : Nat) : Bytes :=
  (List.range count).map fun i => UInt8.ofNat (n >>> (8 * i))

def bigOctets (count n : Nat) : Bytes := (littleOctets count n).reverse

def littleNumber (bs : Bytes) : Nat := bs.foldr (fun b n => n * 256 + b.toNat) 0

def bigNumber (bs : Bytes) : Nat := bs.foldl (fun n b => n * 256 + b.toNat) 0

def pieces (size : Nat) (bs : Bytes) : List Bytes :=
  if _h : size = 0 ∨ bs = [] then []
  else bs.take size :: pieces size (bs.drop size)
termination_by bs.length
decreasing_by
  have : 0 < bs.length := List.length_pos_iff.2 fun e => _h (.inr e)
  simp only [List.length_drop]
  omega

def zerosFor (size lengthSize n : Nat) : Nat := (size - (n + 1 + lengthSize) % size) % size

/-- A message with a bit, zeros and its length behind it, so that all blocks of a size are full. -/
def filled (size lengthSize : Nat) (order : Nat → Nat → Bytes) (bs : Bytes) : Bytes :=
  bs ++ 0x80 :: List.replicate (zerosFor size lengthSize bs.length) 0 ++
    order lengthSize (8 * bs.length)

def hexadecimal (bs : Bytes) : Bytes :=
  bs.flatMap fun b => [b.toNat / 16, b.toNat % 16].map fun n => octet (Nat.digitChar n)

end LspRelay.Digest
