import LspRelay.Host.Digest.Words

namespace LspRelay.Digest

def remainderStep (r : UInt32) (b : UInt8) : UInt32 :=
  (List.range 8).foldl
    (fun r _ => if r &&& 0x80000000 ≠ 0 then (r <<< 1) ^^^ 0x04c11db7 else r <<< 1)
    (r ^^^ (UInt32.ofNat b.toNat <<< 24))

def lengthOctets (n : Nat) : Bytes :=
  if h : n = 0 then [] else UInt8.ofNat n :: lengthOctets (n / 256)

def cyclic (bs : Bytes) : Nat :=
  (~~~((bs ++ lengthOctets bs.length).foldl remainderStep 0)).toNat

def turning (bs : Bytes) : Nat :=
  bs.foldl (fun s b => (s / 2 + s % 2 * Nat.pow 2 15 + b.toNat) % Nat.pow 2 16) 0

def folded (bs : Bytes) : Nat :=
  let s := bs.foldl (fun n b => n + b.toNat) 0 % Nat.pow 2 32
  let r := s % Nat.pow 2 16 + s / Nat.pow 2 16
  r % Nat.pow 2 16 + r / Nat.pow 2 16

end LspRelay.Digest
