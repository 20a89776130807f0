import LspRelay.Host.Digest.Sha2

namespace LspRelay.Digest

namespace Blake

def orders : Array (Array Nat) :=
  #[#[0, 1, 2, 3, 4, 5, 6, 7, 8, 9, 10, 11, 12, 13, 14, 15],
    #[14, 10, 4, 8, 9, 15, 13, 6, 1, 12, 0, 2, 11, 7, 5, 3],
    #[11, 8, 12, 0, 5, 2, 15, 13, 10, 14, 3, 6, 7, 1, 9, 4],
    #[7, 9, 3, 1, 13, 12, 11, 14, 2, 6, 5, 10, 4, 0, 15, 8],
    #[9, 0, 5, 7, 2, 4, 10, 15, 14, 1, 11, 12, 6, 8, 3, 13],
    #[2, 12, 6, 10, 0, 11, 8, 3, 4, 13, 7, 5, 15, 14, 1, 9],
    #[12, 5, 1, 15, 14, 13, 4, 10, 0, 7, 6, 3, 9, 2, 8, 11],
    #[13, 11, 7, 14, 12, 1, 3, 9, 5, 0, 15, 4, 8, 6, 2, 10],
    #[6, 15, 14, 9, 11, 3, 0, 8, 12, 2, 13, 7, 1, 4, 10, 5],
    #[10, 2, 8, 4, 7, 6, 1, 5, 15, 11, 9, 14, 3, 12, 13, 0]]

def start : Array UInt64 := ((Sha2.roots 64 0).map UInt64.ofNat).toArray

def turned (x n : UInt64) : UInt64 := x >>> n ||| x <<< (64 - n)

def mix (v : Array UInt64) (a b c d : Nat) (x y : UInt64) : Array UInt64 :=
  let at' (v : Array UInt64) (i : Nat) : UInt64 := v.getD i 0
  let half (v : Array UInt64) (x m n : UInt64) : Array UInt64 :=
    let v := v.setIfInBounds a (at' v a + at' v b + x)
    let v := v.setIfInBounds d (turned (at' v d ^^^ at' v a) m)
    let v := v.setIfInBounds c (at' v c + at' v d)
    v.setIfInBounds b (turned (at' v b ^^^ at' v c) n)
  half (half v x 32 24) y 16 63

def parts : List (Nat × Nat × Nat × Nat) :=
  [(0, 4, 8, 12), (1, 5, 9, 13), (2, 6, 10, 14), (3, 7, 11, 15),
   (0, 5, 10, 15), (1, 6, 11, 12), (2, 7, 8, 13), (3, 4, 9, 14)]

def round (words v : Array UInt64) (i : Nat) : Array UInt64 :=
  let order := orders.getD (i % 10) #[]
  let word (k : Nat) : UInt64 := words.getD (order.getD k 0) 0
  parts.zipIdx.foldl
    (fun v ((a, b, c, d), k) => mix v a b c d (word (2 * k)) (word (2 * k + 1))) v

def block (h : Array UInt64) (bs : Bytes) (count : Nat) (isLast : Bool) : Array UInt64 :=
  let full := bs ++ List.replicate (128 - bs.length) 0
  let words := ((pieces 8 full).map fun w => UInt64.ofNat (littleNumber w)).toArray
  let v := h ++ start
  let v := v.setIfInBounds 12 (v.getD 12 0 ^^^ UInt64.ofNat count)
  let v := if isLast then v.setIfInBounds 14 (~~~(v.getD 14 0)) else v
  let v := (List.range 12).foldl (round words) v
  h.mapIdx fun i x => x ^^^ v.getD i 0 ^^^ v.getD (i + 8) 0

def blocks (h : Array UInt64) (before : Nat) : List Bytes → Array UInt64
  | [] => block h [] before true
  | [bs] => block h bs (before + bs.length) true
  | bs :: rest => blocks (block h bs (before + bs.length) false) (before + bs.length) rest

end Blake

def blake2b (size : Nat) (bs : Bytes) : Bytes :=
  let first := Blake.start.getD 0 0 ^^^ (0x01010000 ||| UInt64.ofNat size)
  let h := Blake.blocks (Blake.start.setIfInBounds 0 first) 0 (pieces 128 bs)
  (h.toList.flatMap fun w => littleOctets 8 w.toNat).take size

end LspRelay.Digest
