import LspRelay.Host.Digest.Words

namespace LspRelay.Digest

namespace Sha1

structure State where
  a : UInt32
  b : UInt32
  c : UInt32
  d : UInt32
  e : UInt32

def State.initial : State := ⟨0x67452301, 0xefcdab89, 0x98badcfe, 0x10325476, 0xc3d2e1f0⟩

def turned (x n : UInt32) : UInt32 := x <<< n ||| x >>> (32 - n)

def schedule (bs : Bytes) : Array UInt32 :=
  let first := ((pieces 4 bs).map fun w => UInt32.ofNat (bigNumber w)).toArray
  (List.range 64).foldl
    (fun w i =>
      let earlier (k : Nat) : UInt32 := w.getD (i + 16 - k) 0
      w.push (turned (earlier 3 ^^^ earlier 8 ^^^ earlier 14 ^^^ earlier 16) 1))
    first

def step (words : Array UInt32) (s : State) (i : Nat) : State :=
  let (mixed, number) : UInt32 × UInt32 :=
    if i < 20 then ((s.b &&& s.c) ||| (~~~s.b &&& s.d), 0x5a827999)
    else if i < 40 then (s.b ^^^ s.c ^^^ s.d, 0x6ed9eba1)
    else if i < 60 then ((s.b &&& s.c) ||| (s.b &&& s.d) ||| (s.c &&& s.d), 0x8f1bbcdc)
    else (s.b ^^^ s.c ^^^ s.d, 0xca62c1d6)
  ⟨turned s.a 5 + mixed + s.e + number + words.getD i 0, s.a, turned s.b 30, s.c, s.d⟩

def block (s : State) (bs : Bytes) : State :=
  let t := (List.range 80).foldl (step (schedule bs)) s
  ⟨s.a + t.a, s.b + t.b, s.c + t.c, s.d + t.d, s.e + t.e⟩

end Sha1

def sha1 (bs : Bytes) : Bytes :=
  let s := (pieces 64 (filled 64 8 bigOctets bs)).foldl Sha1.block .initial
  [s.a, s.b, s.c, s.d, s.e].flatMap fun w => bigOctets 4 w.toNat

end LspRelay.Digest
