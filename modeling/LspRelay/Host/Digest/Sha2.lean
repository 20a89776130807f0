import LspRelay.Host.Digest.Words

namespace LspRelay.Digest

namespace Sha2

/-- The largest number whose power is not above a number, told bit by bit from a place down. -/
def root (power n : Nat) : Nat → Nat → Nat
  | 0, r => r
  | k + 1, r =>
    let higher := r + Nat.pow 2 k
    root power n k (if Nat.pow higher power ≤ n then higher else r)

def primes (count : Nat) : List Nat :=
  let isPrime (n : Nat) : Bool := (List.range n).all fun d => d < 2 || n % d ≠ 0
  ((List.range 420).filter fun n => 2 ≤ n && isPrime n).take count

def fraction (power bits n : Nat) : Nat :=
  root power (n * Nat.pow 2 (power * bits)) (bits + 5) 0 % Nat.pow 2 bits

/-- What is different between the widths: by how much words are turned, and shifted at last, and the
numbers of the rounds. -/
structure Shape (w : Nat) where
  large : List Nat × List Nat
  small : (List Nat × Nat) × (List Nat × Nat)
  numbers : Array (BitVec w)

def narrow : Shape 32 :=
  { large := ([2, 13, 22], [6, 11, 25])
    small := (([7, 18], 3), ([17, 19], 10))
    numbers := ((primes 64).map fun p => BitVec.ofNat 32 (fraction 3 32 p)).toArray }

def wide : Shape 64 :=
  { large := ([28, 34, 39], [14, 18, 41])
    small := (([1, 8], 7), ([19, 61], 6))
    numbers := ((primes 80).map fun p => BitVec.ofNat 64 (fraction 3 64 p)).toArray }

variable {w : Nat}

def turned (amounts : List Nat) (x : BitVec w) : BitVec w :=
  amounts.foldl (fun y n => y ^^^ x.rotateRight n) 0

def shifted (amounts : List Nat × Nat) (x : BitVec w) : BitVec w :=
  turned amounts.1 x ^^^ x >>> amounts.2

def schedule (shape : Shape w) (bs : Bytes) : Array (BitVec w) :=
  let first := ((pieces (w / 8) bs).map fun word => BitVec.ofNat w (bigNumber word)).toArray
  (List.range (shape.numbers.size - 16)).foldl
    (fun words i =>
      let earlier (k : Nat) : BitVec w := words.getD (i + 16 - k) 0
      words.push (earlier 16 + shifted shape.small.1 (earlier 15) + earlier 7 +
        shifted shape.small.2 (earlier 2)))
    first

def step (shape : Shape w) (words : Array (BitVec w)) (s : List (BitVec w)) (i : Nat) :
    List (BitVec w) :=
  match s with
  | [a, b, c, d, e, f, g, h] =>
    let first := h + turned shape.large.2 e + ((e &&& f) ^^^ (~~~e &&& g)) +
      shape.numbers.getD i 0 + words.getD i 0
    let second := turned shape.large.1 a + ((a &&& b) ^^^ (a &&& c) ^^^ (b &&& c))
    [first + second, a, b, c, d + first, e, f, g]
  | s => s

def block (shape : Shape w) (s : List (BitVec w)) (bs : Bytes) : List (BitVec w) :=
  let words := schedule shape bs
  let t := (List.range shape.numbers.size).foldl (step shape words) s
  List.zipWith (· + ·) s t

def words (shape : Shape w) (start : List (BitVec w)) (bs : Bytes) : Bytes :=
  let state := (pieces (2 * w) (filled (2 * w) (w / 4) bigOctets bs)).foldl (block shape) start
  state.flatMap fun x => bigOctets (w / 8) x.toNat

def roots (bits skipped : Nat) : List Nat :=
  ((primes (skipped + 8)).drop skipped).map (fraction 2 bits)

end Sha2

def sha256 (bs : Bytes) : Bytes :=
  Sha2.words Sha2.narrow ((Sha2.roots 32 0).map (BitVec.ofNat 32)) bs

def sha224 (bs : Bytes) : Bytes :=
  (Sha2.words Sha2.narrow ((Sha2.roots 64 8).map (BitVec.ofNat 32)) bs).take 28

def sha512 (bs : Bytes) : Bytes :=
  Sha2.words Sha2.wide ((Sha2.roots 64 0).map (BitVec.ofNat 64)) bs

def sha384 (bs : Bytes) : Bytes :=
  (Sha2.words Sha2.wide ((Sha2.roots 64 8).map (BitVec.ofNat 64)) bs).take 48

end LspRelay.Digest
