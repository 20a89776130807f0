import LspRelay.Host.Text.Octets

namespace LspRelay

structure OctetSet where
  ranges : List (UInt8 × UInt8)
  isNegated : Bool
  deriving Repr, DecidableEq

namespace OctetSet

def single (b : UInt8) : OctetSet := ⟨[(b, b)], false⟩

def all : OctetSet := ⟨[], true⟩

def negate (s : OctetSet) : OctetSet := { s with isNegated := !s.isNegated }

def contains (s : OctetSet) (b : UInt8) : Bool :=
  (s.ranges.any fun (least, most) => least ≤ b && b ≤ most) != s.isNegated

def ofName? (name : String) : Option (List (UInt8 × UInt8)) :=
  let range (a b : Char) : UInt8 × UInt8 := (octet a, octet b)
  let digit := [range '0' '9']
  let upper := [range 'A' 'Z']
  let lower := [range 'a' 'z']
  match name with
  | "alpha" => some (upper ++ lower)
  | "digit" => some digit
  | "alnum" => some (digit ++ upper ++ lower)
  | "upper" => some upper
  | "lower" => some lower
  | "space" => some [(9, 13), (32, 32)]
  | "blank" => some [(9, 9), (32, 32)]
  | "punct" => some [(33, 47), (58, 64), (91, 96), (123, 126)]
  | "print" => some [(32, 126)]
  | "graph" => some [(33, 126)]
  | "cntrl" => some [(0, 31), (127, 127)]
  | "xdigit" => some (digit ++ [range 'A' 'F', range 'a' 'f'])
  | _ => none

def word : OctetSet :=
  ⟨(ofName? "alnum").getD [] ++ [(octet '_', octet '_')], false⟩

def space : OctetSet := ⟨[(9, 13), (32, 32)], false⟩

def folded (s : OctetSet) : OctetSet :=
  let letters (from_ : UInt8) : List UInt8 :=
    (List.range 26).map fun n => from_ + UInt8.ofNat n
  let isIn (b : UInt8) : Bool := s.ranges.any fun (least, most) => least ≤ b && b ≤ most
  let pairs := (letters (octet 'a')).zip (letters (octet 'A'))
  let more := (pairs.filter fun (a, b) => isIn a != isIn b).flatMap fun (a, b) => [(a, a), (b, b)]
  { s with ranges := s.ranges ++ more }

end OctetSet

inductive Edge where
  | lineStart
  | lineEnd
  | textStart
  | textEnd
  | wordEdge
  | noWordEdge
  | wordStart
  | wordEnd
  deriving Repr, DecidableEq

inductive Regex where
  | empty
  | set (s : OctetSet)
  | edge (e : Edge)
  | followed (a b : Regex)
  | either (a b : Regex)
  | repeated (r : Regex) (least : Nat) (most : Option Nat)
  | group (number : Nat) (r : Regex)
  | again (number : Nat)
  deriving Repr, DecidableEq

/-- A text to search, in which lines may start and end at line feeds, or only where it does. -/
structure Subject where
  text : Array UInt8
  hasLines : Bool

structure Span where
  start : Nat
  stop : Nat
  deriving Repr, DecidableEq

structure Arrival where
  place : Nat
  groups : List (Nat × Span)
  deriving Repr, DecidableEq

structure Match where
  whole : Span
  groups : List (Nat × Span)
  deriving Repr, DecidableEq

namespace Subject

def ofBytes (bs : Bytes) : Subject := ⟨bs.toArray, false⟩

def isWord (t : Subject) (i : Nat) : Bool := (t.text[i]?.map OctetSet.word.contains).getD false

def hasEdge (t : Subject) (i : Nat) (e : Edge) : Bool :=
  let before := 0 < i && t.isWord (i - 1)
  let after := t.isWord i
  match e with
  | .textStart => i = 0
  | .textEnd => i = t.text.size
  | .lineStart => i = 0 || (t.hasLines && t.text[i - 1]? = some Octet.lineFeed)
  | .lineEnd => i = t.text.size || (t.hasLines && t.text[i]? = some Octet.lineFeed)
  | .wordEdge => before != after
  | .noWordEdge => before = after
  | .wordStart => !before && after
  | .wordEnd => before && !after

def runLength (t : Subject) (s : OctetSet) : Nat → Nat → Nat → Nat
  | 0, _, n => n
  | fuel + 1, i, n =>
    match t.text[i]? with
    | some b => if s.contains b then runLength t s fuel (i + 1) (n + 1) else n
    | none => n

/-- Whether a part of a text stands at a place once more. -/
def repeats (t : Subject) (e : Span) (i : Nat) : Bool :=
  i + (e.stop - e.start) ≤ t.text.size &&
    (List.range (e.stop - e.start)).all fun n => t.text[e.start + n]? = t.text[i + n]?

end Subject

namespace Regex

/-- What is reached after so many rounds as are possible, the longest runs first, added in front of
what has been reached before, the last one first. -/
def rounds (step : Arrival → List Arrival) (isBounded : Bool) :
    Nat → Arrival → List (Nat × Arrival) → List (Nat × Arrival)
  | 0, s, done => (0, s) :: done
  | fuel + 1, s, done =>
    let key := if isBounded then fuel + 1 else 0
    if done.contains (key, s) then done
    else
      let next := (step s).filter fun u => s.place < u.place
      (key, s) :: next.foldl (fun done u => rounds step isBounded fuel u done) done

def reach (t : Subject) : Regex → Arrival → List Arrival
  | empty, s => [s]
  | set o, s =>
    match t.text[s.place]? with
    | some b => if o.contains b then [{ s with place := s.place + 1 }] else []
    | none => []
  | edge e, s => if t.hasEdge s.place e then [s] else []
  | followed a b, s => ((reach t a s).flatMap (reach t b)).eraseDups
  | either a b, s => (reach t a s ++ reach t b s).eraseDups
  | repeated (set o) least most, s =>
    let bound := (most.getD t.text.size).min (t.text.size - s.place)
    let n := t.runLength o bound s.place 0
    if n < least then []
    else ((List.range (n + 1 - least)).map fun k => { s with place := s.place + n - k })
  | repeated r least most, s =>
    let first := (List.range least).foldl
      (fun (ss : List Arrival) _ => (ss.flatMap (reach t r)).eraseDups) [s]
    (first.flatMap fun s =>
      match most with
      | some most => ((rounds (reach t r) true (most - least) s []).reverse.map Prod.snd)
      | none =>
        ((rounds (reach t r) false (t.text.size - s.place + 1) s []).reverse.map
          Prod.snd)).eraseDups
  | group number r, s =>
    (reach t r s).map fun u =>
      { u with
        groups := (number, ⟨s.place, u.place⟩) :: u.groups.filter fun g => g.1 ≠ number }
  | again number, s =>
    match s.groups.lookup number with
    | some e =>
      if t.repeats e s.place then [{ s with place := s.place + (e.stop - e.start) }] else []
    | none => []

def matchAt? (r : Regex) (t : Subject) (i : Nat) : Option Match :=
  (r.reach t ⟨i, []⟩).foldl
    (fun best s =>
      match best with
      | some m => if m.whole.stop < s.place then some ⟨⟨i, s.place⟩, s.groups⟩ else best
      | none => some ⟨⟨i, s.place⟩, s.groups⟩)
    none

def search? (r : Regex) (t : Subject) (i : Nat) : Option Match :=
  (List.range' i (t.text.size + 1 - i)).findSome? (r.matchAt? t)

def isMatch (r : Regex) (bs : Bytes) : Bool := (r.search? (.ofBytes bs) 0).isSome

def hasAgain : Regex → Bool
  | again _ => true
  | followed a b => hasAgain a || hasAgain b
  | either a b => hasAgain a || hasAgain b
  | repeated r _ _ => hasAgain r
  | group _ r => hasAgain r
  | _ => false

/-- The expression with no groups, for where only the whole match counts. -/
def ungrouped (r : Regex) : Regex := if hasAgain r then r else go r
where
  go : Regex → Regex
    | followed a b => followed (go a) (go b)
    | either a b => either (go a) (go b)
    | repeated r least most => repeated (go r) least most
    | group _ r => go r
    | r => r

end Regex

end LspRelay
