import LspRelay.Host.Text.Octets

namespace LspRelay.Shell

inductive Member where
  | range (low high : UInt8)
  | named (name : String)
  deriving Repr, DecidableEq

inductive Glob where
  | one (b : UInt8)
  | any
  | many
  | set (negated : Bool) (members : List Member)
  deriving Repr, DecidableEq

def octetClasses : List (String × (UInt8 → Bool)) :=
  let lower (b : UInt8) : Bool := 97 ≤ b && b ≤ 122
  let upper (b : UInt8) : Bool := 65 ≤ b && b ≤ 90
  let digit (b : UInt8) : Bool := 48 ≤ b && b ≤ 57
  let alnum (b : UInt8) : Bool := lower b || upper b || digit b
  let graph (b : UInt8) : Bool := 33 ≤ b && b ≤ 126
  [("alnum", alnum), ("alpha", fun b => lower b || upper b), ("blank", fun b => b = 9 || b = 32),
   ("cntrl", fun b => b < 32 || b = 127), ("digit", digit), ("graph", graph), ("lower", lower),
   ("print", fun b => 32 ≤ b && b ≤ 126), ("punct", fun b => graph b && !alnum b),
   ("space", fun b => (9 ≤ b && b ≤ 13) || b = 32), ("upper", upper),
   ("xdigit", fun b => digit b || (97 ≤ b && b ≤ 102) || (65 ≤ b && b ≤ 70))]

def isInClass (name : String) (b : UInt8) : Bool :=
  match octetClasses.lookup name with
  | some f => f b
  | none => false

namespace Glob

def className? (bs : Bytes) : Option (String × Nat) :=
  (octetClasses.find? fun c => (ofText (":" ++ c.1 ++ ":]")).isPrefixOf bs).map fun c =>
    (c.1, c.1.length + 3)

/-- The members of a set up to its bracket; a bracket that comes first is a member. The fuel is the
number of octets. -/
def readMembers : Nat → Bool → Bytes → Option (List Member × Bytes)
  | 0, _, _ => none
  | _ + 1, _, [] => none
  | fuel + 1, first, b :: bs =>
    if b = Octet.closeBracket ∧ !first then some ([], bs)
    else
      let more (m : Member) (rest : Bytes) : Option (List Member × Bytes) :=
        (readMembers fuel false rest).map fun (ms, rest) => (m :: ms, rest)
      match if b = Octet.openBracket then className? bs else none with
      | some (name, n) => more (.named name) (bs.drop n)
      | none =>
        let (low, bs) : UInt8 × Bytes := match b, bs with
          | Octet.backslash, c :: bs => (c, bs)
          | b, bs => (b, bs)
        match bs with
        | Octet.dash :: Octet.closeBracket :: _ => more (.range low low) bs
        | Octet.dash :: Octet.backslash :: high :: rest => more (.range low high) rest
        | Octet.dash :: high :: rest => more (.range low high) rest
        | bs => more (.range low low) bs

def readSet (bs : Bytes) : Option (Glob × Bytes) :=
  let negated := bs.head? = some (octet '!') || bs.head? = some (octet '^')
  let body := if negated then bs.drop 1 else bs
  (readMembers (body.length + 1) true body).map fun (members, rest) => (set negated members, rest)

def read : Nat → Bytes → List Glob
  | 0, _ => []
  | _ + 1, [] => []
  | fuel + 1, b :: bs =>
    if b = Octet.backslash then
      match bs with
      | c :: bs => one c :: read fuel bs
      | [] => [one b]
    else if b = octet '*' then many :: read fuel bs
    else if b = octet '?' then any :: read fuel bs
    else if b = Octet.openBracket then
      match readSet bs with
      | some (g, rest) => g :: read fuel rest
      | none => one b :: read fuel bs
    else one b :: read fuel bs

def ofBytes (bs : Bytes) : List Glob := read (bs.length + 1) bs

def inRange (low high b : UInt8) : Bool :=
  let rank (b : UInt8) : UInt8 := b + 128
  rank low ≤ rank b && rank b ≤ rank high

def Member.holds (b : UInt8) : Member → Bool
  | .range low high => inRange low high b
  | .named name => isInClass name b

def matchesOctet (b : UInt8) : Glob → Bool
  | one c => b = c
  | any => true
  | many => true
  | set negated members => negated != members.any (Member.holds b)

def matchesAll : List Glob → Bytes → Bool
  | [], bs => bs = []
  | many :: gs, [] => matchesAll gs []
  | many :: gs, b :: bs => matchesAll gs (b :: bs) || matchesAll (many :: gs) bs
  | g :: gs, b :: bs => matchesOctet b g && matchesAll gs bs
  | _ :: _, [] => false

def frontLength? (gs : List Glob) (longest : Bool) (bs : Bytes) : Option Nat :=
  let lengths := (List.range (bs.length + 1)).filter fun n => matchesAll gs (bs.take n)
  if longest then lengths.getLast? else lengths.head?

def keptLength? (gs : List Glob) (longest : Bool) (bs : Bytes) : Option Nat :=
  let lengths := (List.range (bs.length + 1)).filter fun n => matchesAll gs (bs.drop n)
  if longest then lengths.head? else lengths.getLast?

/-- A value without what a pattern takes of one end. -/
def trimmed (front longest : Bool) (pattern : List Glob) (value : Bytes) : Bytes :=
  if front then
    match frontLength? pattern longest value with
    | some n => value.drop n
    | none => value
  else
    match keptLength? pattern longest value with
    | some n => value.take n
    | none => value

end Glob

end LspRelay.Shell
