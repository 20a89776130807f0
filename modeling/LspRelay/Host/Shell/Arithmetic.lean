import LspRelay.Host.Text.Octets

namespace LspRelay.Shell.Arithmetic

inductive Token where
  | number (n : Int)
  | name (x : String)
  | symbol (s : String)
  | ending
  deriving Repr, DecidableEq

inductive Error where
  | expectingPrimary
  | expectingClosing
  | expectingColon
  | expectingEnd
  | divisionByZero
  | illegalNumber (text : Bytes)
  | notSet (name : String)
  deriving Repr, DecidableEq

def Error.message (sum : Bytes) (e : Error) : Bytes :=
  let about (text : String) : Bytes :=
    ofText ("arithmetic expression: " ++ text ++ ": \"") ++ sum ++ [Octet.doubleQuote]
  match e with
  | expectingPrimary => about "expecting primary"
  | expectingClosing => about "expecting ')'"
  | expectingColon => about "expecting ':'"
  | expectingEnd => about "expecting EOF"
  | divisionByZero => about "division by zero"
  | illegalNumber text => ofText "Illegal number: " ++ text
  | notSet name => ofText (name ++ ": parameter not set")

def levels : List (List String) :=
  [["*", "/", "%"], ["+", "-"], ["<<", ">>"], ["<", "<=", ">", ">="], ["==", "!="], ["&"], ["^"],
   ["|"]]

/-- How weak an operator is, if it is one between two numbers. -/
def weakness? (s : String) : Option Nat := levels.findIdx? fun level => s ∈ level

def assignments : List (String × String) :=
  ("=", "") :: (["*", "/", "%", "+", "-", "<<", ">>", "&", "^", "|"].map fun s => (s ++ "=", s))

def symbols : List String :=
  ["<<=", ">>=", "<<", ">>", "<=", ">=", "==", "!=", "&&", "||", "*=", "/=", "%=", "+=", "-=", "&=",
   "^=", "|=", "<", ">", "=", "!", "&", "|", "*", "/", "%", "+", "-", "^", "~", "(", ")", "?", ":"]

def clamp (negative : Bool) (n : Nat) : Int :=
  if negative then -(min n (Nat.pow 2 63) : Nat) else (min n (Nat.pow 2 63 - 1) : Nat)

def digitValue (c : Char) : Nat :=
  if c.isDigit then c.toNat - 48
  else if c.isLower then c.toNat - 87
  else if c.isUpper then c.toNat - 55
  else 36

def digitsIn (base : Nat) (cs : List Char) : List Char × List Char :=
  (cs.takeWhile fun c => digitValue c < base, cs.dropWhile fun c => digitValue c < base)

/-- A number without a sign at the front, in decimal digits, in octal ones after a zero, or in
hexadecimal ones after a zero and an x; and what follows it. -/
def natural? (cs : List Char) : Option (Nat × List Char) :=
  let value (base : Nat) (digits : List Char) : Nat :=
    digits.foldl (fun n c => n * base + digitValue c) 0
  match cs with
  | '0' :: x :: c :: rest =>
    if (x = 'x' ∨ x = 'X') ∧ digitValue c < 16 then
      let (digits, rest) := digitsIn 16 (c :: rest)
      some (value 16 digits, rest)
    else
      let (digits, rest) := digitsIn 8 cs
      some (value 8 digits, rest)
  | '0' :: rest =>
    let (digits, rest) := digitsIn 8 ('0' :: rest)
    some (value 8 digits, rest)
  | c :: _ =>
    if c.isDigit then
      let (digits, rest) := digitsIn 10 cs
      some (value 10 digits, rest)
    else none
  | [] => none

def isSpace (c : Char) : Bool := c = ' ' || ('\t' ≤ c && c ≤ '\r')

def valueOf (bs : Bytes) : Except Error Int :=
  let cs := (toChars bs).dropWhile isSpace
  let (negative, digits) : Bool × List Char := match cs with
    | '-' :: cs => (true, cs)
    | '+' :: cs => (false, cs)
    | cs => (false, cs)
  match natural? digits with
  | none => if (toChars bs).all isSpace then .ok 0 else .error (.illegalNumber bs)
  | some (n, rest) =>
    let limit := if negative then Nat.pow 2 63 else Nat.pow 2 63 - 1
    if rest.all isSpace ∧ n ≤ limit then .ok (clamp negative n)
    else .error (.illegalNumber bs)

def nextToken (cs : List Char) : Option (Token × List Char) :=
  let cs := cs.dropWhile fun c => c = ' ' || c = '\t' || c = '\n'
  match cs with
  | [] => some (.ending, [])
  | c :: _ =>
    if c.isAlpha ∨ c = '_' then
      let isPart (c : Char) : Bool := c.isAlphanum || c = '_'
      some (.name (String.ofList (cs.takeWhile isPart)), cs.dropWhile isPart)
    else
      match natural? cs with
      | some (n, rest) => some (.number (clamp false n), rest)
      | none =>
        (symbols.find? fun s => s.toList.isPrefixOf cs).map fun s => (.symbol s, cs.drop s.length)

def wrapped (n : Int) : Int := (BitVec.ofInt 64 n).toInt

def ofBool (b : Bool) : Int := if b then 1 else 0

def apply (op : String) (a b : Int) : Except Error Int :=
  let bits (f : BitVec 64 → BitVec 64 → BitVec 64) : Int :=
    (f (BitVec.ofInt 64 a) (BitVec.ofInt 64 b)).toInt
  let places := (b % 64).toNat
  match op with
  | "|" => .ok (bits (· ||| ·))
  | "^" => .ok (bits (· ^^^ ·))
  | "&" => .ok (bits (· &&& ·))
  | "==" => .ok (ofBool (a = b))
  | "!=" => .ok (ofBool (a ≠ b))
  | "<=" => .ok (ofBool (a ≤ b))
  | ">=" => .ok (ofBool (b ≤ a))
  | "<" => .ok (ofBool (a < b))
  | ">" => .ok (ofBool (b < a))
  | "<<" => .ok (wrapped (a * Nat.pow 2 places))
  | ">>" => .ok (a / Nat.pow 2 places)
  | "+" => .ok (wrapped (a + b))
  | "-" => .ok (wrapped (a - b))
  | "*" => .ok (wrapped (a * b))
  | "/" => if b = 0 then .error .divisionByZero else .ok (wrapped (a.tdiv b))
  | "%" => if b = 0 then .error .divisionByZero else .ok (a.tmod b)
  | _ => .ok b

/-- The tokens that are left: the one that comes next, and the text after it; and the parameters set
so far, the newest first. -/
structure State where
  token : Token
  rest : List Char
  set : List (String × Int)

abbrev Sum := StateT State (Except Error)

def take : Sum Token := do
  let s ← get
  match nextToken s.rest with
  | some (token, rest) =>
    set { s with token, rest }
    return s.token
  | none =>
    set { s with token := .symbol "", rest := s.rest.drop 1 }
    return s.token

mutual

def primary (value : String → Except Error Int) : Nat → Bool → Sum Int
  | 0, _ => throw .expectingPrimary
  | fuel + 1, needed => do
    match ← take with
    | .number n => return n
    | .name x =>
      if !needed then return 0
      match (← get).set.lookup x with
      | some n => return n
      | none => value x
    | .symbol "(" =>
      let n ← assignment value fuel needed
      if (← get).token ≠ .symbol ")" then throw .expectingClosing
      let _ ← take
      return n
    | .symbol "+" => primary value fuel needed
    | .symbol "-" => return wrapped (-(← primary value fuel needed))
    | .symbol "!" => return ofBool ((← primary value fuel needed) = 0)
    | .symbol "~" => return -(← primary value fuel needed) - 1
    | _ => throw .expectingPrimary

def further (value : String → Except Error Int) : Nat → Bool → Nat → Int → Sum Int
  | 0, _, _, _ => throw .expectingPrimary
  | fuel + 1, needed, limit, a => do
    match (← get).token with
    | .symbol op =>
      match weakness? op with
      | some weakness =>
        if limit < weakness then return a
        let _ ← take
        let b ← primary value fuel needed
        let b ← if weakness = 0 then pure b else further value fuel needed (weakness - 1) b
        let n ← if needed then monadLift (apply op a b) else pure b
        further value fuel needed limit n
      | none => return a
    | _ => return a

/-- Conditions of which the second is evaluated if the first does not decide. -/
def conjunction (value : String → Except Error Int) : Nat → Bool → Sum Int
  | 0, _ => throw .expectingPrimary
  | fuel + 1, needed => do
    let a ← further value fuel needed levels.length (← primary value fuel needed)
    if (← get).token = .symbol "&&" then
      let _ ← take
      let b ← conjunction value fuel (needed && a ≠ 0)
      return ofBool (a ≠ 0 && b ≠ 0)
    else return a

def disjunction (value : String → Except Error Int) : Nat → Bool → Sum Int
  | 0, _ => throw .expectingPrimary
  | fuel + 1, needed => do
    let a ← conjunction value fuel needed
    if (← get).token = .symbol "||" then
      let _ ← take
      let b ← disjunction value fuel (needed && a = 0)
      return ofBool (a ≠ 0 || b ≠ 0)
    else return a

def choice (value : String → Except Error Int) : Nat → Bool → Sum Int
  | 0, _ => throw .expectingPrimary
  | fuel + 1, needed => do
    let a ← disjunction value fuel needed
    if (← get).token = .symbol "?" then
      let _ ← take
      let b ← assignment value fuel (needed && a ≠ 0)
      if (← get).token ≠ .symbol ":" then throw .expectingColon
      let _ ← take
      let c ← choice value fuel (needed && a = 0)
      return if a ≠ 0 then b else c
    else return a

def assignment (value : String → Except Error Int) : Nat → Bool → Sum Int
  | 0, _ => throw .expectingPrimary
  | fuel + 1, needed => do
    let s ← get
    match s.token, nextToken s.rest with
    | .name x, some (.symbol op, _) =>
      match assignments.lookup op with
      | some op =>
        let _ ← take
        let _ ← take
        let b ← assignment value fuel needed
        if !needed then return b
        let before ← if op = "" then pure 0 else
          match (← get).set.lookup x with
          | some n => pure n
          | none => value x
        let n ← monadLift (apply op before b)
        modify fun s => { s with set := (x, n) :: s.set }
        return n
      | none => choice value fuel needed
    | _, _ => choice value fuel needed

end

def evaluate (value : String → Except Error Int) (bs : Bytes) :
    Except Error (Int × List (String × Int)) := do
  let cs := toChars bs
  let whole : Sum Int := do
    let _ ← take
    let n ← assignment value (16 * cs.length + 64) true
    if (← get).token ≠ .ending then throw .expectingEnd
    return n
  let (n, s) ← whole.run ⟨.ending, cs, []⟩
  return (n, s.set)

end LspRelay.Shell.Arithmetic
