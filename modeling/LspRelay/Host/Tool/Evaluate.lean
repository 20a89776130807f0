import LspRelay.Host.Regex.Reader
import LspRelay.Host.Tool.Options

namespace LspRelay.Tool

open Process

namespace Evaluate

inductive Value where
  | number (n : Int)
  | text (bs : Bytes)
  deriving Repr, DecidableEq

namespace Value

def bytes : Value → Bytes
  | number n => signedDecimal n
  | text bs => bs

def plainNumber? (bs : Bytes) : Option Int :=
  if bs.head? = some Octet.plus then none else integer? bs

def number? : Value → Option Int
  | number n => some n
  | text bs => plainNumber? bs

def isNull : Value → Bool
  | number n => n = 0
  | text [] => true
  | text bs =>
    let digits := if bs.head? = some Octet.dash then bs.tail else bs
    digits ≠ [] && digits.all (· = Octet.zero)

def ofBool (b : Bool) : Value := number (if b then 1 else 0)

end Value

inductive Problem where
  | missingAfter (arg : Bytes)
  | unclosedAfter (arg : Bytes)
  | unclosedBefore (arg : Bytes)
  | unexpectedClosing
  | unexpected (arg : Bytes)
  | notAnInteger
  | divisionByZero
  | badPattern (p : Regex.Problem)

def Problem.message : Problem → Bytes
  | missingAfter arg => ofText "syntax error: missing argument after " ++ quoted arg
  | unclosedAfter arg => ofText "syntax error: expecting ')' after " ++ quoted arg
  | unclosedBefore arg => ofText "syntax error: expecting ')' instead of " ++ quoted arg
  | unexpectedClosing => ofText "syntax error: unexpected ')'"
  | unexpected arg => ofText "syntax error: unexpected argument " ++ quoted arg
  | notAnInteger => ofText "non-integer argument"
  | divisionByZero => ofText "division by zero"
  | badPattern p => ofText p.message

structure Reading where
  last : Bytes
  rest : List Bytes

abbrev Reader := StateT Reading (Except Problem)

def taken? (words : List String) : Reader (Option String) := do
  match (← get).rest with
  | arg :: rest =>
    match words.find? fun w => ofText w = arg with
    | some w =>
      set (Reading.mk arg rest)
      return some w
    | none => return none
  | [] => return none

def next : Reader Bytes := do
  let r ← get
  match r.rest with
  | arg :: rest =>
    set (Reading.mk arg rest)
    return arg
  | [] => throw (.missingAfter r.last)

def matched (value pattern : Value) : Except Problem Value :=
  match Regex.read ⟨false, true, false, false⟩ pattern.bytes with
  | .error p => .error (.badPattern p)
  | .ok r =>
    let bs := value.bytes
    match r.matchAt? (.ofBytes bs) 0, r.groupCount with
    | some m, 0 => .ok (.number m.whole.stop)
    | none, 0 => .ok (.number 0)
    | some m, _ =>
      .ok (.text (match m.groups.lookup 1 with
        | some s => (bs.take s.stop).drop s.start
        | none => []))
    | none, _ => .ok (.text [])

def indexOf (value others : Value) : Nat :=
  let bs := value.bytes
  match bs.findIdx? fun b => others.bytes.contains b with
  | some i => i + 1
  | none => 0

def part (value start length : Value) : Value :=
  match start.number?, length.number? with
  | some s, some n =>
    if s ≤ 0 ∨ n ≤ 0 then .text []
    else .text ((value.bytes.drop (s.toNat - 1)).take n.toNat)
  | _, _ => .text []

def isLess (a b : Bytes) : Bool := toChars a < toChars b

def compared (op : String) (a b : Value) : Bool :=
  let order : Ordering :=
    match Value.plainNumber? a.bytes, Value.plainNumber? b.bytes with
    | some m, some n => compare m n
    | _, _ =>
      if a.bytes = b.bytes then .eq else if isLess a.bytes b.bytes then .lt else .gt
  match op with
  | "<" => order = .lt
  | "<=" => order ≠ .gt
  | "!=" => order ≠ .eq
  | ">=" => order ≠ .lt
  | ">" => order = .gt
  | _ => order = .eq

def computed (op : String) (a b : Value) : Except Problem Value :=
  match a.number?, b.number? with
  | some m, some n =>
    match op with
    | "+" => .ok (.number (m + n))
    | "-" => .ok (.number (m - n))
    | "*" => .ok (.number (m * n))
    | "/" => if n = 0 then .error .divisionByZero else .ok (.number (m.tdiv n))
    | _ => if n = 0 then .error .divisionByZero else .ok (.number (m.tmod n))
  | _, _ => .error .notAnInteger

def levels : List (List String) :=
  [["|"], ["&"], ["<", "<=", "=", "==", "!=", ">=", ">"], ["+", "-"], ["*", "/", "%"], [":"]]

def applied (op : String) (a b : Value) : Except Problem Value :=
  match op with
  | "|" => .ok (if !a.isNull then a else if !b.isNull then b else .number 0)
  | "&" => .ok (if a.isNull || b.isNull then .number 0 else a)
  | ":" => matched a b
  | op =>
    if levels[2]?.any (·.contains op) then .ok (.ofBool (compared op a b)) else computed op a b

mutual

/-- An expression of a level and of all that bind more, of which nothing is computed if it does not
count. The fuel is more than the number of arguments and levels. -/
def expression : Nat → List (List String) → Bool → Reader Value
  | 0, _, _ => return .text []
  | fuel + 1, [], counts => word fuel counts
  | fuel + 1, ops :: inner, counts => do
    let first ← expression fuel inner counts
    further fuel ops inner counts first

def further : Nat → List String → List (List String) → Bool → Value → Reader Value
  | 0, _, _, _, a => return a
  | fuel + 1, ops, inner, counts, a => do
    match ← taken? ops with
    | none => return a
    | some op =>
      let matters := match op with
        | "|" => counts && a.isNull
        | "&" => counts && !a.isNull
        | _ => counts
      let b ← expression fuel inner matters
      let c ← if counts then
          (if matters then (applied op a b : Except Problem Value)
            else pure (if op = "|" then a else .number 0))
        else pure a
      further fuel ops inner counts c

def word : Nat → Bool → Reader Value
  | 0, _ => return .text []
  | fuel + 1, counts => do
    match ← taken? ["+", "length", "match", "index", "substr", "(", ")"] with
    | some "+" => return .text (← next)
    | some "length" => return .number (← word fuel counts).bytes.length
    | some "match" =>
      let a ← word fuel counts
      let b ← word fuel counts
      if counts then (matched a b : Except Problem Value) else return a
    | some "index" =>
      let a ← word fuel counts
      return .number (indexOf a (← word fuel counts))
    | some "substr" =>
      let a ← word fuel counts
      let start ← word fuel counts
      return part a start (← word fuel counts)
    | some "(" =>
      let v ← expression fuel levels counts
      let r ← get
      match r.rest with
      | [] => throw (.unclosedAfter r.last)
      | arg :: rest =>
        if arg = ofText ")" then
          set (Reading.mk arg rest)
          return v
        else throw (.unclosedBefore arg)
    | some _ => throw .unexpectedClosing
    | none => return .text (← next)

end

def evaluate (args : List Bytes) : Except Problem Value := do
  let (v, r) ← expression (9 * (args.length + 2)) levels true ⟨[], args⟩
  match r.rest with
  | [] => return v
  | arg :: _ => throw (.unexpected arg)

end Evaluate

def expr : Command := fun args => do
  let args := if args.head? = some (ofText "--") then args.tail else args
  if args = [] then missingOperand 2
  else
    match Evaluate.evaluate args with
    | .error p => fail 2 p.message
    | .ok v =>
      printLine v.bytes
      setStatus (if v.isNull then 1 else 0)

end LspRelay.Tool
