import LspRelay.Host.Shell.Condition
import LspRelay.Host.Tool.Options

namespace LspRelay.Tool.Judge

open Process

/-- Why the program cannot judge. -/
inductive Fault where
  | notWhole (arg : Bytes)
  | missingAfter (arg : Bytes)
  | unaryExpected (arg : Bytes)
  | binaryExpected (arg : Bytes)
  | extra (arg : Bytes)
  | closingExpected (found : Option Bytes)
  | bracketMissing
  deriving Repr, DecidableEq

def Fault.message : Fault → Bytes
  | notWhole arg => ofText "invalid integer " ++ quoted arg
  | missingAfter arg => ofText "missing argument after " ++ quoted arg
  | unaryExpected arg => quoted arg ++ ofText ": unary operator expected"
  | binaryExpected arg => quoted arg ++ ofText ": binary operator expected"
  | extra arg => ofText "extra argument " ++ quoted arg
  | closingExpected none => ofText "')' expected"
  | closingExpected (some arg) => ofText "')' expected, found " ++ quoted arg
  | bracketMissing => ofText "missing ']'"

abbrev Answer := Except Fault (Bool × List Bytes)

structure Case where
  process : Process
  args : List Bytes

namespace Case

def beyond (c : Case) : Fault := .missingAfter (c.args.getLast?.getD [])

def next (c : Case) : List Bytes → Except Fault (List Bytes)
  | _ :: b :: rest => .ok (b :: rest)
  | _ => .error c.beyond

end Case

def is (text : String) (arg : Bytes) : Bool := arg = ofText text

def isComparison (arg : Bytes) : Bool :=
  ["=", "!=", "==", "-nt", "-ot", "-ef", "-eq", "-ne", "-lt", "-le", "-gt", "-ge"].any (is · arg)

def isLetter : Bytes → Bool
  | [d, _] => d = Octet.dash
  | _ => false

def whole (bs : Bytes) : Except Fault Int :=
  let isSpace (b : UInt8) : Bool := b = Octet.space || (9 ≤ b && b ≤ 13)
  match integer? ((bs.dropWhile isSpace).reverse.dropWhile isSpace).reverse with
  | some n => .ok n
  | none => .error (.notWhole bs)

def amount : List Bytes → Except Fault Int
  | [l, text] => if is "-l" l then .ok text.length else whole text
  | args => whole (args.headD [])

def compare (c : Case) (left : List Bytes) (op : Bytes) (right : List Bytes) :
    Except Fault Bool := do
  let numbers (f : Int → Int → Bool) : Except Fault Bool :=
    return f (← amount left) (← amount right)
  if is "-eq" op then numbers fun a b => a = b
  else if is "-ne" op then numbers fun a b => a ≠ b
  else if is "-lt" op then numbers fun a b => a < b
  else if is "-le" op then numbers fun a b => a ≤ b
  else if is "-gt" op then numbers fun a b => b < a
  else if is "-ge" op then numbers fun a b => b ≤ a
  else
    let (a, b) := (left.headD [], right.headD [])
    let newer (a b : Bytes) : Bool :=
      let time? (path : Bytes) : Option Int := c.process.files.time? c.process.here path
      match time? a, time? b with
      | some s, some t => t < s
      | some _, none => true
      | none, _ => false
    if is "==" op then return a = b
    else if is "-nt" op then return newer a b
    else if is "-ot" op then return newer b a
    else return (Shell.Condition.binary c.process a op b).toOption.getD false

def comparison (c : Case) (leftLength : Bool) (args : List Bytes) : Answer := do
  let (left, args) := args.splitAt (if leftLength then 2 else 1)
  match args with
  | op :: l :: text :: rest =>
    let isNumeric := !(["=", "!=", "==", "-nt", "-ot", "-ef"].any (is · op))
    if is "-l" l && isNumeric then return (← compare c left op [l, text], rest)
    else return (← compare c left op [l], text :: rest)
  | op :: b :: rest => return (← compare c left op [b], rest)
  | _ => throw c.beyond

def question (c : Case) : List Bytes → Answer
  | op :: rest => do
    if !((ofText "abcdefghknprstuwxzGLNOS").contains (op.getLast?.getD 0)) then
      throw (.unaryExpected op)
    match rest with
    | [] => throw c.beyond
    | arg :: rest =>
      if is "-t" op then let _ ← whole arg
      if is "-N" op then return (false, rest)
      else return ((Shell.Condition.unary c.process op arg).toOption.getD false, rest)
  | [] => throw c.beyond

def one : List Bytes → Bool × List Bytes
  | [] => (false, [])
  | arg :: rest => (arg ≠ [], rest)

def two (c : Case) (args : List Bytes) : Answer :=
  match args with
  | op :: rest =>
    if is "!" op then .ok (!(one rest).1, (one rest).2)
    else if isLetter op then question c args
    else .error c.beyond
  | [] => .error c.beyond

mutual

def either (c : Case) : Nat → List Bytes → Answer
  | 0, _ => .error c.beyond
  | fuel + 1, args => do
    let (a, args) ← both c fuel args
    if args.head?.any (is "-o") then
      let (b, args) ← either c fuel args.tail
      return (a || b, args)
    else return (a, args)

def both (c : Case) : Nat → List Bytes → Answer
  | 0, _ => .error c.beyond
  | fuel + 1, args => do
    let (a, args) ← term c fuel args
    if args.head?.any (is "-a") then
      let (b, args) ← both c fuel args.tail
      return (a && b, args)
    else return (a, args)

def term (c : Case) : Nat → List Bytes → Answer
  | 0, _ => .error c.beyond
  | fuel + 1, args => do
    match args with
    | [] => throw c.beyond
    | a :: rest =>
      if is "!" a then
        let (answer, rest) ← term c fuel (← c.next args)
        return (!answer, rest)
      else if is "(" a then
        let inner ← c.next args
        let count := 1 + ((inner.drop 1).takeWhile fun b => !is ")" b).length
        let count := if count ≤ 4 then count else inner.length
        let (answer, rest) ← few c fuel count inner
        match rest with
        | [] => throw (.closingExpected none)
        | b :: rest => if is ")" b then return (answer, rest) else throw (.closingExpected b)
      else if is "-l" a && 4 ≤ args.length && (args[2]?).any isComparison then
        comparison c true args
      else if 3 ≤ args.length && rest.head?.any isComparison then comparison c false args
      else if isLetter a then question c args
      else return (one args)

def few (c : Case) : Nat → Nat → List Bytes → Answer
  | 0, _, _ => .error c.beyond
  | fuel + 1, count, args => do
    let first (text : String) : Bool := args.head?.any (is text)
    let nth (n : Nat) (text : String) : Bool := (args[n]?).any (is text)
    let three (args : List Bytes) : Answer := do
      match args with
      | a :: op :: rest =>
        if isComparison op then comparison c false args
        else if is "!" a then
          let (answer, rest) ← two c (op :: rest)
          return (!answer, rest)
        else if is "(" a && (rest.head?).any (is ")") then return (op ≠ [], rest.tail)
        else if is "-a" op || is "-o" op then either c fuel args
        else throw (.binaryExpected op)
      | _ => throw c.beyond
    match count with
    | 1 => return (one args)
    | 2 => two c args
    | 3 => three args
    | 4 =>
      if first "!" then
        let (answer, rest) ← three args.tail
        return (!answer, rest)
      else if first "(" && nth 3 ")" then
        let (answer, rest) ← two c args.tail
        return (answer, rest.tail)
      else either c fuel args
    | _ => either c fuel args

end

def answer (p : Process) (isBracket : Bool) (args : List Bytes) : Except Fault Bool := do
  if isBracket && !(args.getLast?.any (is "]")) then throw .bracketMissing
  let args := if isBracket then args.dropLast else args
  if args = [] then return false
  let (answer, rest) ← few ⟨p, args⟩ (8 * args.length + 8) args.length args
  match rest with
  | [] => return answer
  | arg :: _ => throw (.extra arg)

end Judge

open Process

def test (isBracket : Bool) : Command := fun args => do
  match Judge.answer (← get) isBracket args with
  | .ok answer => setStatus (if answer then 0 else 1)
  | .error fault => fail 2 fault.message

end LspRelay.Tool
