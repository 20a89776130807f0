import LspRelay.Host.Process.Basic

namespace LspRelay.Shell.Condition

inductive Error where
  | illegalNumber (arg : Bytes)
  | unexpectedOperator (arg : Bytes)
  | argumentExpected (op : Bytes)
  | closingExpected
  | missingBracket
  deriving Repr, DecidableEq

def Error.message : Error → Bytes
  | illegalNumber arg => ofText "Illegal number: " ++ arg
  | unexpectedOperator arg => arg ++ ofText ": unexpected operator"
  | argumentExpected op => op ++ ofText ": argument expected"
  | closingExpected => ofText "closing paren expected"
  | missingBracket => ofText "missing ]"

inductive Token where
  | unary
  | binary
  | not
  | both
  | either
  | opening
  | closing
  | operand
  | ending
  deriving Repr, DecidableEq

def unaryOperators : List String :=
  ["-r", "-w", "-x", "-e", "-f", "-d", "-c", "-b", "-p", "-u", "-g", "-k", "-s", "-t", "-z", "-n",
   "-h", "-O", "-G", "-L", "-S"]

def binaryOperators : List String :=
  ["=", "!=", "<", ">", "-eq", "-ne", "-ge", "-gt", "-le", "-lt", "-nt", "-ot", "-ef"]

def kindOf (arg : Bytes) : Token :=
  if unaryOperators.any fun op => ofText op = arg then .unary
  else if binaryOperators.any fun op => ofText op = arg then .binary
  else if arg = ofText "!" then .not
  else if arg = ofText "-a" then .both
  else if arg = ofText "-o" then .either
  else if arg = ofText "(" then .opening
  else if arg = ofText ")" then .closing
  else .operand

def tokenOf : List Bytes → Token
  | [] => .ending
  | arg :: args =>
    match kindOf arg, args with
    | .unary, [] => .operand
    | .unary, next :: _ :: _ => if kindOf next = .binary then .operand else .unary
    | .opening, [] => .operand
    | t, _ => t

def whole (bs : Bytes) : Except Error Int :=
  let isSpace (b : UInt8) : Bool := b = Octet.space || (9 ≤ b && b ≤ 13)
  let trimmed := ((bs.dropWhile isSpace).reverse.dropWhile isSpace).reverse
  match integer? trimmed with
  | some n => if -(Nat.pow 2 63) ≤ n ∧ n < Nat.pow 2 63 then .ok n else .error (.illegalNumber bs)
  | none => .error (.illegalNumber bs)

/-- What a path leads to, if it does; a stream is there if it is open. -/
def node? (p : Process) (path : Bytes) : Option Node :=
  match p.files.node? p.here path with
  | some (.device (.stream n)) => (p.stream? n).map fun _ => .device (.stream n)
  | n => n

def isFile : Node → Bool
  | .file .. => true
  | .program _ => true
  | _ => false

def isLink : Node → Bool
  | .link _ => true
  | _ => false

def isDevice : Node → Bool
  | .device (.stream _) => false
  | .device _ => true
  | _ => false

def isFilled (files : Files) : Node → Bool
  | .file content _ => files.bytesOf content ≠ []
  | n => isFile n || n.isDirectory

def isPipe (p : Process) : Node → Bool
  | .pipe .. => true
  | .device (.stream k) =>
    match p.stream? k with
    | some (.source n) => (p.feed? n).any fun f => !f.isFile
    | some (.both n) => (p.pipe? n).isSome
    | some (.target .errors) => true
    | some (.target (.pipe _)) => true
    | _ => false
  | _ => false

def unary (p : Process) (op arg : Bytes) : Except Error Bool := do
  let is (f : Node → Bool) : Bool := (node? p arg).any f
  match String.ofList (toChars op) with
  | "-z" => return arg = []
  | "-n" => return arg ≠ []
  | "-t" => do
    let _ ← whole arg
    return false
  | "-h" => return (p.files.entry? p.here arg).any isLink
  | "-L" => return (p.files.entry? p.here arg).any isLink
  | "-f" => return is isFile
  | "-d" => return is Node.isDirectory
  | "-c" => return is isDevice
  | "-p" => return is (isPipe p)
  | "-s" => return is (isFilled p.files)
  | "-x" => return is fun n => n.isDirectory || n.mode &&& 0o111 ≠ 0
  | "-u" => return is fun n => n.mode &&& 0o4000 ≠ 0
  | "-g" => return is fun n => n.mode &&& 0o2000 ≠ 0
  | "-k" => return is fun n => n.mode &&& 0o1000 ≠ 0
  | "-b" => return false
  | "-S" => return false
  | _ => return is fun _ => true

def octetsBefore : Bytes → Bytes → Bool
  | [], [] => false
  | [], _ :: _ => true
  | _ :: _, [] => false
  | a :: as, b :: bs => a < b || (a = b && octetsBefore as bs)

/-- Whether something is newer than something else. Both have to be there. -/
def isNewer (p : Process) (a b : Bytes) : Bool :=
  match p.files.time? p.here a, p.files.time? p.here b with
  | some s, some t => t < s
  | _, _ => false

def binary (p : Process) (a op b : Bytes) : Except Error Bool := do
  match String.ofList (toChars op) with
  | "=" => return a = b
  | "!=" => return a ≠ b
  | "<" => return octetsBefore a b
  | ">" => return octetsBefore b a
  | "-eq" => return (← whole a) = (← whole b)
  | "-ne" => return (← whole a) ≠ (← whole b)
  | "-ge" => return (← whole b) ≤ (← whole a)
  | "-gt" => return (← whole b) < (← whole a)
  | "-le" => return (← whole a) ≤ (← whole b)
  | "-lt" => return (← whole a) < (← whole b)
  | "-nt" => return isNewer p a b
  | "-ot" => return isNewer p b a
  | "-ef" => return p.files.areSame p.here a b
  | _ => return false

abbrev Answer := Except Error (Bool × List Bytes)

mutual

def either (p : Process) : Nat → List Bytes → Answer
  | 0, args => .ok (false, args)
  | fuel + 1, args => do
    let (a, args) ← both p fuel args
    if tokenOf args.tail = .either then
      let (b, args) ← either p fuel (args.drop 2)
      return (a || b, args)
    else return (a, args)

def both (p : Process) : Nat → List Bytes → Answer
  | 0, args => .ok (false, args)
  | fuel + 1, args => do
    let (a, args) ← negated p fuel args
    if tokenOf args.tail = .both then
      let (b, args) ← both p fuel (args.drop 2)
      return (a && b, args)
    else return (a, args)

def negated (p : Process) : Nat → List Bytes → Answer
  | 0, args => .ok (false, args)
  | fuel + 1, args => do
    if tokenOf args = .not ∧ args.tail ≠ [] then
      let (a, args) ← negated p fuel args.tail
      return (!a, args)
    else if tokenOf args = .not then return (true, args)
    else primary p fuel args

def primary (p : Process) : Nat → List Bytes → Answer
  | 0, args => .ok (false, args)
  | fuel + 1, args => do
    match args with
    | [] => return (false, [])
    | a :: rest =>
      match tokenOf args with
      | .opening =>
        if tokenOf rest = .closing then return (false, rest)
        else
          let (answer, args) ← either p fuel rest
          if tokenOf args.tail = .closing then return (answer, args.tail)
          else throw .closingExpected
      | .unary =>
        match rest with
        | [] => throw (.argumentExpected a)
        | b :: _ => return (← unary p a b, rest)
      | _ =>
        match rest with
        | op :: more =>
          if tokenOf rest = .binary then
            match more with
            | b :: _ => return (← binary p a op b, more)
            | [] => throw (.argumentExpected op)
          else return (a ≠ [], args)
        | [] => return (a ≠ [], args)

end

def evaluate (p : Process) : Nat → List Bytes → Except Error Bool
  | 0, _ => .ok false
  | fuel + 1, args =>
    let finished (answer : Answer) : Except Error Bool := do
      match ← answer with
      | (_, a :: _ :: _) => throw (.unexpectedOperator a)
      | (answer, _) => return answer
    let further : Except Error Bool :=
      if args.length = 3 ∨ args.length = 4 then
        if args.head? = some (ofText "(") ∧ args.getLast? = some (ofText ")") then
          finished (either p (8 * args.length + 8) args.tail.dropLast)
        else if args.head? = some (ofText "!") then (evaluate p fuel args.tail).map (!·)
        else finished (either p (8 * args.length + 8) args)
      else finished (either p (8 * args.length + 8) args)
    match args with
    | [] => .ok false
    | [a, op, b] => if kindOf op = .binary then binary p a op b else further
    | _ => further

def answer (p : Process) (bracket : Bool) (args : List Bytes) : Except Error Bool :=
  if bracket then
    if args.getLast? = some (ofText "]") then evaluate p (args.length + 1) args.dropLast
    else .error .missingBracket
  else evaluate p (args.length + 1) args

end LspRelay.Shell.Condition
