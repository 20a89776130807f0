import LspRelay.Host.Process.Basic
import LspRelay.Host.Tool.Quoting

namespace LspRelay.Tool

open Process

inductive Takes where
  | nothing
  | value
  | optional
  deriving Repr, DecidableEq

/-- An option by its key, which is its letter if it has one, and by its name. -/
structure Choice where
  key : Char
  hasLetter : Bool
  name : String
  takes : Takes

def option (key : Char) (name : String) (takes : Takes) : Choice := ⟨key, true, name, takes⟩

def letters (s : String) (takes : Takes) : List Choice :=
  s.toList.map fun key => ⟨key, true, "", takes⟩

def named (key : Char) (name : String) (takes : Takes) : Choice := ⟨key, false, name, takes⟩

structure Chosen where
  options : List (Char × Bytes)
  operands : List Bytes

namespace Chosen

def has (c : Chosen) (key : Char) : Bool := c.options.any fun o => o.1 = key

def value? (c : Chosen) (key : Char) : Option Bytes :=
  (c.options.filter fun o => o.1 = key).getLast?.map Prod.snd

def values (c : Chosen) (key : Char) : List Bytes :=
  (c.options.filter fun o => o.1 = key).map Prod.snd

def last? (c : Chosen) (keys : List Char) : Option Char :=
  (c.options.filter fun o => o.1 ∈ keys).getLast?.map Prod.fst

def operandsOrInput (c : Chosen) : List Bytes :=
  if c.operands = [] then [[Octet.dash]] else c.operands

end Chosen

def readLetters (known : List Choice) : Bytes → List Bytes →
    Except Bytes (List (Char × Bytes) × List Bytes)
  | [], args => .ok ([], args)
  | b :: bs, args =>
    match known.find? fun c => c.hasLetter && octet c.key = b with
    | none => .error (ofText "invalid option -- " ++ between [b])
    | some c =>
      match c.takes with
      | .nothing => do
        let (options, args) ← readLetters known bs args
        return ((c.key, []) :: options, args)
      | .optional => .ok ([(c.key, bs)], args)
      | .value =>
        if bs ≠ [] then .ok ([(c.key, bs)], args)
        else
          match args with
          | value :: args => .ok ([(c.key, value)], args)
          | [] => .error (ofText "option requires an argument -- " ++ between [b])

def readName (known : List Choice) (arg : Bytes) (args : List Bytes) :
    Except Bytes ((Char × Bytes) × List Bytes) :=
  let name := arg.takeWhile (· ≠ Octet.equals)
  let value? := if arg.contains Octet.equals then some (arg.drop (name.length + 1)) else none
  let candidates := known.filter fun c => c.name ≠ "" && name.isPrefixOf (ofText c.name)
  let long (bs : Bytes) : Bytes := between (ofText "--" ++ bs)
  match (candidates.find? fun c => ofText c.name = name).toList ++ candidates with
  | [] => .error (ofText "unrecognized option " ++ long arg)
  | c :: cs =>
    if ofText c.name ≠ name ∧ cs.any fun d => d.key ≠ c.key then
      .error (ofText "option " ++ long arg ++ ofText " is ambiguous; possibilities:" ++
        candidates.flatMap fun c => Octet.space :: long (ofText c.name))
    else
      match c.takes, value? with
      | .nothing, some _ =>
        .error (ofText "option " ++ long (ofText c.name) ++ ofText " doesn't allow an argument")
      | .nothing, none => .ok ((c.key, []), args)
      | .optional, v => .ok ((c.key, v.getD []), args)
      | .value, some v => .ok ((c.key, v), args)
      | .value, none =>
        match args with
        | v :: args => .ok ((c.key, v), args)
        | [] =>
          .error (ofText "option " ++ long (ofText c.name) ++ ofText " requires an argument")

/-- Tells options from operands. Operands may stand between options unless they end them. The fuel
is the number of arguments. -/
def readOptions (known : List Choice) (mixed : Bool) : Nat → List Bytes → Except Bytes Chosen
  | 0, _ => .ok ⟨[], []⟩
  | _ + 1, [] => .ok ⟨[], []⟩
  | fuel + 1, arg :: args =>
    match arg with
    | [Octet.dash, Octet.dash] => .ok ⟨[], args⟩
    | Octet.dash :: Octet.dash :: name => do
      let (o, args) ← readName known name args
      let c ← readOptions known mixed fuel args
      return { c with options := o :: c.options }
    | Octet.dash :: b :: bs => do
      let (os, args) ← readLetters known (b :: bs) args
      let c ← readOptions known mixed fuel args
      return { c with options := os ++ c.options }
    | _ =>
      if mixed then do
        let c ← readOptions known mixed fuel args
        return { c with operands := arg :: c.operands }
      else .ok ⟨[], arg :: args⟩

def misuse (status : Nat) (text : Bytes) : Act Unit := do
  fail status text
  let label := (← get).label
  writeError (ofText "Try " ++ between (label ++ ofText " --help") ++
    ofText " for more information.\n")

def withOptions (known : List Choice) (status : Nat) (args : List Bytes) (f : Chosen → Act Unit) :
    Act Unit :=
  match readOptions known true (args.length + 1) args with
  | .ok c => f c
  | .error text => misuse status text

def withLeadingOptions (known : List Choice) (status : Nat) (args : List Bytes)
    (f : Chosen → Act Unit) : Act Unit :=
  match readOptions known false (args.length + 1) args with
  | .ok c => f c
  | .error text => misuse status text

def failOn (status : Nat) (file : Bytes) (e : SystemError) : Act Unit :=
  fail status (shownName file ++ ofText (": " ++ e.description))

def missingOperand (status : Nat) : Act Unit := misuse status (ofText "missing operand")

def missingAfter (status : Nat) (operand : Bytes) : Act Unit :=
  misuse status (ofText "missing operand after " ++ quoted operand)

def extraOperand (status : Nat) (operand : Bytes) : Act Unit :=
  misuse status (ofText "extra operand " ++ quoted operand)

end LspRelay.Tool
