import LspRelay.CommandLine.Settings
import LspRelay.CommandLine.Usage

namespace LspRelay.CommandLine

/-- Whether an interpreter's name is still to come, or has come in an argument of its own and is
taken over when the next argument is read. -/
inductive Pending where
  | nothing
  | awaited
  | held (value : String)
  deriving Repr, DecidableEq

/-- What the switches so far have set, and in which order they are listed. -/
structure Seen where
  verbose : Nat
  interpreter : Option String
  pending : Pending
  given : List Switch
  deriving Repr, DecidableEq

namespace Seen

def start : Seen := ⟨0, none, .nothing, []⟩

def giveInterpreter (s : Seen) (value : String) : Except Refusal Seen :=
  if s.interpreter.isSome then .error .repeatedInterpreter
  else .ok { s with interpreter := some value, given := s.given ++ [.interpreter] }

/-- Takes over what is pending. A name that has not come by now is missing. -/
def settle (s : Seen) : Except Refusal Seen :=
  match s.pending with
  | .nothing => .ok s
  | .awaited => .error .missingInterpreter
  | .held value => { s with pending := .nothing }.giveInterpreter value

/-- A repeated switch is listed where it was given last. The count stops at an octet's limit. -/
def addVerbose (s : Seen) : Seen :=
  { s with
    verbose := min 255 (s.verbose + 1)
    given := s.given.filter (· ≠ .verbose) ++ [.verbose] }

end Seen

/-- A switch without a value. -/
def apply (env : Option String) (s : Seen) : Switch → Except Refusal Seen
  | .verbose => .ok s.addVerbose
  | .interpreter => .ok { s with pending := .awaited }
  | .help => .error (.help env)
  | .version => .error .version

/-- Reads switches up to the server. The separator ends them without being a word itself, and no
word before it can still be taken for an interpreter's name. -/
def readSwitches (env : Option String) (s : Seen) : List String →
    Except Refusal (Seen × List String)
  | [] => do return (← s.settle, [])
  | arg :: args =>
    match Argument.ofArgument arg with
    | .separator => do return (← s.settle, args)
    | .group switches => do
      let s ← switches.foldlM (apply env) (← s.settle)
      readSwitches env s args
    | .long switch => do
      let s ← apply env (← s.settle) switch
      readSwitches env s args
    | .assigned .interpreter value => do
      let s ← (← s.settle).giveInterpreter value
      readSwitches env s args
    | .assigned switch value => .error (.unexpectedValue value switch s.given)
    | .word w =>
      if s.pending = .awaited then readSwitches env { s with pending := .held w } args
      else do return (← s.settle, w :: args)

/-- The settings of a command line, where `env` is what the environment says of the
interpreter. A switch outdoes the variable, and an empty name stands for no interpreter. -/
def parse (env : Option String) (args : List String) : Except Refusal Settings := do
  let (s, rest) ← readSwitches env .start args
  match rest with
  | [] =>
    let fromEnv := s.interpreter.isNone && env.isSome
    throw (.missingServer (s.given ++ if fromEnv then [.interpreter] else []))
  | server :: serverArgs =>
    let interpreter := (s.interpreter.or env).filter (· ≠ "")
    return ⟨server, serverArgs, interpreter, s.verbose⟩

end LspRelay.CommandLine
