namespace LspRelay.CommandLine

inductive Switch where
  | verbose
  | interpreter
  | help
  | version
  deriving Repr, DecidableEq

namespace Switch

def usage : Switch → String
  | verbose => "--verbose..."
  | interpreter => "--interpreter <INTERPRETER>"
  | help => "--help"
  | version => "--version"

def ofLetter? : Char → Option Switch
  | 'v' => some verbose
  | 'h' => some help
  | 'V' => some version
  | _ => none

def ofName? (name : List Char) : Option Switch :=
  if name = "verbose".toList then some verbose
  else if name = "interpreter".toList then some interpreter
  else if name = "help".toList then some help
  else if name = "version".toList then some version
  else none

end Switch

inductive Argument where
  | group (switches : List Switch)
  | long (s : Switch)
  | assigned (s : Switch) (value : String)
  | separator
  | word (s : String)
  deriving Repr, DecidableEq

namespace Argument

/-- A long name is spelt out, with its value, if any, after the first equals sign. -/
def ofLong? (cs : List Char) : Option Argument := do
  let s ← Switch.ofName? (cs.takeWhile (· ≠ '='))
  match cs.dropWhile (· ≠ '=') with
  | [] => some (long s)
  | _ :: value => some (assigned s (String.ofList value))

def ofArgument (arg : String) : Argument :=
  match arg.toList with
  | ['-', '-'] => separator
  | '-' :: '-' :: cs => (ofLong? cs).getD (word arg)
  | '-' :: c :: cs => (((c :: cs).mapM Switch.ofLetter?).map group).getD (word arg)
  | _ => word arg

end Argument

end LspRelay.CommandLine
