import LspRelay.Host.Files.Basic
import LspRelay.Host.Regex.Reader
import LspRelay.Host.Shell.Glob

namespace LspRelay.Find

inductive Bound where
  | exactly (n : Nat)
  | less (n : Nat)
  | more (n : Nat)
  deriving Repr, DecidableEq

def Bound.holds (n : Nat) : Bound → Bool
  | exactly m => n = m
  | less m => n < m
  | more m => m < n

inductive ModeTest where
  | exactly (mode : Nat)
  | all (mode : Nat)
  | any (mode : Nat)
  deriving Repr, DecidableEq

def ModeTest.holds (mode : Nat) : ModeTest → Bool
  | exactly m => mode = m
  | all m => mode &&& m = m
  | any m => m = 0 || mode &&& m ≠ 0

inductive Test where
  | name (pattern : List Shell.Glob) (folds : Bool)
  | path (pattern : List Shell.Glob) (folds : Bool)
  | target (pattern : List Shell.Glob) (folds : Bool)
  | pattern (r : Regex)
  | kind (letters : List Char)
  /-- The same for what a link leads to. -/
  | kindBehind (letters : List Char)
  | empty
  | size (unit : Nat) (b : Bound)
  | mode (m : ModeTest)
  | links (b : Bound)
  /-- How many whole days old it is, or how many minutes, of which the last one need not be whole. -/
  | days (b : Bound)
  | minutes (b : Bound)
  | newer (time : Int)
  | owned (isOurs : Bool)
  | executable
  | same (identity : Nat ⊕ Path)
  | constant (b : Bool)

inductive Action where
  /-- Prints the path with an octet behind it, to a file if one is named. -/
  | print (mark : UInt8) (file : Option Bytes)
  | format (text : Bytes) (file : Option Bytes)
  | list
  | run (command : List Bytes) (asks : Bool) (isInside : Bool)
  /-- Runs a command once with all paths; it has a number of its own. -/
  | gather (number : Nat) (command : List Bytes)
  | delete
  | prune
  | quit

inductive Query where
  | test (t : Test)
  | act (a : Action)
  | no (q : Query)
  | both (a b : Query)
  | either (a b : Query)
  | after (a b : Query)

/-- Whether something is done with what is found, so that it is not just printed. -/
def Query.acts : Query → Bool
  | test _ => false
  | act .prune => false
  | act _ => true
  | no q => q.acts
  | both a b => a.acts || b.acts
  | either a b => a.acts || b.acts
  | after a b => a.acts || b.acts

def Query.gathered : Query → List (Nat × List Bytes)
  | test _ => []
  | act (.gather n command) => [(n, command)]
  | act _ => []
  | no q => q.gathered
  | both a b => a.gathered ++ b.gathered
  | either a b => a.gathered ++ b.gathered
  | after a b => a.gathered ++ b.gathered

inductive Following where
  | never
  | named
  | always
  deriving Repr, DecidableEq

structure Request where
  following : Following
  starts : List Bytes
  query : Query
  least : Nat
  most : Option Nat
  /-- Whether what is in a directory comes before it. -/
  isDeepFirst : Bool

inductive Problem where
  | missing (word : Bytes)
  | invalid (value word : Bytes)
  | unknown (word : Bytes)
  | misplaced (word : Bytes)
  | noNumber (word value : Bytes)
  | badKind (c : Bytes)
  | badMode (text : Bytes)
  | badSize (text : Bytes)
  | badUser (word kind : Bytes)
  | noFile (name : Bytes)
  | openGroup
  | closedGroup
  | emptyGroup
  | nothingBefore (word : Bytes)
  | nothingBehind (word : Bytes)
  | twice

def Problem.message (p : Problem) : Bytes :=
  let told (bs : Bytes) : Bytes := ofText "\x60" ++ bs ++ ofText "'"
  let plain (bs : Bytes) : Bytes := ofText "'" ++ bs ++ ofText "'"
  match p with
  | missing word => ofText "missing argument to " ++ told word
  | invalid value word => ofText "invalid argument " ++ told value ++ ofText " to " ++ told word
  | unknown word => ofText "unknown predicate " ++ told word
  | misplaced word => ofText "paths must precede expression: " ++ told word
  | noNumber word value =>
    ofText "Expected a positive decimal integer argument to " ++ word ++ ofText ", but got " ++
      plain value
  | badKind c => ofText "Unknown argument to -type: " ++ c
  | badMode text => ofText "invalid mode " ++ plain text
  | badSize text => ofText "invalid -size type " ++ told text
  | badUser word kind => plain word ++ ofText " is not the name of a known " ++ kind
  | noFile name => plain name ++ ofText ": No such file or directory"
  | openGroup =>
    ofText "invalid expression; I was expecting to find a ')' somewhere but did not see one."
  | closedGroup => ofText "you have too many ')'"
  | emptyGroup => ofText "invalid expression; empty parentheses are not allowed."
  | nothingBefore word =>
    ofText "invalid expression; you have used a binary operator " ++ plain word ++
      ofText " with nothing before it."
  | nothingBehind word => ofText "expected an expression after " ++ plain word
  | twice => ofText "Only one instance of \x7b\x7d is supported with -exec ... +"

end LspRelay.Find
