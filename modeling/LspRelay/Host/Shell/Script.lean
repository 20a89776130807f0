import LspRelay.Host.Text.Octets

namespace LspRelay.Shell

/-- What a parameter's value is put through: nothing, its length in place of it, a word in place of
a value that is missing, or empty when that counts as missing, or the part without what a pattern
takes of one end. A change that there is not is found out when it is made. -/
inductive Change where
  | none
  | length
  | fallback (kind : Char) (emptyToo : Bool)
  | trimmed (front longest : Bool)
  | bad
  deriving Repr, DecidableEq

inductive Use where
  | read
  | write
  | replace
  | append
  | both
  deriving Repr, DecidableEq

mutual

/-- A part of a word. What is quoted is not split into fields, and neither is it a pattern. -/
inductive Piece where
  | text (bs : Bytes) (quoted : Bool)
  | parameter (name : String) (change : Change) (word : List Piece) (quoted : Bool)
  | output (s : Script) (quoted : Bool)
  | sum (expression : List Piece) (quoted : Bool)

/-- Where a redirection leads: to what another stream leads to, to nothing, to a file, or to a text
that is known by its number. -/
inductive Destination where
  | copy (forReading : Bool) (word : List Piece)
  | file (use : Use) (word : List Piece)
  | document (number : Nat)

inductive Redirect where
  | mk (stream : Nat) (destination : Destination)

inductive Script where
  | nothing
  | command (line : Nat) (assignments : List (String × List Piece)) (words : List (List Piece))
      (redirects : List Redirect)
  | sequence (first second : Script)
  | background (s : Script)
  | both (first second : Script)
  | either (first second : Script)
  | negate (s : Script)
  | pipe (source sink : Script)
  | inner (line : Nat) (s : Script) (redirects : List Redirect)
  | redirected (line : Nat) (s : Script) (redirects : List Redirect)
  | choose (condition yes no : Script)
  | loop (untilTrue : Bool) (condition body : Script)
  | each (line : Nat) (name : String) (words : Option (List (List Piece))) (body : Script)
  | select (line : Nat) (word : List Piece) (cases : List (List (List Piece) × Script))
  | define (name : String) (body : Script)

end

def Redirect.stream : Redirect → Nat
  | mk stream _ => stream

def Redirect.destination : Redirect → Destination
  | mk _ destination => destination

def keywords : List String :=
  ["!", "case", "do", "done", "elif", "else", "esac", "fi", "for", "if", "in", "then", "until",
   "while", "\x7b", "\x7d"]

inductive Token where
  | ending
  | newline
  | semicolon
  | background
  | both
  | either
  | pipe
  | opening
  | closing
  | caseEnd
  | redirect (stream : Option Nat) (operator : String)
  | word (pieces : List Piece)
  | keyword (text : String)

namespace Token

def description : Token → String
  | ending => "end of file"
  | newline => "newline"
  | semicolon => "\";\""
  | background => "\"&\""
  | both => "\"&&\""
  | either => "\"||\""
  | pipe => "\"|\""
  | opening => "\"(\""
  | closing => "\")\""
  | caseEnd => "\";;\""
  | redirect .. => "redirection"
  | word .. => "word"
  | keyword text => "\"" ++ text ++ "\""

def endsList : Token → Bool
  | ending => true
  | closing => true
  | caseEnd => true
  | keyword text => text ∈ ["do", "done", "elif", "else", "esac", "fi", "then", "\x7d"]
  | _ => false

end Token

inductive ScriptError where
  | unexpected (token : String) (expected : Option String)
  | unterminated
  | unterminatedGrave
  | missingBrace
  | missingParentheses
  | badLoop
  | badFunction
  | badDescriptor
  | badSubstitution
  deriving Repr, DecidableEq

def ScriptError.message : ScriptError → String
  | unexpected token none => token ++ " unexpected"
  | unexpected token (some expected) => token ++ " unexpected (expecting " ++ expected ++ ")"
  | unterminated => "Unterminated quoted string"
  | unterminatedGrave => "EOF in backquote substitution"
  | missingBrace => "Missing '\x7d'"
  | missingParentheses => "Missing '))'"
  | badLoop => "Bad for loop variable"
  | badFunction => "Bad function name"
  | badDescriptor => "Bad fd number"
  | badSubstitution => "Bad substitution"

end LspRelay.Shell
