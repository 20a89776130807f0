import LspRelay.Host.Regex.Reader

namespace LspRelay.Editing

structure Pattern where
  regex : Regex
  hasLines : Bool

/-- A line by its number, the last one, every so many from one on, or those with a pattern, which
may be the one that was used last. -/
inductive Address where
  | line (n : Nat)
  | last
  | every (first step : Nat)
  | found (p : Option Pattern)

/-- Where a range of lines ends: at an address, after so many lines, or at a multiple. -/
inductive Bound where
  | at (a : Address)
  | further (n : Nat)
  | multiple (n : Nat)

inductive Casing where
  | all (isUpper : Bool)
  | one (isUpper : Bool)
  | end
  deriving Repr, DecidableEq

inductive Piece where
  | text (bs : Bytes)
  | group (n : Nat)
  | casing (c : Casing)
  deriving Repr, DecidableEq

structure Substitution where
  pattern : Option Pattern
  pieces : List Piece
  start : Nat
  isGlobal : Bool
  prints : Bool
  runs : Bool
  file : Option Bytes

inductive Action where
  | block (stop : Nat)
  | closing
  | label (name : Bytes)
  | append (text : Bytes)
  | insert (text : Bytes)
  | change (text : Bytes)
  | jump (label : Bytes)
  | jumpIf (changed : Bool) (label : Bytes)
  | delete
  | deleteFirst
  | execute (command : Bytes)
  | fileName
  | take (keeps : Bool)
  | hold (keeps : Bool)
  | exchange
  | list (width : Option Nat)
  | next
  | nextToo
  | print
  | printFirst
  | quit (status : Nat) (prints : Bool)
  | readFile (path : Bytes)
  | readLine (path : Bytes)
  | substitute (s : Substitution)
  | number
  | writeFile (path : Bytes)
  | writeFirst (path : Bytes)
  | mapOctets (pairs : List (UInt8 × UInt8))
  | empty
  | nothing

structure Command where
  first : Option Address
  second : Option Bound
  isNegated : Bool
  action : Action

/-- A script, and whether its first line says that lines are printed only when asked for. -/
structure Script where
  commands : Array Command
  isQuiet : Bool

inductive Problem where
  | manyNegations
  | unexpectedComma
  | badFirstStep
  | openBlock
  | unexpectedClosing
  | extraCharacters
  | textExpected
  | closingAddress
  | labelAddress
  | commentAddress
  | missingCommand
  | oneAddressOnly
  | openAddress
  | openSubstitution
  | openMapping
  | badFlag
  | manyPrintFlags
  | manyGlobalFlags
  | manyNumbers
  | zeroNumber
  | differentLengths
  | wideDelimiter
  | newerVersion
  | zeroLine
  | unknownCommand (c : Char)
  | missingLabel
  | missingFileName
  | badReference (n : Nat)
  | noPrevious
  | previousWithFlags
  | recursiveEscape
  | pattern (p : Regex.Problem)
  deriving Repr, DecidableEq

def Problem.message : Problem → String
  | manyNegations => "multiple \x60!'s"
  | unexpectedComma => "unexpected \x60,'"
  | badFirstStep => "invalid usage of +N or ~N as first address"
  | openBlock => "unmatched \x60\x7b'"
  | unexpectedClosing => "unexpected \x60\x7d'"
  | extraCharacters => "extra characters after command"
  | textExpected => "expected \\ after \x60a', \x60c' or \x60i'"
  | closingAddress => "\x60\x7d' doesn't want any addresses"
  | labelAddress => ": doesn't want any addresses"
  | commentAddress => "comments don't accept any addresses"
  | missingCommand => "missing command"
  | oneAddressOnly => "command only uses one address"
  | openAddress => "unterminated address regex"
  | openSubstitution => "unterminated \x60s' command"
  | openMapping => "unterminated \x60y' command"
  | badFlag => "unknown option to \x60s'"
  | manyPrintFlags => "multiple \x60p' options to \x60s' command"
  | manyGlobalFlags => "multiple \x60g' options to \x60s' command"
  | manyNumbers => "multiple number options to \x60s' command"
  | zeroNumber => "number option to \x60s' command may not be zero"
  | differentLengths => "strings for \x60y' command are different lengths"
  | wideDelimiter => "delimiter character is not a single-byte character"
  | newerVersion => "expected newer version of sed"
  | zeroLine => "invalid usage of line address 0"
  | unknownCommand c => "unknown command: \x60" ++ String.singleton c ++ "'"
  | missingLabel => "\":\" lacks a label"
  | missingFileName => "missing filename in r/R/w/W commands"
  | badReference n => "invalid reference \\" ++ toString n ++ " on \x60s' command's RHS"
  | noPrevious => "no previous regular expression"
  | previousWithFlags => "cannot specify modifiers on empty regexp"
  | recursiveEscape => "recursive escaping after \\c not allowed"
  | pattern p => p.message

end LspRelay.Editing
