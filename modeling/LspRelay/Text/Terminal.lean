import LspRelay.Text.Utf8

namespace LspRelay.Text.Terminal

def escape : String := "\x1b"

def bold (s : String) : String := escape ++ "[1m" ++ s ++ escape ++ "[0m"

/-- Between two octets: in text, in a character of which some octets are missing, or in a sequence.
An `escape` has just begun, a `middle` has more than one octet before its last, a `control` ends
with a letter, a `command` with a bell, and a `message` with a string terminator. A `device`
control has parameters and further octets in front of its message. -/
inductive State where
  | text
  | character (missing : Nat)
  | escape
  | middle
  | control
  | device
  | deviceParameter
  | deviceMiddle
  | command
  | message
  deriving Repr, DecidableEq

def isLineControl (b : UInt8) : Bool := b = 9 || b = 10 || b = 12 || b = 13

def missing? (b : UInt8) : Option Nat :=
  if 0xC2 ≤ b ∧ b < 0xE0 then some 1
  else if 0xE0 ≤ b ∧ b < 0xF0 then some 2
  else if 0xF0 ≤ b ∧ b < 0xF5 then some 3
  else none

namespace State

def isBetween (low high b : UInt8) : Bool := low ≤ b && b ≤ high

def afterEscape (b : UInt8) : Option State :=
  if b = 0x5B then some control
  else if b = 0x5D then some command
  else if b = 0x50 then some device
  else if b = 0x58 ∨ b = 0x5E ∨ b = 0x5F then some message
  else if isBetween 0x20 0x2F b then some middle
  else if isBetween 0x30 0x7E b then some text
  else none

/-- The state to which an octet leads, if it leads to another one, and whether a reader sees it. An
escape begins a sequence anywhere, and line controls are seen in all sequences that are no strings.
-/
def step (s : State) (b : UInt8) : Option State × Bool :=
  if b = 0x1B then (some escape, false)
  else if b = 0x18 ∨ b = 0x1A then (some text, false)
  else
    match s with
    | text =>
      match missing? b with
      | some n => (some (character n), true)
      | none => (none, isLineControl b || isBetween 0x20 0x7E b)
    | character _ => (none, false)
    | escape => (afterEscape b, isLineControl b)
    | middle => (if isBetween 0x30 0x7E b then some text else none, isLineControl b)
    | control => (if isBetween 0x40 0x7E b then some text else none, isLineControl b)
    | device =>
      (if isBetween 0x20 0x2F b then some deviceMiddle
        else if isBetween 0x30 0x3F b then some deviceParameter
        else if isBetween 0x40 0x7E b then some message
        else none, false)
    | deviceParameter =>
      (if isBetween 0x20 0x2F b then some deviceMiddle
        else if isBetween 0x3C 0x7E b then some message
        else none, false)
    | deviceMiddle => (if isBetween 0x30 0x7E b then some message else none, false)
    | command => (if b = 7 then some text else none, false)
    | message => (if b = 0x9C then some text else none, false)

/-- The step of a state in which text is being shown: an octet is seen if it would be in text. -/
def shownStep (s : State) (b : UInt8) : State × Bool :=
  match s with
  | character (n + 1) => (if n = 0 then text else character n, true)
  | s =>
    let (next, seen) := text.step b
    (next.getD s, seen)

/-- The state after the first octet that is shown again: one that begins a character has done so. -/
def begun (s : State) (b : UInt8) : State :=
  match s with
  | character n => character n
  | s => (s.shownStep b).1

end State

/-- What a reader sees of a text: where text begins, all sequences have come to their ends. -/
def seenInText (shown : Bool) (s : State) : List UInt8 → List UInt8
  | [] => []
  | b :: bs =>
    if shown && ((State.text.step b).2 || State.isBetween 0x80 0xBF b) then
      b :: seenInText true .text bs
    else
      let s := if shown then .text else s
      let (next, seen) := s.step b
      if seen then b :: seenInText true .text bs else seenInText false (next.getD s) bs

/-- What a reader sees of a stream: where text ends, the sequence that it broke into goes on. -/
def seenInStream (shown : Bool) (s : State) : List UInt8 → List UInt8
  | [] => []
  | b :: bs =>
    let (t, seen) := if shown then s.shownStep b else (s, false)
    if seen then b :: seenInStream true t bs
    else
      let (next, seen) := t.step b
      let t := next.getD t
      if seen then b :: seenInStream true (t.begun b) bs else seenInStream false t bs

/-- A text without control sequences. -/
def plain (s : String) : String :=
  String.ofList (Utf8.decodeLossy (seenInText false .text (Utf8.ofString s)))

def streamed (s : String) : List UInt8 :=
  seenInStream false .text (Utf8.ofString s)

end LspRelay.Text.Terminal
