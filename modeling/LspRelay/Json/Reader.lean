import LspRelay.Json.Value
import LspRelay.Text.Utf8

namespace LspRelay.Json

def maxDepth : Nat := 127

/-- Blanks between tokens; no other character is one. -/
def skipBlanks (cs : List Char) : List Char :=
  cs.dropWhile fun c => c = ' ' || c = '\t' || c = '\n' || c = '\r'

def hexValue? (c : Char) : Option Nat :=
  if '0' ≤ c ∧ c ≤ '9' then some (c.toNat - '0'.toNat)
  else if 'a' ≤ c ∧ c ≤ 'f' then some (c.toNat - 'a'.toNat + 10)
  else if 'A' ≤ c ∧ c ≤ 'F' then some (c.toNat - 'A'.toNat + 10)
  else none

def unit? (a b c d : Char) : Option Nat := do
  let a ← hexValue? a
  let b ← hexValue? b
  let c ← hexValue? c
  let d ← hexValue? d
  some (((a * 16 + b) * 16 + c) * 16 + d)

def isHighSurrogate (n : Nat) : Bool := 0xD800 ≤ n && n < 0xDC00

def isLowSurrogate (n : Nat) : Bool := 0xDC00 ≤ n && n < 0xE000

def unescape? (c : Char) : Option Char :=
  match c with
  | '"' => some '"'
  | '\\' => some '\\'
  | '/' => some '/'
  | 'b' => some '\x08'
  | 'f' => some '\x0c'
  | 'n' => some '\n'
  | 'r' => some '\r'
  | 't' => some '\t'
  | _ => none

def push (c : Char) (read : Option (List Char × List Char)) : Option (List Char × List Char) :=
  read.map fun (s, cs) => (c :: s, cs)

def joinSurrogates (high low : Nat) : Char :=
  Char.ofNat (0x10000 + (high - 0xD800) * 0x400 + (low - 0xDC00))

/-- A string after its opening quote. A high surrogate waits for its other half, which must be the
next thing in the string. -/
def readString? : Option Nat → List Char → Option (List Char × List Char)
  | none, '"' :: cs => some ([], cs)
  | waiting, '\\' :: 'u' :: a :: b :: c :: d :: cs =>
    match waiting, unit? a b c d with
    | _, none => none
    | some high, some n =>
      if isLowSurrogate n then push (joinSurrogates high n) (readString? none cs) else none
    | none, some n =>
      if isHighSurrogate n then readString? (some n) cs
      else if isLowSurrogate n then none
      else push (Char.ofNat n) (readString? none cs)
  | none, '\\' :: c :: cs =>
    match unescape? c with
    | none => none
    | some e => push e (readString? none cs)
  | none, c :: cs => if c.toNat < 0x20 then none else push c (readString? none cs)
  | _, _ => none

abbrev Read (α : Type) := List Char → Option (α × List Char)

variable {N : Type}

/-- The items of an array that is not empty, up to its bracket. Each item takes a character, so the
number of remaining characters is enough fuel. -/
def readItems? (item : Read (Tree N)) : Nat → Read (List (Tree N))
  | 0, _ => none
  | fuel + 1, cs => do
    let (v, cs) ← item (skipBlanks cs)
    match skipBlanks cs with
    | ',' :: cs =>
      let (vs, cs) ← readItems? item fuel cs
      some (v :: vs, cs)
    | ']' :: cs => some ([v], cs)
    | _ => none

def readMember? (item : Read (Tree N)) : Read (String × Tree N)
  | '"' :: cs => do
    let (k, cs) ← readString? none cs
    match skipBlanks cs with
    | ':' :: cs =>
      let (v, cs) ← item (skipBlanks cs)
      some ((String.ofList k, v), cs)
    | _ => none
  | _ => none

/-- The members of an object that is not empty, up to its brace. -/
def readMembers? (item : Read (Tree N)) : Nat → Read (List (String × Tree N))
  | 0, _ => none
  | fuel + 1, cs => do
    let (m, cs) ← readMember? item (skipBlanks cs)
    match skipBlanks cs with
    | ',' :: cs =>
      let (ms, cs) ← readMembers? item fuel cs
      some (m :: ms, cs)
    | '}' :: cs => some ([m], cs)
    | _ => none

def readNumber? (number : Literal → Option N) : Read (Tree N) := fun cs => do
  let (l, cs) ← Literal.read? cs
  let n ← number l
  some (.number n, cs)

/-- A tree whose arrays and objects nest at most `depth` deep, at the front of the text; `number`
says what a literal stands for, and whether it stands for anything. -/
def readTree? (number : Literal → Option N) : Nat → Read (Tree N)
  | _, 'n' :: 'u' :: 'l' :: 'l' :: cs => some (.null, cs)
  | _, 't' :: 'r' :: 'u' :: 'e' :: cs => some (.bool true, cs)
  | _, 'f' :: 'a' :: 'l' :: 's' :: 'e' :: cs => some (.bool false, cs)
  | _, '"' :: cs => do
    let (s, cs) ← readString? none cs
    some (.string (String.ofList s), cs)
  | 0, '[' :: _ => none
  | 0, '{' :: _ => none
  | depth + 1, '[' :: cs =>
    match skipBlanks cs with
    | ']' :: cs => some (.array [], cs)
    | cs => do
      let (vs, cs) ← readItems? (readTree? number depth) cs.length cs
      some (.array vs, cs)
  | depth + 1, '{' :: cs =>
    match skipBlanks cs with
    | '}' :: cs => some (.object [], cs)
    | cs => do
      let (ms, cs) ← readMembers? (readTree? number depth) cs.length cs
      some (.ofMembers ms, cs)
  | _, cs => readNumber? number cs

/-- One tree with nothing but blanks around it. -/
def Tree.ofChars? (number : Literal → Option N) (cs : List Char) : Option (Tree N) :=
  match readTree? number maxDepth (skipBlanks cs) with
  | some (v, cs) => if skipBlanks cs = [] then some v else none
  | none => none

namespace Value

def ofChars? (cs : List Char) : Option Value :=
  Tree.ofChars? Literal.number? cs

def ofBytes? (bs : List UInt8) : Option Value :=
  (Utf8.decode? bs).bind ofChars?

def ofString? (s : String) : Option Value :=
  ofChars? s.toList

end Value

end LspRelay.Json
