import LspRelay.Host.Regex.Basic

namespace LspRelay.Regex

inductive Problem where
  | badReference
  | openBracket
  | openGroup
  | openCount
  | badCount
  | badRange
  | nothingToRepeat
  | tooBig
  | closedGroup
  | badClass
  | badCollation
  | trailingBackslash
  | badPattern
  deriving Repr, DecidableEq

def Problem.message : Problem → String
  | badReference => "Invalid back reference"
  | openBracket => "Unmatched [, [^, [:, [., or [="
  | openGroup => "Unmatched ( or \\("
  | openCount => "Unmatched \\\x7b"
  | badCount => "Invalid content of \\\x7b\\\x7d"
  | badRange => "Invalid range end"
  | nothingToRepeat => "Invalid preceding regular expression"
  | tooBig => "Regular expression too big"
  | closedGroup => "Unmatched ) or \\)"
  | badClass => "Invalid character class name"
  | badCollation => "Invalid collation character"
  | trailingBackslash => "Trailing backslash"
  | badPattern => "Invalid regular expression"

/-- How an expression is written, whether marks that make no sense where they are stand for
themselves, whether case does not count, and whether a line feed is no character like others. -/
structure Flavour where
  isExtended : Bool
  isLenient : Bool
  ignoresCase : Bool
  partsLines : Bool

inductive Token where
  | char (c : Char)
  | any
  | bracket
  | edge (e : Edge)
  | opening
  | closing
  | bar
  | star
  | plus
  | query
  | openCount
  | again (number : Nat)
  | set (s : OctetSet)
  | ending
  deriving Repr, DecidableEq

/-- What is left of an expression, whether a caret is an edge here, how many groups have been
opened, which of them are closed, and which marks repeat nothing. -/
structure Reading where
  rest : List Char
  caret : Bool
  groups : Nat
  closed : List Nat
  strays : List Token

def tokenOf (f : Flavour) (caret : Bool) : List Char → Except Problem (Token × Nat)
  | [] => .ok (.ending, 0)
  | ['\\'] => .error .trailingBackslash
  | '\\' :: c :: _ =>
    let special (basic : Token) : Except Problem (Token × Nat) :=
      .ok (if f.isExtended then .char c else basic, 2)
    match c with
    | '(' => special .opening
    | ')' => special .closing
    | '|' => special .bar
    | '+' => special .plus
    | '?' => special .query
    | '{' => special .openCount
    | 'w' => .ok (.set .word, 2)
    | 'W' => .ok (.set OctetSet.word.negate, 2)
    | 's' => .ok (.set .space, 2)
    | 'S' => .ok (.set OctetSet.space.negate, 2)
    | 'b' => .ok (.edge .wordEdge, 2)
    | 'B' => .ok (.edge .noWordEdge, 2)
    | '<' => .ok (.edge .wordStart, 2)
    | '>' => .ok (.edge .wordEnd, 2)
    | '\x60' => .ok (.edge .textStart, 2)
    | '\'' => .ok (.edge .textEnd, 2)
    | c =>
      if '1' ≤ c ∧ c ≤ '9' then .ok (.again (c.toNat - '0'.toNat), 2) else .ok (.char c, 2)
  | c :: cs =>
    let special (extended : Token) : Except Problem (Token × Nat) :=
      .ok (if f.isExtended then extended else .char c, 1)
    match c with
    | '.' => .ok (.any, 1)
    | '[' => .ok (.bracket, 1)
    | '*' => .ok (.star, 1)
    | '^' => .ok (if f.isExtended || caret then .edge .lineStart else .char c, 1)
    | '$' =>
      let isLast :=
        f.isExtended || cs = [] || ['\\', ')'].isPrefixOf cs || ['\\', '|'].isPrefixOf cs
      .ok (if isLast then .edge .lineEnd else .char c, 1)
    | '(' => special .opening
    | ')' => special .closing
    | '|' => special .bar
    | '+' => special .plus
    | '?' => special .query
    | '{' => special .openCount
    | c => .ok (.char c, 1)

inductive Member where
  | char (c : Char)
  | many (ranges : List (UInt8 × UInt8))

def upTo (mark : Char) : List Char → Option (List Char × List Char)
  | [] => none
  | c :: cs =>
    if c = mark ∧ cs.head? = some ']' then some ([], cs.drop 1)
    else (upTo mark cs).map fun (name, rest) => (c :: name, rest)

def readMember : List Char → Except Problem (Member × List Char)
  | [] => .error .openBracket
  | '[' :: mark :: cs =>
    if mark = ':' ∨ mark = '.' ∨ mark = '=' then
      match upTo mark cs with
      | none => .error .openBracket
      | some (name, rest) =>
        if mark = ':' then
          match OctetSet.ofName? (String.ofList name) with
          | some ranges => .ok (.many ranges, rest)
          | none => .error .badClass
        else
          match name with
          | [c] =>
            .ok (if mark = '.' then .char c else .many [(octet c, octet c)], rest)
          | _ => .error .badCollation
    else .ok (.char '[', mark :: cs)
  | c :: cs => .ok (.char c, cs)

def readMembers : Nat → Bool → List Char → Except Problem (List (UInt8 × UInt8) × List Char)
  | 0, _, _ => .error .openBracket
  | _ + 1, false, ']' :: rest => .ok ([], rest)
  | fuel + 1, isFirst, cs => do
    if !isFirst ∧ cs.head? = some '-' ∧ (cs.drop 1).head? ≠ some ']' then
      if cs.drop 1 = [] then throw .openBracket else throw .badRange
    let (member, rest) ← readMember cs
    match member, rest with
    | .many ranges, rest => do
      let (more, rest) ← readMembers fuel false rest
      return (ranges ++ more, rest)
    | .char c, '-' :: next =>
      if next = [] then throw .openBracket
      else if next.head? = some ']' then do
        let (more, rest) ← readMembers fuel false ('-' :: next)
        return ((octet c, octet c) :: more, rest)
      else do
        let (last, rest) ← readMember next
        match last with
        | .many _ => throw .badRange
        | .char d => do
          if d < c then throw .badRange
          let (more, rest) ← readMembers fuel false rest
          return ((octet c, octet d) :: more, rest)
    | .char c, rest => do
      let (more, rest) ← readMembers fuel false rest
      return ((octet c, octet c) :: more, rest)

def readBracket (cs : List Char) : Except Problem (OctetSet × List Char) := do
  let isNegated := cs.head? = some '^'
  let body := if isNegated then cs.drop 1 else cs
  if body = [] then throw .badPattern
  let (ranges, rest) ← readMembers (body.length + 1) true body
  return (⟨ranges, isNegated⟩, rest)

def countLimit : Nat := 32767

/-- A count after its opening brace, and what follows it; there may be something else. -/
def readCount (f : Flavour) (cs : List Char) :
    Except Problem (Option ((Nat × Option Nat) × List Char)) :=
  let closing? (cs : List Char) : Option (List Char) :=
    match cs with
    | '}' :: rest => if f.isExtended then some rest else none
    | '\\' :: '}' :: rest => if f.isExtended then none else some rest
    | _ => none
  let other (rest : List Char) : Except Problem (Option ((Nat × Option Nat) × List Char)) :=
    if f.isExtended && f.isLenient then .ok none
    else .error (if rest = [] then .openCount else .badCount)
  let checked (least : Nat) (most : Option Nat) (rest : List Char) :
      Except Problem (Option ((Nat × Option Nat) × List Char)) :=
    if most.any (· < least) then .error .badCount
    else if countLimit < most.getD least then .error .tooBig
    else .ok (some ((least, most), rest))
  let digits (cs : List Char) : Option Nat :=
    let ds := cs.takeWhile Char.isDigit
    if ds = [] then none else some (Nat.ofDigitChars 10 ds 0)
  let first := digits cs
  let rest := cs.dropWhile Char.isDigit
  match closing? rest, rest with
  | some after, _ =>
    match first with
    | some n => checked n (some n) after
    | none => .error .badCount
  | none, ',' :: rest =>
    let second := digits rest
    let rest := rest.dropWhile Char.isDigit
    match closing? rest with
    | some after => checked (first.getD 0) second after
    | none => other rest
  | none, rest => other rest

/-- A set with both cases of its letters, if case does not count. -/
def Flavour.set (f : Flavour) (s : OctetSet) : Regex :=
  let s := if f.ignoresCase then s.folded else s
  .set (if f.partsLines ∧ s.isNegated then
    { s with ranges := (Octet.lineFeed, Octet.lineFeed) :: s.ranges } else s)

/-- The token that comes next, which is not yet taken. -/
def peek (f : Flavour) (r : Reading) : Except Problem (Token × Reading) := do
  let (token, length) ← tokenOf f r.caret r.rest
  return (token, { r with rest := r.rest.drop length, caret := false })

def readRepeats (f : Flavour) : Nat → Bool → Regex → Reading → Except Problem (Regex × Reading)
  | 0, _, x, r => .ok (x, r)
  | fuel + 1, isFirst, x, r => do
    let (token, next) ← peek f r
    let counted (least : Nat) (most : Option Nat) (next : Reading) :
        Except Problem (Regex × Reading) :=
      readRepeats f fuel false (.repeated x least most) next
    let isTwice := !isFirst && !f.isExtended && !f.isLenient
    match token with
    | .star => if isTwice then throw .nothingToRepeat else counted 0 none next
    | .plus => counted 1 none next
    | .query => counted 0 (some 1) next
    | .openCount =>
      if isTwice then throw .nothingToRepeat
      match ← readCount f next.rest with
      | some ((least, most), rest) => counted least most { next with rest }
      | none => return (x, r)
    | _ => return (x, r)

def Token.repeats : Token → Bool
  | star => true
  | plus => true
  | query => true
  | openCount => true
  | _ => false

def Token.text : Token → Char
  | star => '*'
  | plus => '+'
  | query => '?'
  | openCount => '{'
  | closing => ')'
  | char c => c
  | _ => '.'

mutual

def readAlternatives (f : Flavour) : Nat → Nat → Reading → Except Problem (Regex × Reading)
  | 0, _, r => .ok (.empty, r)
  | fuel + 1, depth, r => do
    let (x, r) ← readSequence f fuel depth .empty r
    let (token, next) ← peek f r
    if token = .bar then
      let (y, r) ← readAlternatives f fuel depth { next with caret := true }
      return (.either x y, r)
    else return (x, r)

def readSequence (f : Flavour) : Nat → Nat → Regex → Reading → Except Problem (Regex × Reading)
  | 0, _, x, r => .ok (x, r)
  | fuel + 1, depth, x, r => do
    let (token, next) ← peek f r
    let joined (y : Regex) : Regex := if x = .empty then y else .followed x y
    let one (y : Regex) (next : Reading) : Except Problem (Regex × Reading) := do
      let (y, r) ← readRepeats f (next.rest.length + 1) true y next
      readSequence f fuel depth (joined y) r
    let literal (c : Char) : Except Problem (Regex × Reading) :=
      one (f.set (.single (octet c))) next
    match token with
    | .ending => return (x, r)
    | .bar => return (x, r)
    | .closing =>
      if depth ≠ 0 then return (x, r)
      else if f.isExtended && f.isLenient then literal ')'
      else throw .closedGroup
    | .edge e => readSequence f fuel depth (joined (.edge e)) { next with caret := true }
    | .char c => literal c
    | .any => one (f.set .all) next
    | .set s => one (.set s) next
    | .bracket =>
      let (s, rest) ← readBracket next.rest
      one (f.set s) { next with rest }
    | .again n => if next.closed.contains n then one (.again n) next else throw .badReference
    | .opening =>
      let number := next.groups + 1
      let (y, r) ← readAlternatives f fuel (depth + 1)
        { next with caret := true, groups := number }
      let (token, after) ← peek f r
      if token = .closing then
        one (.group number y) { after with closed := number :: after.closed }
      else throw .openGroup
    | token =>
      if token.repeats && f.isExtended then
        if f.isLenient then
          let stray (next : Reading) : Except Problem (Regex × Reading) :=
            readSequence f fuel depth x { next with strays := next.strays ++ [token] }
          if token ≠ .openCount then stray next
          else
            match ← readCount f next.rest with
            | some (_, rest) => stray { next with rest }
            | none => literal '{'
        else throw .nothingToRepeat
      else if token = .openCount then throw .nothingToRepeat
      else literal token.text

end

def readWithStrays (f : Flavour) (bs : Bytes) : Except Problem (Regex × List Token) := do
  let cs := toChars bs
  let (x, r) ← readAlternatives f (2 * cs.length + 2) 0 ⟨cs, true, 0, [], []⟩
  return (x, r.strays)

def read (f : Flavour) (bs : Bytes) : Except Problem Regex :=
  (readWithStrays f bs).map Prod.fst

def groupCount : Regex → Nat
  | group n r => max n (groupCount r)
  | followed a b => max (groupCount a) (groupCount b)
  | either a b => max (groupCount a) (groupCount b)
  | repeated r _ _ => groupCount r
  | _ => 0

end LspRelay.Regex
