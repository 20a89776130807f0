import LspRelay.Text.Alphabet
import LspRelay.Text.Blank

namespace LspRelay.Log.Pattern

/-- How a part of a pattern is read. -/
structure Mode where
  ignoresCase : Bool
  unicode : Bool
  spaced : Bool
  deriving Repr, DecidableEq

structure Reader where
  rest : List Char
  mode : Mode
  /-- The names of groups so far. -/
  names : List (List Char)

abbrev Reading := StateT Reader Option

def depthLimit : Nat := 250

def rest : Reading (List Char) := return (← get).rest

def goTo (cs : List Char) : Reading Unit := modify fun r => { r with rest := cs }

def next : Reading Char := do
  match ← rest with
  | c :: cs => goTo cs; return c
  | [] => failure

/-- Takes a text if it comes next. -/
def take? (text : String) : Reading Bool := do
  let cs ← rest
  if text.toList.isPrefixOf cs then goTo (cs.drop text.length); return true
  else return false

def afterSpace (comment : Bool) : List Char → List Char
  | [] => []
  | c :: cs =>
    if comment then afterSpace (c ≠ '\n') cs
    else if Text.isBlank c then afterSpace false cs
    else if c = '#' then afterSpace true cs
    else c :: cs

def skipSpace : Reading Unit :=
  modify fun r => if r.mode.spaced then { r with rest := afterSpace false r.rest } else r

/-- The character after blanks; only the mark of a comment counts as blank, not its text. -/
def afterBlanks? (cs : List Char) : Option Char :=
  let cs := cs.dropWhile Text.isBlank
  match cs with
  | '#' :: cs => (cs.dropWhile Text.isBlank).head?
  | cs => cs.head?

/-- What an escape or a plain character stands for: a character, maybe told as an octet, a class of
octets, or an edge between characters. -/
inductive Atom where
  | character (c : Char) (asOctet : Bool)
  | octets (negated : Bool)
  | edge (ofWord : Bool)
  deriving Repr, DecidableEq

def hexDigit? (c : Char) : Option Nat :=
  if c.isDigit then some (c.toNat - '0'.toNat)
  else if 'a' ≤ c ∧ c ≤ 'f' then some (c.toNat - 'a'.toNat + 10)
  else if 'A' ≤ c ∧ c ≤ 'F' then some (c.toNat - 'A'.toNat + 10)
  else none

def readHex (value : Nat) : Nat → Reading Nat
  | 0 => return value
  | digits + 1 => do
    let digit ← hexDigit? (← next)
    skipSpace
    readHex (value * 16 + digit) digits

/-- What follows a backslash. Every character of ASCII that is no letter or digit stands for itself,
save the two angles, which are edges of words. -/
def readEscape : Reading Atom := do
  let c ← next
  let coded (digits : Nat) : Reading Atom := do
    skipSpace
    let n ← readHex 0 digits
    if n.isValidChar then return .character (Char.ofNat n) (digits = 2) else failure
  match c with
  | 'x' => coded 2
  | 'u' => coded 4
  | 'U' => coded 8
  | 'A' => return .edge false
  | 'z' => return .edge false
  | 'b' => return .edge true
  | 'B' => return .edge true
  | '<' => return .edge true
  | '>' => return .edge true
  | 'a' => return .character '\x07' false
  | 'f' => return .character '\x0c' false
  | 't' => return .character '\t' false
  | 'n' => return .character '\n' false
  | 'r' => return .character '\r' false
  | 'v' => return .character '\x0b' false
  | c =>
    if c ∈ ['d', 's', 'w'] then return .octets false
    else if c ∈ ['D', 'S', 'W'] then return .octets true
    else if c.isAlphanum ∨ 127 < c.toNat then failure
    else return .character c false

def Atom.isUsable (m : Mode) : Atom → Bool
  | character c asOctet =>
    if m.unicode then !m.ignoresCase else !asOctet || c.toNat < 128
  | octets negated => !m.unicode && !negated
  | edge ofWord => !m.unicode || !ofWord

def Atom.isMember (m : Mode) : Atom → Bool
  | character c _ => if m.unicode then !m.ignoresCase else c.toNat < 128
  | octets negated => !m.unicode && !negated
  | edge _ => false

/-- How deep parts side by side are: one by itself adds nothing. -/
def nested : List Nat → Nat
  | [] => 0
  | [depth] => depth
  | depths => 1 + depths.foldl max 0

def readMember : Reading Unit := do
  let mode := (← get).mode
  let first ← leaf
  skipSpace
  match ← rest with
  | '-' :: cs =>
    let after := if mode.spaced then afterBlanks? cs else cs.head?
    if after = some ']' ∨ after = some '-' then guard (first.isMember mode)
    else
      goTo cs
      skipSpace
      match first, ← leaf with
      | .character low octet, .character high octet' =>
        guard (low ≤ high && (Atom.character low octet).isMember mode &&
          (Atom.character high octet').isMember mode)
      | _, _ => failure
  | _ => guard (first.isMember mode)
where
  leaf : Reading Atom := do
    if ← take? "\\" then readEscape else return .character (← next) false

def classNames : List String :=
  ["alnum", "alpha", "ascii", "blank", "cntrl", "digit", "graph", "lower", "print", "punct",
   "space", "upper", "word", "xdigit"]

def namedClass? (cs : List Char) : Option (Bool × List Char) :=
  match cs with
  | ':' :: cs =>
    let negated := cs.head? = some '^'
    let cs := if negated then cs.tail else cs
    match cs.dropWhile (· ≠ ':') with
    | ':' :: ']' :: after =>
      if String.ofList (cs.takeWhile (· ≠ ':')) ∈ classNames then some (negated, after) else none
    | _ => none
  | _ => none

def joined (left : Option Nat) (right : Nat) : Nat :=
  match left with
  | some left => 1 + max left right
  | none => right

mutual

def readClass : Nat → Reading Nat
  | 0 => failure
  | fuel + 1 => do
    let mode := (← get).mode
    skipSpace
    let negated ← take? "^"
    skipSpace
    let dashes ← readDashes fuel
    let bracket ← if dashes = 0 then take? "]" else pure false
    let members := dashes + if bracket then 1 else 0
    guard (members = 0 || (Atom.character '-' false).isMember mode)
    let depth ← readMembers fuel (List.replicate members 0) none
    guard (mode.unicode || !negated)
    return 1 + depth

def readDashes : Nat → Reading Nat
  | 0 => failure
  | fuel + 1 => do
    if ← take? "-" then
      skipSpace
      return 1 + (← readDashes fuel)
    else return 0

def readMembers : Nat → List Nat → Option Nat → Reading Nat
  | 0, _, _ => failure
  | fuel + 1, members, left => do
    let mode := (← get).mode
    skipSpace
    if ← take? "]" then return joined left (nested members)
    else if ← ["&&", "--", "~~"].anyM take? then
      readMembers fuel [] (some (joined left (nested members)))
    else if ← take? "[" then
      match namedClass? (← rest) with
      | some (negated, after) =>
        guard (if mode.unicode then !mode.ignoresCase else !negated)
        goTo after
        readMembers fuel (0 :: members) left
      | none =>
        let depth ← readClass fuel
        readMembers fuel (depth :: members) left
    else
      readMember
      readMembers fuel (0 :: members) left

end

/-- The letters of a group's mode up to a colon or the end of the group, each at most once and with
at most one minus sign, which is not the last of them. -/
def readMode (seen : List Char) : Nat → Mode → Reading Mode
  | 0, _ => failure
  | fuel + 1, mode => do
    match ← rest with
    | [] => failure
    | c :: cs =>
      if c = ':' ∨ c = ')' then
        guard (seen.head? ≠ some '-')
        return mode
      else
        guard (!seen.contains c)
        goTo cs
        let on := !seen.contains '-'
        let mode ← match c with
          | 'i' => pure { mode with ignoresCase := on }
          | 'u' => pure { mode with unicode := on }
          | 'x' => pure { mode with spaced := on }
          | c => if c ∈ ['m', 's', 'U', 'R', '-'] then pure mode else failure
        readMode (c :: seen) fuel mode

def readName : Reading Unit := do
  let cs ← rest
  let name := cs.takeWhile (· ≠ '>')
  let isPart (c : Char) : Bool := c ∈ ['_', '.', '[', ']'] || Text.isLetterOrNumber c
  guard (cs.contains '>' && name.all isPart &&
    name.head?.any fun c => c = '_' || Text.isLetter c)
  guard (!(← get).names.contains name)
  modify fun r => { r with rest := cs.drop (name.length + 1), names := name :: r.names }

mutual

/-- A group after its parenthesis: how deep it is, and whether it can be repeated. A mode by itself
holds up to the end of the group that it stands in. -/
def readGroup : Nat → Reading (Nat × Bool)
  | 0 => failure
  | fuel + 1 => do
    let outer := (← get).mode
    let inside : Reading (Nat × Bool) := do
      let depth ← readBranches fuel []
      guard ((← next) = ')')
      modify fun r => { r with mode := outer }
      return (1 + depth, true)
    skipSpace
    if ← ["?P<", "?<"].anyM take? then
      readName
      inside
    else if ← take? "?" then
      let cs ← rest
      let mode ← readMode [] (cs.length + 1) outer
      let isEmpty := (← rest).length = cs.length
      let ending ← next
      modify fun r => { r with mode }
      if ending = ':' then inside
      else
        guard (!isEmpty)
        return (0, false)
    else inside

def readBranches : Nat → List Nat → Reading Nat
  | 0, _ => failure
  | fuel + 1, branches => do
    let depth ← readSequence fuel []
    if ← take? "|" then readBranches fuel (depth :: branches)
    else return nested (depth :: branches)

/-- Parts in a row, given the depths of those before, the last one first, and whether that one can
be repeated. A repetition by a count cannot end, as its brace ends the field. -/
def readSequence : Nat → List (Nat × Bool) → Reading Nat
  | 0, _ => failure
  | fuel + 1, parts => do
    let mode := (← get).mode
    skipSpace
    match ← rest with
    | [] => return nested (parts.map Prod.fst)
    | c :: cs =>
      if c = ')' ∨ c = '|' then return nested (parts.map Prod.fst)
      goTo cs
      if c = '?' ∨ c = '*' ∨ c = '+' then
        match parts with
        | (depth, true) :: parts =>
          let _ ← take? "?"
          readSequence fuel ((1 + depth, true) :: parts)
        | _ => failure
      else
        let part ← match c with
          | '(' => readGroup fuel
          | '[' => do pure (← readClass fuel, true)
          | '\\' => do
            guard ((← readEscape).isUsable mode)
            pure (0, true)
          | '.' => do
            guard mode.unicode
            pure (0, true)
          | '^' => pure (0, true)
          | '$' => pure (0, true)
          | c => do
            guard (c ≠ '\x7b' && (Atom.character c false).isUsable mode)
            pure (0, true)
        readSequence fuel (part :: parts)

end

/-- Every step of the reader takes a character or goes one of a few levels down. -/
def isPattern (cs : List Char) : Bool :=
  match (readBranches (4 * cs.length + 4) []).run ⟨cs, ⟨false, true, false⟩, []⟩ with
  | some (depth, r) => r.rest.isEmpty && depth ≤ depthLimit
  | none => false

/-- A number with a fraction, an exponent, or both, or without end, after its sign. -/
def isNumber (cs : List Char) : Bool :=
  let cs := if cs.head? = some '+' ∨ cs.head? = some '-' then cs.tail else cs
  let whole := cs.takeWhile Char.isDigit
  let (fraction, rest) := match cs.dropWhile Char.isDigit with
    | '.' :: cs => (cs.takeWhile Char.isDigit, cs.dropWhile Char.isDigit)
    | cs => ([], cs)
  let exponent := match rest with
    | [] => true
    | e :: cs =>
      let digits := if cs.head? = some '+' ∨ cs.head? = some '-' then cs.tail else cs
      (e = 'e' || e = 'E') && digits ≠ [] && digits.all Char.isDigit
  (String.ofList cs).toLower ∈ ["inf", "infinity", "nan"] || (whole ++ fraction ≠ [] && exponent)

end LspRelay.Log.Pattern
