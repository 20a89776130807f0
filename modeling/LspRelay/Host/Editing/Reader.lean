import LspRelay.Host.Decimal.Floating
import LspRelay.Host.Editing.Script

namespace LspRelay.Editing

inductive Origin where
  | argument (n : Nat)
  | file (name : Bytes)
  deriving Repr, DecidableEq

structure Part where
  origin : Origin
  text : Bytes

/-- What is left of a script and how many characters have been read, the commands so far, the last
one first, how many there are, and the blocks that are open, each with its start and its number. -/
structure Reading where
  rest : List Char
  place : Nat
  isExtended : Bool
  commands : List Command
  count : Nat
  blocks : List (Nat × Nat)
  isQuiet : Bool

abbrev Reader := StateT Reading (Except (Problem × Nat))

namespace Reader

def stop {α : Type} (p : Problem) : Reader α := do throw (p, (← get).place)

def char? : Reader (Option Char) := do
  let r ← get
  match r.rest with
  | c :: cs =>
    set { r with rest := cs, place := r.place + 1 }
    return some c
  | [] => return none

def back (c : Option Char) : Reader Unit :=
  match c with
  | some c => modify fun r => { r with rest := c :: r.rest, place := r.place - 1 }
  | none => pure ()

def takeWhile (p : Char → Bool) : Reader (List Char) :=
  modifyGet fun r =>
    let cs := r.rest.takeWhile p
    (cs, { r with rest := r.rest.drop cs.length, place := r.place + cs.length })

def isBlank (c : Char) : Bool := c = ' ' || c = '\t'

def isSpace (c : Char) : Bool := c = ' ' || ('\t' ≤ c && c ≤ '\r')

def afterBlanks : Reader (Option Char) := do
  let _ ← takeWhile isBlank
  char?

def number (c : Option Char) : Reader Nat := do
  back c
  return Nat.ofDigitChars 10 (← takeWhile Char.isDigit) 0

def endOfCommand : Reader Unit := do
  match ← afterBlanks with
  | none => pure ()
  | some c =>
    if c = '\x7d' ∨ c = '#' then back (some c)
    else if c ≠ '\n' ∧ c ≠ ';' then stop .extraCharacters

def bracketText : List Char → List Char
  | '^' :: ']' :: cs => '^' :: ']' :: inside cs
  | '^' :: cs => '^' :: inside cs
  | ']' :: cs => ']' :: inside cs
  | cs => inside cs
where
  /-- The fuel of a class is the rest of the text. -/
  inside : List Char → List Char
    | [] => []
    | ']' :: _ => [']']
    | '[' :: m :: cs =>
      if m = ':' ∨ m = '.' ∨ m = '=' then '[' :: m :: named m cs else '[' :: inside (m :: cs)
    | c :: cs => c :: inside cs
  named (m : Char) : List Char → List Char
    | [] => []
    | c :: d :: cs => if c = m ∧ d = ']' then c :: d :: inside cs else c :: named m (d :: cs)
    | [c] => [c]

/-- A text up to a delimiter, of which one after a backslash is an ordinary character. In a pattern,
brackets hide it, and a backslash and an n are a line feed. The fuel is the length of the text. -/
def delimited (delimiter : Char) (isPattern : Bool) : Nat → Reader (Option (List Char))
  | 0 => return none
  | fuel + 1 => do
    let more (cs : List Char) : Reader (Option (List Char)) :=
      return (← delimited delimiter isPattern fuel).map (cs ++ ·)
    match ← char? with
    | none => return none
    | some '\n' =>
      back (some '\n')
      return none
    | some c =>
      if c = delimiter then return some []
      else if c = '\\' then
        match ← char? with
        | none => return none
        | some d =>
          if d = 'n' ∧ isPattern ∧ delimiter ≠ 'n' then more ['\n']
          else if d = '\n' ∨ (d = delimiter ∧ (isPattern ∨ d ≠ '&')) then more [d]
          else more ['\\', d]
      else if c = '[' ∧ isPattern then
        let text := bracketText (← get).rest
        let text := text.takeWhile (· ≠ '\n')
        let _ ← modify fun r =>
          { r with rest := r.rest.drop text.length, place := r.place + text.length }
        more (c :: feeds text)
      else more [c]
where
  feeds : List Char → List Char
    | '\\' :: 'n' :: cs => '\n' :: feeds cs
    | c :: cs => c :: feeds cs
    | [] => []

def delimitedBy (delimiter : Char) (isPattern : Bool) : Reader (Option (List Char)) := do
  delimited delimiter isPattern ((← get).rest.length + 1)

def escape? (cs : List Char) : Option (Char × List Char) :=
  let coded (base most : Nat) (cs : List Char) : Option (Char × List Char) :=
    let isDigit (c : Char) : Bool := (Decimal.Floating.hexValue? c).any (· < base)
    let digits := (cs.take most).takeWhile isDigit
    if digits = [] then none
    else
      let n := digits.foldl (fun n c => n * base + (Decimal.Floating.hexValue? c).getD 0) 0
      some (Char.ofNat (n % 256), cs.drop digits.length)
  match cs with
  | 'a' :: cs => some ('\x07', cs)
  | 'f' :: cs => some ('\x0c', cs)
  | 'n' :: cs => some ('\n', cs)
  | 'r' :: cs => some ('\r', cs)
  | 't' :: cs => some ('\t', cs)
  | 'v' :: cs => some ('\x0b', cs)
  | 'c' :: c :: cs => some (Char.ofNat (c.toUpper.toNat ^^^ 64), cs)
  | 'd' :: cs => coded 10 3 cs
  | 'o' :: cs => coded 8 3 cs
  | 'x' :: cs => coded 16 2 cs
  | _ => none

/-- A pattern with its escapes undone, where a character that has a meaning keeps a backslash. The
fuel is the length of the text. -/
def plainPattern (isExtended inBracket : Bool) : Nat → List Char → List Char
  | 0, cs => cs
  | _ + 1, [] => []
  | fuel + 1, '\\' :: c :: cs =>
    let special := "$*.[]\\^".toList ++ (if isExtended then "+?()|\x7b\x7d".toList else [])
    match if c = 'n' ∨ c = 'c' ∧ cs = [] then none else escape? (c :: cs) with
    | some (e, rest) =>
      (if special.contains e ∧ !inBracket then ['\\', e] else [e]) ++
        plainPattern isExtended inBracket fuel rest
    | none =>
      if inBracket then '\\' :: plainPattern isExtended inBracket fuel (c :: cs)
      else '\\' :: c :: plainPattern isExtended inBracket fuel cs
  | fuel + 1, c :: cs =>
    if c = '[' ∧ !inBracket then
      let text := bracketText cs
      c :: plainPattern isExtended true fuel text ++
        plainPattern isExtended false fuel (cs.drop text.length)
    else c :: plainPattern isExtended inBracket fuel cs

def pattern (cs : List Char) (ignoresCase hasLines : Bool) : Reader (Option Pattern) := do
  if cs = [] then
    if ignoresCase ∨ hasLines then stop .previousWithFlags
    return none
  let isExtended := (← get).isExtended
  let plain := plainPattern isExtended false (cs.length + 1) cs
  match Regex.read ⟨isExtended, false, ignoresCase, hasLines⟩ (ofChars plain) with
  | .ok regex => return some ⟨regex, hasLines⟩
  | .error p => stop (.pattern p)

def addressFlags : Nat → Bool → Bool → Reader (Bool × Bool)
  | 0, i, m => return (i, m)
  | fuel + 1, i, m => do
    match ← afterBlanks with
    | some 'I' => addressFlags fuel true m
    | some 'M' => addressFlags fuel i true
    | c =>
      back c
      return (i, m)

def bound? (c : Option Char) : Reader (Option Bound) := do
  match c with
  | none => return none
  | some c =>
    if c = '/' ∨ c = '\\' then
      let delimiter ← if c = '\\' then char? else pure (some c)
      let text ← match delimiter with
        | some d => delimitedBy d true
        | none => pure none
      match text with
      | none => stop .openAddress
      | some cs =>
        let (i, m) ← addressFlags ((← get).rest.length + 1) false false
        return some (.at (.found (← pattern cs i m)))
    else if c.isDigit then
      let n ← number (some c)
      match ← afterBlanks with
      | some '~' =>
        let step ← number (← afterBlanks)
        return some (.at (if step = 0 then .line n else .every n step))
      | d =>
        back d
        return some (.at (.line n))
    else if c = '+' ∨ c = '~' then
      let n ← number (← afterBlanks)
      return some (if c = '+' then .further n else .multiple n)
    else if c = '$' then return some (.at .last)
    else return none

def label (isJump : Bool) : Reader (List Char) := do
  let _ ← takeWhile isBlank
  takeWhile fun c => !isSpace c && c ≠ ';' && !(isJump && c = '\x7d')

def fileName : Reader Bytes := do
  let _ ← takeWhile isBlank
  let name ← takeWhile (· ≠ '\n')
  let _ ← char?
  if name = [] then stop .missingFileName
  return ofChars name

/-- The lines of a text, in which a backslash keeps a line from ending there and escapes stand for
characters. The fuel is the length of the text. -/
def textLines : Nat → Reader (List Char)
  | 0 => return []
  | fuel + 1 => do
    match ← char? with
    | none => return []
    | some '\n' => return []
    | some '\\' =>
      let r ← get
      match r.rest with
      | [] => return []
      | '\n' :: _ =>
        let _ ← char?
        return '\n' :: (← textLines fuel)
      | c :: cs =>
        match escape? (c :: cs) with
        | some (e, rest) =>
          set { r with rest, place := r.place + (r.rest.length - rest.length) }
          return e :: (← textLines fuel)
        | none =>
          let _ ← char?
          return c :: (← textLines fuel)
    | some c => return c :: (← textLines fuel)

def text : Reader Bytes := do
  match ← afterBlanks with
  | none => stop .textExpected
  | some '\\' =>
    let blanks ← takeWhile isBlank
    match ← char? with
    | none => return []
    | some '\n' => pure ()
    | some c =>
      back (some c)
      modify fun r =>
        { r with rest := blanks ++ r.rest, place := r.place - blanks.length }
      /- The first character after the backslash stands for itself. -/
      match ← char? with
      | some c =>
        let cs ← textLines ((← get).rest.length + 1)
        return lineOf (ofChars (c :: cs))
      | none => return []
  | some '\n' => stop .textExpected
  | some c => back (some c)
  return lineOf (ofChars (← textLines ((← get).rest.length + 1)))

def pieces : Nat → List Char → List Piece
  | 0, _ => []
  | _ + 1, [] => []
  | fuel + 1, '&' :: cs => .group 0 :: pieces fuel cs
  | fuel + 1, '\\' :: c :: cs =>
    match c with
    | 'U' => .casing (.all true) :: pieces fuel cs
    | 'L' => .casing (.all false) :: pieces fuel cs
    | 'E' => .casing .end :: pieces fuel cs
    | 'u' => .casing (.one true) :: pieces fuel cs
    | 'l' => .casing (.one false) :: pieces fuel cs
    | c =>
      if c.isDigit then .group (c.toNat - '0'.toNat) :: pieces fuel cs
      else
        match escape? (c :: cs) with
        | some (e, rest) => .text [octet e] :: pieces fuel rest
        | none => .text [octet c] :: pieces fuel cs
  | fuel + 1, c :: cs => .text [octet c] :: pieces fuel cs

def flags : Nat → Substitution → Bool → Bool → Reader (Substitution × Bool × Bool)
  | 0, s, i, m => return (s, i, m)
  | fuel + 1, s, i, m => do
    match ← char? with
    | none => return (s, i, m)
    | some c =>
      match c with
      | 'i' => flags fuel s true m
      | 'I' => flags fuel s true m
      | 'm' => flags fuel s i true
      | 'M' => flags fuel s i true
      | 'e' => flags fuel { s with runs := true } i m
      | 'p' =>
        if s.prints then stop .manyPrintFlags
        flags fuel { s with prints := true } i m
      | 'g' =>
        if s.isGlobal then stop .manyGlobalFlags
        flags fuel { s with isGlobal := true } i m
      | 'w' => return ({ s with file := some (← fileName) }, i, m)
      | '\n' => return (s, i, m)
      | ';' => return (s, i, m)
      | '#' =>
        back (some c)
        return (s, i, m)
      | '\x7d' =>
        back (some c)
        return (s, i, m)
      | ' ' => flags fuel s i m
      | c =>
        if c.isDigit then
          if s.start ≠ 0 then stop .manyNumbers
          let n ← number (some c)
          if n = 0 then stop .zeroNumber
          flags fuel { s with start := n } i m
        else stop .badFlag

def substitution : Reader Action := do
  match ← char? with
  | none => stop .openSubstitution
  | some d =>
    if d = '\n' ∨ d = '\\' then stop .openSubstitution
    match ← delimitedBy d true with
    | none => stop .openSubstitution
    | some target =>
      match ← delimitedBy d false with
      | none => stop .openSubstitution
      | some replacement =>
        let pieces := pieces (replacement.length + 1) replacement
        let (s, i, m) ← flags ((← get).rest.length + 1)
          ⟨none, pieces, 0, false, false, false, none⟩ false false
        let p ← pattern target i m
        let highest := pieces.foldl (fun n p =>
          match p with
          | .group k => max n k
          | _ => n) 0
        match p with
        | some p => if p.regex.groupCount < highest then stop (.badReference highest)
        | none => pure ()
        return .substitute { s with pattern := p }

/-- The characters of a mapping, if all their escapes are known. The fuel is the length of the
text. -/
def mappedChars : Nat → List Char → Option (List Char)
  | 0, _ => some []
  | _ + 1, [] => some []
  | fuel + 1, '\\' :: '\\' :: cs => (mappedChars fuel cs).map ('\\' :: ·)
  | fuel + 1, '\\' :: cs =>
    match escape? cs with
    | some (e, rest) => (mappedChars fuel rest).map (e :: ·)
    | none => if cs = [] then some ['\\'] else none
  | fuel + 1, c :: cs => (mappedChars fuel cs).map (c :: ·)

def mapping : Reader Action := do
  match ← char? with
  | none => stop .openMapping
  | some d =>
    match ← delimitedBy d false with
    | none => stop .openMapping
    | some source =>
      match ← delimitedBy d false with
      | none => stop .openMapping
      | some target =>
        match mappedChars (source.length + 1) source, mappedChars (target.length + 1) target with
        | some as, some bs =>
          if as.length ≠ bs.length then stop .differentLengths
          endOfCommand
          return .mapOctets ((ofChars as).zip (ofChars bs))
        | _, _ => stop .differentLengths

def knownVersion : List Nat := [4, 9]

def action (c : Char) (hasFirst hasSecond : Bool) : Reader Action := do
  let plain (a : Action) : Reader Action := do
    endOfCommand
    return a
  let counted (f : Option Nat → Action) : Reader Action := do
    match ← afterBlanks with
    | some d =>
      if d.isDigit then
        let n ← number (some d)
        plain (f (some n))
      else
        back (some d)
        plain (f none)
    | none => plain (f none)
  match c with
  | '\x7b' => return .block 0
  | '\x7d' => do
    if (← get).blocks = [] then stop .unexpectedClosing
    if hasFirst then stop .closingAddress
    plain .closing
  | ':' => do
    if hasFirst then stop .labelAddress
    let name ← label false
    if name = [] then stop .missingLabel
    let _ ← takeWhile isBlank
    return .label (ofChars name)
  | 'a' => return .append (← text)
  | 'i' => return .insert (← text)
  | 'c' => return .change (← text)
  | 'b' => do
    let name ← label true
    plain (.jump (ofChars name))
  | 't' => do
    let name ← label true
    plain (.jumpIf true (ofChars name))
  | 'T' => do
    let name ← label true
    plain (.jumpIf false (ofChars name))
  | 'd' => plain .delete
  | 'D' => plain .deleteFirst
  | 'e' => do
    let _ ← takeWhile isBlank
    let command ← takeWhile (· ≠ '\n')
    let _ ← char?
    return .execute (ofChars command)
  | 'F' => plain .fileName
  | 'g' => plain (.take false)
  | 'G' => plain (.take true)
  | 'h' => plain (.hold false)
  | 'H' => plain (.hold true)
  | 'x' => plain .exchange
  | 'l' => counted .list
  | 'n' => plain .next
  | 'N' => plain .nextToo
  | 'p' => plain .print
  | 'P' => plain .printFirst
  | 'q' => do
    if hasSecond then stop .oneAddressOnly
    counted fun n => .quit (n.getD 0) true
  | 'Q' => do
    if hasSecond then stop .oneAddressOnly
    counted fun n => .quit (n.getD 0) false
  | 'r' => return .readFile (← fileName)
  | 'R' => return .readLine (← fileName)
  | 's' => substitution
  | '=' => plain .number
  | 'v' => do
    let version ← label true
    let numbers := (version.splitOn '.').map fun cs => Nat.ofDigitChars 10 cs 0
    if version ≠ [] ∧ knownVersion < numbers then stop .newerVersion
    plain .nothing
  | 'w' => return .writeFile (← fileName)
  | 'W' => return .writeFirst (← fileName)
  | 'y' => mapping
  | 'z' => plain .empty
  | c => stop (.unknownCommand c)

def push (c : Command) : Reader Unit :=
  modify fun r => { r with commands := c :: r.commands, count := r.count + 1 }

/-- Whether a line number is no line, unless a pattern ends the range. -/
def isNoLine (first : Option Address) (second : Option Bound) : Bool :=
  match first, second with
  | some (.line 0), some (.at (.found _)) => false
  | some (.line 0), _ => true
  | _, _ => false

def commands : Nat → Reader Unit
  | 0 => pure ()
  | fuel + 1 => do
    let _ ← takeWhile fun c => isSpace c || c = ';'
    match ← char? with
    | none => pure ()
    | some c =>
      let (first, c) ← match ← bound? (some c) with
        | none => pure (none, some c)
        | some (.at a) => do pure (some a, ← afterBlanks)
        | some _ => stop .badFirstStep
      let (second, c) ← match first, c with
        | some _, some ',' => do
          match ← bound? (← afterBlanks) with
          | none => stop .unexpectedComma
          | some b => pure (some b, ← afterBlanks)
        | _, c => pure (none, c)
      if isNoLine first second then stop .zeroLine
      let (isNegated, c) ← if c = some '!' then do
          let c ← afterBlanks
          if c = some '!' then stop .manyNegations
          pure (true, c)
        else pure (false, c)
      match c with
      | none => stop .missingCommand
      | some '#' =>
        if first.isSome then stop .commentAddress
        let start := (← get).place
        let line ← takeWhile (· ≠ '\n')
        let _ ← char?
        if start = 1 ∧ line = ['n'] then modify fun r => { r with isQuiet := true }
        commands fuel
      | some c =>
        let a ← action c first.isSome second.isSome
        let r ← get
        push ⟨first, second, isNegated, a⟩
        match a with
        | .block _ => modify fun s => { s with blocks := (r.count, s.place) :: s.blocks }
        | .closing =>
          match r.blocks with
          | (start, _) :: blocks =>
            let close (i : Nat) (c : Command) : Command :=
              if i + start = r.count then { c with action := .block r.count } else c
            modify fun s =>
              { s with
                blocks
                commands := s.commands.mapIdx close }
          | [] => pure ()
        | _ => pure ()
        commands fuel

end Reader

/-- A problem with where it is: the part of the script and how far into it, if that is known. -/
structure Complaint where
  problem : Problem
  part : Nat
  place : Option Nat

def locate : Nat → Nat → List (List Char) → Nat × Nat
  | part, place, cs :: rest =>
    if place ≤ cs.length + 1 ∨ rest = [] then (part, min place cs.length)
    else locate (part + 1) (place - (cs.length + 1)) rest
  | part, place, [] => (part, place)

def Script.read (isExtended : Bool) (parts : List Part) : Except Complaint Script :=
  let texts := parts.map fun p =>
    let cs := toChars p.text
    if cs.getLast? = some '\n' then cs.dropLast else cs
  let text := ['\n'].intercalate texts
  match (Reader.commands (text.length + 1)).run ⟨text, 0, isExtended, [], 0, [], false⟩ with
  | .ok (_, r) =>
    match r.blocks with
    | (_, place) :: _ => .error ⟨.openBlock, (locate 0 place texts).1, none⟩
    | [] => .ok ⟨r.commands.reverse.toArray, r.isQuiet⟩
  | .error (problem, place) =>
    let (part, place) := locate 0 place texts
    .error ⟨problem, part, some place⟩

end LspRelay.Editing
