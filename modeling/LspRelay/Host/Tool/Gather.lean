import LspRelay.Host.Tool.Launch

namespace LspRelay.Tool

open Process

namespace Gather

/-- How the input is taken apart: at blanks and line feeds with quotes and backslashes, by lines
with quotes, or at a mark alone. -/
inductive Parting where
  | blanks
  | lines
  | mark (b : UInt8)
  deriving Repr, DecidableEq

structure Item where
  bytes : Bytes
  endsLine : Bool
  deriving Repr, DecidableEq

structure Items where
  list : List Item
  unmatched : Option UInt8

/-- Takes a text apart, given what has been read of an argument and in which quote. A blank at the
end of a line lets that go on. -/
def scan (byLine : Bool) : Option UInt8 → Option Bytes → List Item → Bytes → Items
  | quote, word, done, [] =>
    let word := if quote.isSome then none else word
    ⟨((word.map fun w => (⟨w.reverse, true⟩ : Item)).toList ++ done).reverse, quote⟩
  | some q, word, done, b :: bs =>
    if b = q then scan byLine none word done bs
    else if b = Octet.lineFeed then ⟨done.reverse, some q⟩
    else scan byLine (some q) (some (b :: word.getD [])) done bs
  | none, word, done, b :: bs =>
    let isBlank := b = Octet.space || b = Octet.tab
    if b = Octet.lineFeed then
      match word with
      | some w => scan byLine none none (⟨w.reverse, true⟩ :: done) bs
      | none => scan byLine none none done bs
    else if isBlank ∧ (!byLine ∨ word.isNone) then
      match word with
      | some w => scan byLine none none (⟨w.reverse, false⟩ :: done) bs
      | none => scan byLine none none done bs
    else if b = Octet.singleQuote ∨ b = Octet.doubleQuote then
      scan byLine (some b) (some (word.getD [])) done bs
    else if b = Octet.backslash then
      match bs with
      | c :: rest => scan byLine none (some (c :: word.getD [])) done rest
      | [] => scan byLine none (some (b :: word.getD [])) done []
    else scan byLine none (some (b :: word.getD [])) done bs

def items (p : Parting) (bs : Bytes) : Items :=
  match p with
  | .blanks => scan false none none [] bs
  | .lines => scan true none none [] bs
  | .mark m =>
    ⟨(piecesOf m bs).map fun piece =>
      ⟨if piece.getLast? = some m then piece.dropLast else piece, true⟩, none⟩

structure Limits where
  items : Option Nat
  lines : Option Nat
  octets : Nat

/-- Arguments in groups, each within the limits, or the fact that one alone is too long; given the
group so far, its last argument first, how many lines are complete in it, and its octets. -/
def groups (l : Limits) (used : Nat) :
    List Bytes → Nat → Nat → List Item → List (List Bytes) × Bool
  | [], _, _, [] => ([], false)
  | group, _, _, [] => ([group.reverse], false)
  | group, lines, octets, i :: is =>
    let size := i.bytes.length + 1
    if l.octets < octets + size then
      if group = [] ∨ l.octets < used + size then
        (if group = [] then [] else [group.reverse], true)
      else
        let lines := if i.endsLine then 1 else 0
        let isFull := l.items = some 1 || l.lines = some lines
        let (rest, isLong) :=
          if isFull then groups l used [] 0 used is
          else groups l used [i.bytes] lines (used + size) is
        (group.reverse :: (if isFull then [i.bytes] :: rest else rest), isLong)
    else
      let group := i.bytes :: group
      let lines := if i.endsLine then lines + 1 else lines
      if l.items.any (· ≤ group.length) ∨ l.lines.any (· ≤ lines) then
        let (rest, isLong) := groups l used [] 0 used is
        (group.reverse :: rest, isLong)
      else groups l used group lines (octets + size) is

def replaced (old new : Bytes) : Nat → Bytes → Bytes
  | 0, bs => bs
  | _ + 1, [] => []
  | fuel + 1, b :: bs =>
    if old ≠ [] ∧ old.isPrefixOf (b :: bs) then
      new ++ replaced old new fuel ((b :: bs).drop old.length)
    else b :: replaced old new fuel bs

end Gather

def argumentSize : Nat := 131072

def xargs : Command := fun args =>
  let known := [option '0' "null" .nothing, option 'a' "arg-file" .value,
    option 'd' "delimiter" .value, option 'E' "" .value, option 'e' "eof" .optional,
    option 'I' "" .value, option 'i' "replace" .optional, option 'L' "max-lines" .value,
    option 'l' "" .optional, option 'n' "max-args" .value, option 'P' "max-procs" .value,
    option 'p' "interactive" .nothing, option 'r' "no-run-if-empty" .nothing,
    option 's' "max-chars" .value, option 't' "verbose" .nothing, option 'x' "exit" .nothing,
    option 'o' "open-tty" .nothing]
  withLeadingOptions known 1 args fun c => do
    let count (key : Char) : Act (Option Nat) := do
      match c.value? key with
      | none => return none
      | some text =>
        match number? text with
        | some n =>
          if n = 0 ∧ key ≠ 'P' then
            misuse 1 (ofText ("value 0 for -" ++ String.singleton key ++ " option should be >= 1"))
            exit 1
          return some n
        | none =>
          misuse 1 (ofText "invalid number \"" ++ text ++
            ofText ("\" for -" ++ String.singleton key ++ " option"))
          exit 1
    let items ← count 'n'
    let lines ← count 'L'
    let octets ← count 's'
    let _ ← count 'P'
    let replacing := match c.last? ['I', 'i', 'L', 'n', 'l'] with
      | some 'I' => c.value? 'I'
      | some 'i' =>
        some (if c.value? 'i' = some [] then ofText "\x7b\x7d" else (c.value? 'i').getD [])
      | some 'n' => if items = some 1 then (c.value? 'I').or (c.value? 'i') else none
      | _ => none
    let mark := match c.last? ['0', 'd'] with
      | some '0' => some 0
      | some _ =>
        let text := (c.value? 'd').getD []
        match toChars text with
        | ['\\', 'n'] => some Octet.lineFeed
        | ['\\', 't'] => some Octet.tab
        | ['\\', '0'] => some 0
        | _ => some (text.headD 0)
      | none => none
    let parting : Gather.Parting := match mark with
      | some m => .mark m
      | none => if replacing.isSome then .lines else .blanks
    let input ← match c.value? 'a' with
      | none => do
        match ← readInput with
        | .ok bs => pure bs
        | .error e => die 1 (ofText ("read error: " ++ e.description))
      | some file => do
        match ← readFile file with
        | .ok bs => pure bs
        | .error e =>
          die 1 (ofText "Cannot open input file " ++ quoted file ++ ofText (": " ++ e.description))
    let found := Gather.items parting input
    let ending := (c.value? 'E').or (c.value? 'e')
    let list := match ending, mark with
      | some e, none => if e = [] then found.list else found.list.takeWhile fun i => i.bytes ≠ e
      | _, _ => found.list
    let command := if c.operands = [] then [ofText "echo"] else c.operands
    let name := command.headD []
    let used := total (command.map fun w => w.length + 1)
    let limits : Gather.Limits :=
      { items := if replacing.isSome then some 1 else items
        lines := if replacing.isSome then none else
          if c.has 'l' then some (((c.value? 'l').bind number?).getD 1) else lines
        octets := octets.getD argumentSize }
    let (groups, isLong) := Gather.groups limits (if replacing.isSome then 0 else used) [] 0
      (if replacing.isSome then 0 else used) list
    let groups :=
      if groups = [] ∧ !isLong ∧ replacing.isNone ∧ !c.has 'r' ∧ found.unmatched.isNone then [[]]
      else groups
    let unmatched : Act Unit := do
      match found.unmatched with
      | some q =>
        die 1 (ofText ("unmatched " ++ (if q = Octet.singleQuote then "single" else "double") ++
          " quote; by default quotes are special to xargs unless you use the -0 option"))
      | none => pure ()
    if limits.items.isNone ∧ limits.lines.isNone then unmatched
    let mut failed := false
    for group in groups do
      let words := match replacing, group with
        | some mark, item :: _ =>
          name :: command.tail.map fun w => Gather.replaced mark item (w.length + 1) w
        | _, group => command ++ group
      if c.has 't' ∨ c.has 'p' then writeError (lineOf (joined (words.map shownName)))
      match (← get).locate name with
      | .error e =>
        die (launchStatus e) (name ++ ofText (": " ++ e.description))
      | .ok _ =>
        let child ← callAs words fun q => if c.has 'a' then q else q.feed 0 .empty
        match child.killedBy with
        | some signal =>
          die 125 (name ++ ofText (": terminated by signal " ++ toString signal))
        | none => pure ()
        if child.status = 255 then
          die 124 (name ++ ofText ": exited with status 255; aborting")
        if child.status ≠ 0 then failed := true
    if failed then setStatus 123
    if isLong then die 1 (ofText "argument line too long")
    unmatched

end LspRelay.Tool
