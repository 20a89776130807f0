import LspRelay.Host.Regex.Reader
import LspRelay.Host.Tool.Names
import LspRelay.Host.Tool.Show

namespace LspRelay.Tool

open Process

namespace Search

structure Query where
  pattern : Option Regex
  wholeWords : Bool
  wholeLines : Bool
  inverted : Bool

namespace Query

def foundAt? (q : Query) (t : Subject) (i : Nat) : Option Span :=
  match q.pattern with
  | none => none
  | some r =>
    if q.wholeLines then
      if i = 0 ∧ (r.reach t ⟨0, []⟩).any fun s => s.place = t.text.size then
        some ⟨0, t.text.size⟩
      else none
    else if q.wholeWords then
      if 0 < i ∧ t.isWord (i - 1) then none
      else
        (r.reach t ⟨i, []⟩).foldl
          (fun best s =>
            let isBetter := match best with
              | some (b : Span) => b.stop < s.place
              | none => true
            if isBetter && !t.isWord s.place then some ⟨i, s.place⟩ else best)
          none
    else (r.matchAt? t i).map Match.whole

def found? (q : Query) (t : Subject) (i : Nat) : Option Span :=
  if q.wholeLines ∧ i ≠ 0 then none
  else (List.range' i (t.text.size + 1 - i)).findSome? (q.foundAt? t)

def selects (q : Query) (line : Bytes) : Bool := (q.found? (.ofBytes line) 0).isSome != q.inverted

/-- The parts of a line that are found and not empty. The fuel is more than the length of the line.
-/
def partsFrom (q : Query) (t : Subject) : Nat → Nat → List Span
  | 0, _ => []
  | fuel + 1, i =>
    match q.found? t i with
    | none => []
    | some s =>
      if s.start < s.stop then s :: partsFrom q t fuel s.stop
      else if t.text.size ≤ s.start then []
      else partsFrom q t fuel (s.start + 1)

end Query

structure View where
  counts : Bool
  names : Option Bool
  withName : Bool
  numbers : Bool
  offsets : Bool
  partsOnly : Bool
  quiet : Bool
  tabs : Bool
  nameEnd : Bool
  before : Nat
  after : Nat
  separator : Option Bytes
  hasContext : Bool
  limit : Option Nat
  mark : UInt8

structure Line where
  bytes : Bytes
  number : Nat
  offset : Nat
  selected : Bool

def linesOf (q : Query) (mark : UInt8) (bs : Bytes) : List Line :=
  let (lines, _, _) := (piecesOf mark bs).foldl
    (fun (lines, number, offset) piece =>
      let line := if piece.getLast? = some mark then piece.dropLast else piece
      (⟨line, number, offset, q.selects line⟩ :: lines, number + 1, offset + piece.length))
    (([] : List Line), 1, 0)
  lines.reverse

/-- The lines up to the last one that counts when there is a limit, and so many more of those that
follow it and do not count. -/
def limited (v : View) (lines : List Line) : List Line :=
  match v.limit with
  | none => lines
  | some limit => go limit lines
where
  go : Nat → List Line → List Line
    | 0, lines => (lines.takeWhile fun l => !l.selected).take v.after
    | n + 1, l :: ls => l :: go (if l.selected then n else n + 1) ls
    | _ + 1, [] => []

def front (v : View) (name : Bytes) (sign : Char) (number offset : Nat) : Bytes :=
  let mark : Bytes := [octet sign]
  let width (n : Nat) (least : Nat) : Bytes := padded (if v.tabs then least else 0) (decimal n)
  (if v.withName then name ++ (if v.nameEnd then [0] else mark) else []) ++
    (if v.numbers then width number 4 ++ mark else []) ++
    (if v.offsets then width offset 7 ++ mark else []) ++
    (if v.tabs && (v.withName || v.numbers || v.offsets) then [Octet.tab] else [])

def shown (q : Query) (v : View) (name : Bytes) (lines : List Line) : Bytes :=
  let selected := lines.filter Line.selected
  if v.partsOnly then
    if q.inverted then []
    else
      selected.flatMap fun l =>
        (q.partsFrom (.ofBytes l.bytes) (l.bytes.length + 2) 0).flatMap fun s =>
          front v name ':' l.number (l.offset + s.start) ++
            (l.bytes.take s.stop).drop s.start ++ [v.mark]
  else
    let numbers := selected.map Line.number
    /- Lines near a selected one, found in one pass from each side. -/
    let near (reach : Nat) (lines : List Line) : List Bool :=
      (lines.foldl
        (fun (out, left) l =>
          let left := if l.selected then reach + 1 else left - 1
          ((0 < left) :: out, left))
        (([] : List Bool), 0)).1
    let forward := (near v.after lines).reverse
    let backward := near v.before lines.reverse
    let marked := lines.zip (forward.zip backward)
    let (out, _) := marked.foldl
      (fun (out, last) (l, a, b) =>
        if a || b then
          let gap : Bytes := match last, v.separator with
            | some n, some s =>
              if v.hasContext && n + 1 < l.number then lineOf s else []
            | _, _ => []
          (out ++ [gap ++ front v name (if l.selected then ':' else '-') l.number l.offset ++
            l.bytes ++ [v.mark]], some l.number)
        else (out, last))
      (([] : List Bytes), (none : Option Nat))
    if numbers = [] then [] else out.flatten

end Search

def patternKinds : List Char := ['E', 'F', 'G', 'P']

def withDigits : Nat → Bytes → Bytes
  | 0, bs => bs
  | fuel + 1, Octet.backslash :: c :: rest =>
    if c = octet 'd' then ofText "[0-9]" ++ withDigits fuel rest
    else if c = octet 'D' then ofText "[^0-9]" ++ withDigits fuel rest
    else Octet.backslash :: c :: withDigits fuel rest
  | fuel + 1, b :: bs => b :: withDigits fuel bs
  | _ + 1, [] => []

/-- Whether a pattern is a class without the brackets around it. -/
def isBareClass (pattern : Bytes) : Bool :=
  let cs := toChars pattern
  4 ≤ cs.length && ['[', ':'].isPrefixOf cs && [':', ']'].isSuffixOf cs &&
    ((cs.drop 2).take (cs.length - 4)).all Char.isAlpha

def grepUsage : Act Unit := do
  writeError (ofText "Usage: grep [OPTION]... PATTERNS [FILE]...\n")
  writeError (ofText "Try 'grep --help' for more information.\n")
  exit 2

def filesBelow : Nat → Bytes → Node → List Bytes
  | 0, _, _ => []
  | fuel + 1, path, .directory entries _ _ =>
    entries.flatMap fun (name, n) =>
      match n with
      | .link _ => []
      | n => filesBelow fuel (dropSlashes path ++ Octet.slash :: name) n
  | _, path, _ => [path]

def treeDepth : Nat := 64

def plainContext (args : List Bytes) : List Bytes :=
  args.flatMap fun arg =>
    match arg with
    | Octet.dash :: rest =>
      match number? rest with
      | some _ => [ofText "-C", rest]
      | none => [arg]
    | _ => [arg]

def binaryWindow : Nat := 32768

def grep (kind : Char) : Command := fun args => do
  modify fun p => { p with label := ofText "grep" }
  let known := [option 'E' "extended-regexp" .nothing, option 'F' "fixed-strings" .nothing,
    option 'G' "basic-regexp" .nothing, option 'P' "perl-regexp" .nothing,
    option 'e' "regexp" .value, option 'f' "file" .value, option 'i' "ignore-case" .nothing,
    option 'y' "" .nothing, named 'j' "no-ignore-case" .nothing,
    option 'w' "word-regexp" .nothing, option 'x' "line-regexp" .nothing,
    option 'z' "null-data" .nothing, option 's' "no-messages" .nothing,
    option 'v' "invert-match" .nothing, option 'm' "max-count" .value,
    option 'b' "byte-offset" .nothing, option 'n' "line-number" .nothing,
    named 'u' "line-buffered" .nothing, option 'H' "with-filename" .nothing,
    option 'h' "no-filename" .nothing, named 'l' "files-with-matches" .nothing,
    named 'k' "label" .value, option 'o' "only-matching" .nothing, option 'q' "quiet" .nothing,
    named 'q' "silent" .nothing, named 't' "binary-files" .value, option 'a' "text" .nothing,
    option 'd' "directories" .value, option 'D' "devices" .value, option 'r' "recursive" .nothing,
    option 'R' "dereference-recursive" .nothing, named '1' "include" .value,
    named '2' "exclude" .value, named '3' "exclude-dir" .value,
    option 'L' "files-without-match" .nothing, option 'l' "files-with-matches" .nothing,
    option 'c' "count" .nothing, option 'T' "initial-tab" .nothing, option 'Z' "null" .nothing,
    option 'B' "before-context" .value, option 'A' "after-context" .value,
    option 'C' "context" .value, named '4' "group-separator" .value,
    named '5' "no-group-separator" .nothing, named '6' "color" .optional,
    named '6' "colour" .optional, option 'U' "binary" .nothing] ++ letters "I" .nothing
  match readOptions known true (args.length + 1) (plainContext args) with
  | .error text =>
    complain text
    grepUsage
  | .ok c =>
    let context (key : Char) : Act (Option Nat) := do
      match c.value? key with
      | none => return none
      | some text =>
        match number? text with
        | some n => return some n
        | none => die 2 (text ++ ofText ": invalid context length argument")
    let around ← context 'C'
    let before ← context 'B'
    let after ← context 'A'
    let limit ← match c.value? 'm' with
      | none => pure none
      | some text =>
        match integer? text with
        | some n => pure (if n < 0 then none else some n.toNat)
        | none => die 2 (ofText "invalid max count")
    if c.value? 't' ≠ none ∧
        !((["binary", "text", "without-match"].map ofText).contains ((c.value? 't').getD [])) then
      die 2 (ofText "unknown binary-files type")
    let kinds := (c.options.map Prod.fst).filter patternKinds.contains
    let kinds := if kind = 'G' then kinds else kind :: kinds
    let kind := kinds.getLast?.getD kind
    if kinds.any (· ≠ kind) then die 2 (ofText "conflicting matchers specified")
    let mut patterns : List Bytes := (c.values 'e')
    for file in c.values 'f' do
      match ← readOperand file with
      | .error e => die 2 (file ++ ofText (": " ++ e.description))
      | .ok bs => patterns := patterns ++ plainLines bs
    let hasPatterns := c.has 'e' || c.has 'f'
    let (text, operands) ← match hasPatterns, c.operands with
      | true, operands => pure (patterns, operands)
      | false, first :: rest => pure ([first], rest)
      | false, [] => do
        grepUsage
        pure ([], [])
    let texts := text.flatMap fun t => t.splitOn Octet.lineFeed
    let ignoresCase := match c.last? ['i', 'y', 'j'] with
      | some 'j' => false
      | some _ => true
      | none => false
    let flavour : Regex.Flavour := ⟨kind = 'E' || kind = 'P', true, ignoresCase, false⟩
    let mut regexes : List Regex := []
    for t in texts do
      if kind = 'F' then
        let r := t.foldr (fun b r => Regex.followed (flavour.set (.single b)) r) .empty
        regexes := regexes ++ [r]
      else
        if isBareClass t then
          die 2 (ofText "character class syntax is [[:space:]], not [:space:]")
        match Regex.readWithStrays flavour (if kind = 'P' then withDigits t.length t else t) with
        | .error p => die 2 (ofText p.message)
        | .ok (r, strays) =>
          for stray in strays do
            let mark := if stray = .openCount then "\x7b...\x7d" else String.singleton stray.text
            writeError (ofText ("grep: warning: " ++ mark ++ " at start of expression\n"))
          regexes := regexes ++ [r.ungrouped]
    let pattern : Option Regex := match regexes.reverse with
      | [] => none
      | r :: rest => some (rest.foldl (fun r s => .either s r) r)
    let query : Search.Query := ⟨pattern, c.has 'w', c.has 'x', c.has 'v'⟩
    let p ← get
    let isDeep := c.has 'r' || c.has 'R' ||
      (c.values 'd').getLast? = some (ofText "recurse")
    let expand (path : Bytes) : List Bytes :=
      match p.files.node? p.here path with
      | some n => if n.isDirectory then filesBelow treeDepth path n else [path]
      | none => [path]
    let files : List Bytes :=
      if isDeep then
        if operands = [] then (expand Path.dot).map fun f => f.drop 2 else operands.flatMap expand
      else if operands = [] then [[Octet.dash]] else operands
    let withName := match c.last? ['H', 'h'] with
      | some 'H' => true
      | some _ => false
      | none => 1 < operands.length || (isDeep && (operands = [] || operands.any fun f =>
          (p.files.node? p.here f).any Node.isDirectory))
    let hasContext := (around.isSome || before.isSome || after.isSome) && !c.has 'o'
    let names := match c.last? ['l', 'L'] with
      | some 'l' => some true
      | some _ => some false
      | none => none
    let view : Search.View :=
      { counts := c.has 'c'
        names
        withName
        numbers := c.has 'n'
        offsets := c.has 'b'
        partsOnly := c.has 'o'
        quiet := c.has 'q'
        tabs := c.has 'T'
        nameEnd := c.has 'Z'
        before := if hasContext then (before.or around).getD 0 else 0
        after := if hasContext then (after.or around).getD 0 else 0
        separator := match c.last? ['4', '5'] with
          | some '5' => none
          | some _ => c.value? '4'
          | none => some (ofText "--")
        hasContext
        limit
        mark := if c.has 'z' then 0 else Octet.lineFeed }
    let mut isFound := false
    let mut isFailed := false
    for file in files do
      let stops := view.quiet || view.names.isSome
      let title := if file = [Octet.dash] then (c.value? 'k').getD (ofText "(standard input)")
        else file
      let read ← if file = [Octet.dash] then
          if limit = some 0 then takeCount 0 0
          else if stops ∨ limit.isSome then
              takeUntil 0 (Nat.pow 2 15) false fun seen =>
                let whole := (piecesOf view.mark seen).filter fun l => l.getLast? = some view.mark
                let selected := whole.filter fun l => query.selects l.dropLast
                if (limit.getD 1).min (if stops then 1 else limit.getD 1) ≤ selected.length then
                  some seen.length
                else none
          else readInput
        else readFile file
      match read with
      | .error e =>
        let isSkipped := e = .isADirectory && (c.values 'd').getLast? = some (ofText "skip")
        if !isSkipped then
          if !c.has 's' then complain (title ++ ofText (": " ++ e.description))
          isFailed := true
      | .ok bs =>
        let isBinary := !c.has 'a' && !c.has 'z' && (c.value? 't') ≠ some (ofText "text") &&
          (bs.take binaryWindow).contains 0
        let skips := isBinary && (c.has 'I' || c.value? 't' = some (ofText "without-match"))
        if !skips then
          let lines := Search.limited view (Search.linesOf query view.mark bs)
          let count := (lines.filter Search.Line.selected).length
          isFound := isFound || count ≠ 0
          if view.quiet then
            if count ≠ 0 then exit 0
          else
            match view.names with
            | some isListed =>
              let isShown := (count ≠ 0) = isListed
              if isShown then
                print (title ++ [if view.nameEnd then 0 else Octet.lineFeed])
            | none =>
              if view.counts then
                print ((if view.withName then
                  title ++ [if view.nameEnd then 0 else octet ':'] else []) ++
                  lineOf (decimal count))
              else if isBinary then
                if count ≠ 0 ∧ !(view.partsOnly && query.inverted) then
                  complain (title ++ ofText ": binary file matches")
              else print (Search.shown query view title lines)
    setStatus (if isFailed then 2 else if isFound then 0 else 1)

end LspRelay.Tool
