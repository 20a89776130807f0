import LspRelay.Host.Text.Layout
import LspRelay.Host.Tool.Amounts
import LspRelay.Host.Tool.Moving
import LspRelay.Host.Tool.Show

namespace LspRelay.Tool

open Process

def briefMisuse (text : Bytes) : Act Unit := do
  complain text
  let label := (← get).label
  complain (ofText "Try " ++ between (label ++ ofText " --help") ++
    ofText " for more information.")
  exit 2

def firstDifference : Nat → Nat → Bytes → Bytes → Nat × Nat
  | n, lines, a :: as, b :: bs =>
    if a = b then
      firstDifference (n + 1) (if a = Octet.lineFeed then lines + 1 else lines) as bs
    else (n, lines)
  | n, lines, _, _ => (n, lines)

def octalColumn (b : UInt8) : Bytes := padded 3 ((Nat.toDigits 8 b.toNat).map octet)

def cmp : Command := fun args => do
  let known := [option 'b' "print-bytes" .nothing, option 'i' "ignore-initial" .value,
    option 'l' "verbose" .nothing, option 'n' "bytes" .value, option 's' "quiet" .nothing,
    named 's' "silent" .nothing]
  match readOptions known true (args.length + 1) args with
  | .error text => briefMisuse text
  | .ok c =>
    if c.operands = [] then briefMisuse (ofText "missing operand after 'cmp'")
    let skips : List Bytes := match c.value? 'i' with
      | some text => let parts := text.splitOn (octet ':'); if parts.length = 1 then
          parts ++ parts else parts
      | none => c.operands.drop 2
    for s in skips do
      if (amount? "kKMGTPEZY" s).isNone then
        briefMisuse (ofText "invalid --ignore-initial value " ++ quoted s)
    let skip (i : Nat) : Nat := ((skips[i]?).bind (amount? "kKMGTPEZY")).getD 0
    let limit ← match c.value? 'n' with
      | none => pure none
      | some text =>
        match amount? "kKMGTPEZY" text with
        | some n => pure (some n)
        | none => do
          briefMisuse (ofText "invalid --bytes value " ++ quoted text)
          pure none
    let first := c.operands.headD []
    let second := (c.operands[1]?).getD [Octet.dash]
    let content (file : Bytes) : Act Bytes := do
      match ← readOperand file with
      | .ok bs => return bs
      | .error e => die 2 (file ++ ofText (": " ++ e.description))
    let whole (bs : Bytes) (i : Nat) : Bytes :=
      let bs := bs.drop (skip i)
      bs.take (limit.getD bs.length)
    let before ← content first
    let after ← content second
    let a := whole before 0
    let b := whole after 1
    let (n, lines) := firstDifference 0 0 a b
    let shorter := min a.length b.length
    let ended : Option Bytes :=
      if a.length < b.length then some first else if b.length < a.length then some second else none
    let tellEnd : Act Unit := do
      match ended with
      | none => pure ()
      | some file =>
        flush
        setStatus 1
        if !c.has 's' then
          let text := if shorter = 0 then ofText " which is empty" else
            ofText (" after byte " ++ toString shorter) ++
              (if c.has 'l' then [] else
                let seen := a.take shorter
                let count := seen.count Octet.lineFeed
                if seen.getLast? = some Octet.lineFeed then ofText (", line " ++ toString count)
                else ofText (", in line " ++ toString (count + 1)))
          complain (ofText "EOF on " ++ file ++ text)
    if n = shorter then tellEnd
    else
      setStatus 1
      if c.has 's' then pure ()
      else if c.has 'l' then
        let sizes := (if first = [Octet.dash] then [] else [before.length - skip 0]) ++
          (if second = [Octet.dash] then [] else [after.length - skip 1]) ++ limit.toList
        let width := (decimal (sizes.foldl min (sizes.headD 0))).length
        for ((x, y), i) in (a.zip b).zipIdx do
          if x ≠ y then
            let shown (b : UInt8) : Bytes :=
              if c.has 'b' then octalColumn b ++ [Octet.space] ++ seen b else octalColumn b
            let left := shown x
            let left := if c.has 'b' then
                left ++ List.replicate (8 - left.length) Octet.space else left
            printLine (padded width (decimal (i + 1)) ++ [Octet.space] ++ left ++ [Octet.space] ++
              shown y)
        tellEnd
      else
        let x := (a[n]?).getD 0
        let y := (b[n]?).getD 0
        let place := first ++ [Octet.space] ++ second ++ ofText " differ: " ++
          ofText (if c.has 'b' then "byte " else "char ") ++ decimal (n + 1) ++
          ofText (", line " ++ toString (lines + 1))
        printLine (place ++ (if c.has 'b' then
          ofText " is " ++ octalColumn x ++ [Octet.space] ++ seen x ++ [Octet.space] ++
            octalColumn y ++ [Octet.space] ++ seen y else []))

def commonCounts (xs ys : List Bytes) : List (List Nat) :=
  xs.foldr
    (fun x rows =>
      let below := rows.headD []
      let row := (ys.zip (below.zip below.tail)).foldr
        (fun (y, same, next) row =>
          let right := row.headD 0
          (if x = y then next + 1 else max same right) :: row)
        [0]
      row :: rows)
    [List.replicate (ys.length + 1) 0]

structure Change where
  first : Nat
  removed : Nat
  second : Nat
  added : Nat

/-- Which lines are in common, as steps through both texts: both, the first alone, the second alone.
The fuel is the number of lines. -/
def steps : Nat → List Bytes → List Bytes → List (List Nat) → List Char
  | 0, _, _, _ => []
  | _ + 1, [], ys, _ => ys.map fun _ => '+'
  | _ + 1, xs, [], _ => xs.map fun _ => '-'
  | fuel + 1, x :: xs, y :: ys, rows =>
    let row := rows.headD []
    let below := rows.tail.headD []
    if x = y then '=' :: steps fuel xs ys (rows.tail.map List.tail)
    else if row.tail.headD 0 ≤ below.headD 0 then '-' :: steps fuel xs (y :: ys) rows.tail
    else '+' :: steps fuel (x :: xs) ys (rows.map List.tail)

def changesOf (steps : List Char) : List Change :=
  let (changes, _, _, _) := steps.foldl
    (fun (changes, i, j, isOpen) step =>
      match step, isOpen, changes with
      | '=', _, _ => (changes, i + 1, j + 1, false)
      | '-', true, (c : Change) :: cs => ({ c with removed := c.removed + 1 } :: cs, i + 1, j, true)
      | '-', _, cs => (⟨i, 1, j, 0⟩ :: cs, i + 1, j, true)
      | _, true, c :: cs => ({ c with added := c.added + 1 } :: cs, i, j + 1, true)
      | _, _, cs => (⟨i, 0, j, 1⟩ :: cs, i, j + 1, true))
    (([] : List Change), 0, 0, false)
  changes.reverse

/-- A change of one text alone, moved down as long as that is the same change. The fuel is the
number of lines. -/
def movedDown (xs ys : Array Bytes) (limit : Nat) : Nat → Change → Change
  | 0, c => c
  | fuel + 1, c =>
    let next := { c with first := c.first + 1, second := c.second + 1 }
    if c.first + c.removed < limit ∧ c.added = 0 ∧ c.removed ≠ 0 ∧
        xs[c.first]? = xs[c.first + c.removed]? then movedDown xs ys limit fuel next
    else if c.first < limit ∧ c.removed = 0 ∧ c.added ≠ 0 ∧
        ys[c.second]? = ys[c.second + c.added]? ∧ (ys[c.second + c.added]?).isSome then
      movedDown xs ys limit fuel next
    else c

def changesBetween (xs ys : List Bytes) : List Change :=
  let front := ((xs.zip ys).takeWhile fun (x, y) => x = y).length
  let xs' := xs.drop front
  let ys' := ys.drop front
  let back := ((xs'.reverse.zip ys'.reverse).takeWhile fun (x, y) => x = y).length
  let xs' := xs'.take (xs'.length - back)
  let ys' := ys'.take (ys'.length - back)
  let changes := (changesOf (steps (xs'.length + ys'.length) xs' ys' (commonCounts xs' ys'))).map
    fun c => { c with first := c.first + front, second := c.second + front }
  let limits := (changes.tail.map Change.first) ++ [xs.length]
  (changes.zip limits).map fun (c, limit) =>
    movedDown xs.toArray ys.toArray limit (xs.length + ys.length) c

inductive Form where
  | normal
  | unified (around : Nat)
  | context (around : Nat)
  | script
  | counted
  | brief

/-- Lines with a mark before each; a last line without its end is told. -/
def markedLines (mark : String) (lines : List Bytes) : Bytes :=
  lines.flatMap fun line =>
    if line.getLast? = some Octet.lineFeed then ofText mark ++ line
    else ofText mark ++ line ++ ofText "\n\\ No newline at end of file\n"

def part (lines : List Bytes) (start count : Nat) : List Bytes := (lines.drop start).take count

/-- The numbers of lines, the first and the last one, or the one before if there are none. -/
def lineNumbers (start count : Nat) : String :=
  if count ≤ 1 then toString (start + count) else toString (start + 1) ++ "," ++
    toString (start + count)

def changeLetter (c : Change) : String :=
  if c.removed = 0 then "a" else if c.added = 0 then "d" else "c"

def shownNormal (xs ys : List Bytes) (c : Change) : Bytes :=
  let removed := part xs c.first c.removed
  let added := part ys c.second c.added
  ofText (lineNumbers c.first c.removed ++ changeLetter c ++ lineNumbers c.second c.added ++
    "\n") ++ markedLines "< " removed ++
    (if removed ≠ [] ∧ added ≠ [] then ofText "---\n" else []) ++ markedLines "> " added

/-- Changes that are so near to each other that they are shown together. -/
def gathered (around : Nat) (changes : List Change) : List (List Change) :=
  changes.foldr
    (fun c groups =>
      match groups with
      | (d :: ds) :: rest =>
        if d.first - (c.first + c.removed) ≤ 2 * around then (c :: d :: ds) :: rest
        else [c] :: groups
      | _ => [c] :: groups)
    []

def extentOf (around total : Nat) (group : List Change) : (Nat × Nat) × (Nat × Nat) :=
  match group, group.getLast? with
  | c :: _, some d =>
    let before := min around c.first
    let after := min around (total - (d.first + d.removed))
    ((c.first - before, d.first + d.removed + after - (c.first - before)),
      (c.second - before, d.second + d.added + after - (c.second - before)))
  | _, _ => ((0, 0), (0, 0))

def shownUnified (around : Nat) (xs ys : List Bytes) (group : List Change) : Bytes :=
  let ((start, count), (start', count')) := extentOf around xs.length group
  let range (start count : Nat) : String :=
    if count = 1 then toString (start + 1)
    else toString (if count = 0 then start else start + 1) ++ "," ++ toString count
  let (out, place) := group.foldl
    (fun (out, place) c =>
      (out ++ markedLines " " (part xs place (c.first - place)) ++
        markedLines "-" (part xs c.first c.removed) ++ markedLines "+" (part ys c.second c.added),
        c.first + c.removed)) (([] : Bytes), start)
  ofText ("@@ -" ++ range start count ++ " +" ++ range start' count' ++ " @@\n") ++ out ++
    markedLines " " (part xs place (start + count - place))

def shownContext (around : Nat) (xs ys : List Bytes) (group : List Change) : Bytes :=
  let ((start, count), (start', count')) := extentOf around xs.length group
  let side (lines : List Bytes) (start count : Nat) (mark : String)
      (extent : Change → Nat × Nat) : Bytes :=
    let (out, place) := group.foldl
      (fun (out, place) c =>
        let (first, n) := extent c
        let mark := if c.removed ≠ 0 ∧ c.added ≠ 0 then "! " else mark
        (out ++ markedLines "  " (part lines place (first - place)) ++
          markedLines mark (part lines first n), first + n)) (([] : Bytes), start)
    if group.all fun c => (extent c).2 = 0 then []
    else out ++ markedLines "  " (part lines place (start + count - place))
  ofText ("***************\n*** " ++ lineNumbers start count ++ " ****\n") ++
    side xs start count "- " (fun c => (c.first, c.removed)) ++
    ofText ("--- " ++ lineNumbers start' count' ++ " ----\n") ++
    side ys start' count' "+ " (fun c => (c.second, c.added))

def shownChanges (form : Form) (xs ys : List Bytes) (changes : List Change) : Bytes :=
  match form with
  | .normal => changes.flatMap (shownNormal xs ys)
  | .unified around => (gathered around changes).flatMap (shownUnified around xs ys)
  | .context around => (gathered around changes).flatMap (shownContext around xs ys)
  | .script =>
    changes.reverse.flatMap fun c =>
      ofText (lineNumbers c.first c.removed ++ changeLetter c ++ "\n") ++
        (if c.added = 0 then [] else (part ys c.second c.added).flatten ++ ofText ".\n")
  | .counted =>
    changes.flatMap fun c =>
      (if c.removed = 0 then [] else
        ofText ("d" ++ toString (c.first + 1) ++ " " ++ toString c.removed ++ "\n")) ++
      (if c.added = 0 then [] else
        ofText ("a" ++ toString (c.first + c.removed) ++ " " ++ toString c.added ++ "\n") ++
          (part ys c.second c.added).flatten)
  | .brief => []

def lineKey (c : Chosen) (line : Bytes) : Bytes :=
  let isBlank (b : UInt8) : Bool := b = Octet.space || (9 ≤ b && b ≤ 13)
  let line := if c.has 'i' then lower line else line
  if c.has 'w' then line.filter (!isBlank ·)
  else if c.has 'b' then
    let trimmed := (line.reverse.dropWhile isBlank).reverse
    (trimmed.foldr
      (fun b (out : Bytes) =>
        if isBlank b then (if out.head? = some Octet.space then out else Octet.space :: out)
        else b :: out) [])
  else if c.has 'Z' then (line.reverse.dropWhile isBlank).reverse
  else line

def fileTime : String := "1970-01-01 00:00:00.000000000 +0000"

def compareTexts (c : Chosen) (form : Form) (title : Bytes) (first second a b : Bytes) :
    Act Bool := do
  let tellSame : Act Unit :=
    if c.has 's' then
      printLine (ofText "Files " ++ first ++ ofText " and " ++ second ++ ofText " are identical")
    else pure ()
  let differ (what : String) : Act Unit :=
    printLine (ofText (what ++ " ") ++ first ++ ofText " and " ++ second ++ ofText " differ")
  if a = b then
    tellSame
    return true
  else if !c.has 'a' ∧ (a.contains 0 ∨ b.contains 0) then
    differ (if form matches .brief then "Files" else "Binary files")
    return false
  else
    let xs := lineList a
    let ys := lineList b
    let changes := changesBetween (xs.map (lineKey c)) (ys.map (lineKey c))
    let isBlankLine (line : Bytes) : Bool := line = [Octet.lineFeed]
    let changes := if c.has 'B' then changes.filter fun d =>
        !((part xs d.first d.removed).all isBlankLine && (part ys d.second d.added).all isBlankLine)
      else changes
    if changes.isEmpty then
      tellSame
      return true
    else
      match form with
      | .brief => differ "Files"
      | form =>
        print title
        let labels := c.values 'L'
        let header (mark : String) (i : Nat) (file : Bytes) : Bytes :=
          lineOf (ofText (mark ++ " ") ++ ((labels[i]?).getD (file ++ ofText ("\t" ++ fileTime))))
        match form with
        | .unified _ => print (header "---" 0 first ++ header "+++" 1 second)
        | .context _ => print (header "***" 0 first ++ header "---" 1 second)
        | _ => pure ()
        print (shownChanges form xs ys changes)
      return false

def compareFolders (c : Chosen) (form : Form) (command : Bytes) :
    Nat → Bytes → Bytes → Node → Node → Act Bool
  | 0, _, _, _, _ => return true
  | fuel + 1, first, second, a, b => do
    let names := ((a.entries ++ b.entries).map Prod.fst).eraseDups.mergeSort (· ≤ ·)
    let mut isSame := true
    for name in names do
      match a.entries.lookup name, b.entries.lookup name with
      | some x, some y =>
        let left := inFolder first name
        let right := inFolder second name
        if x.isDirectory ∧ y.isDirectory then
          if c.has 'r' then
            let same ← compareFolders c form command fuel left right x y
            isSame := isSame && same
          else
            printLine (ofText "Common subdirectories: " ++ left ++ ofText " and " ++ right)
        else
          let a ← readFile left
          let b ← readFile right
          let title := lineOf (joined [command, left, right])
          let same ← compareTexts c form title left right (a.toOption.getD [])
            (b.toOption.getD [])
          isSame := isSame && same
      | found, _ =>
        let folder := if found.isSome then first else second
        printLine (ofText "Only in " ++ folder ++ ofText ": " ++ name)
        isSame := false
    return isSame

def diff : Command := fun args => do
  let known := [option 'a' "text" .nothing, option 'b' "ignore-space-change" .nothing,
    option 'B' "ignore-blank-lines" .nothing, option 'c' "" .nothing, option 'C' "context" .value,
    option 'd' "minimal" .nothing, option 'e' "ed" .nothing,
    option 'E' "ignore-tab-expansion" .nothing, option 'i' "ignore-case" .nothing,
    option 'L' "label" .value, option 'n' "rcs" .nothing, option 'N' "new-file" .nothing,
    option 'q' "brief" .nothing, option 'r' "recursive" .nothing,
    option 's' "report-identical-files" .nothing, option 't' "expand-tabs" .nothing,
    option 'T' "initial-tab" .nothing, option 'u' "" .nothing, option 'U' "unified" .value,
    option 'w' "ignore-all-space" .nothing, option 'y' "side-by-side" .nothing,
    option 'W' "width" .value, option 'Z' "ignore-trailing-space" .nothing,
    named 'o' "normal" .nothing, named 'p' "strip-trailing-cr" .nothing,
    named 'k' "color" .optional]
  match readOptions known true (args.length + 1) args with
  | .error text => briefMisuse text
  | .ok c =>
    match c.operands with
    | [] => briefMisuse (ofText "missing operand after 'diff'")
    | [a] => briefMisuse (ofText "missing operand after " ++ quoted a)
    | _ :: _ :: extra :: _ => briefMisuse (ofText "extra operand " ++ quoted extra)
    | [first, second] =>
      let around (key : Char) : Nat := ((c.value? key).bind number?).getD 3
      let form : Form := match c.last? ['u', 'U', 'c', 'C', 'e', 'n', 'o'] with
        | some 'u' => .unified 3
        | some 'U' => .unified (around 'U')
        | some 'c' => .context 3
        | some 'C' => .context (around 'C')
        | some 'e' => .script
        | some 'n' => .counted
        | _ => .normal
      let form := if c.has 'q' then .brief else form
      let asFolder ← isFolder first
      let bsFolder ← isFolder second
      let (left, right) := match asFolder, bsFolder with
        | true, false => (inFolder first (lastName second), second)
        | false, true => (first, inFolder second (lastName first))
        | _, _ => (first, second)
      let options := args.filter fun a => a.head? = some Octet.dash && a ≠ [Octet.dash]
      let command := joined (ofText "diff" :: options)
      if asFolder ∧ bsFolder then
        match ← node first, ← node second with
        | .ok a, .ok b =>
          let isSame ← compareFolders c form command depthLimit first second a b
          setStatus (if isSame then 0 else 1)
        | _, _ => setStatus 2
      else
        let a ← readOperand left
        let b ← readOperand right
        let lacking (r : Except SystemError Bytes) : Bool := r matches .error .notFound
        let isFilled := c.has 'N' && !(lacking a && lacking b)
        let mut isFailed := false
        for (file, r) in [(left, a), (right, b)] do
          match r with
          | .ok _ => pure ()
          | .error e =>
            if !(isFilled && e = .notFound) then
              complain (file ++ ofText (": " ++ e.description))
              isFailed := true
        if isFailed then setStatus 2
        else
          let isSame ← compareTexts c form [] left right (a.toOption.getD []) (b.toOption.getD [])
          setStatus (if isSame then 0 else 1)

end LspRelay.Tool
