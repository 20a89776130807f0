import LspRelay.Host.Shell.Format
import LspRelay.Host.Shell.Glob
import LspRelay.Host.Tool.Moving
import LspRelay.Host.Tool.Show

namespace LspRelay.Tool

open Process

structure Listed where
  name : Bytes
  node : Node

namespace Listed

def size (files : Files) : Node → Nat
  | .file content _ => (files.bytesOf content).length
  | .program _ => Nat.pow 2 15
  | .directory .. => 4096
  | .link target => target.length
  | .device _ => 0
  | .pipe .. => 0

def kindLetter : Node → Char
  | .directory .. => 'd'
  | .pipe .. => 'p'
  | .link _ => 'l'
  | .device _ => 'c'
  | _ => '-'

def modeText (n : Node) : Bytes := octet (kindLetter n) :: Modes.letters n.mode

def links (files : Files) : Node → Nat
  | .directory entries _ _ => 2 + (entries.filter fun e => e.2.isDirectory).length
  | .file (.kept number) _ => files.root.names number
  | _ => 1

/-- When it was last changed, with the hour or, if that is long ago, the year. -/
def timeText (files : Files) (n : Node) : Bytes :=
  let t := sessionInstant (files.timeOf n)
  let age := (sessionInstant files.now).seconds - t.seconds
  let form : Bytes := ofText (if 0 ≤ age ∧ age < 15778476 then "%b %e %H:%M" else "%b %e  %Y")
  t.formatted (8 * form.length) form

def mark (folders all : Bool) (n : Node) : Bytes :=
  match n with
  | .directory .. => if folders || all then [Octet.slash] else []
  | .link _ => if all then ofText "@" else []
  | .pipe .. => if all then ofText "|" else []
  | n => if all && n.isExecutable then ofText "*" else []

def escaped (quote : Option UInt8) (bs : Bytes) : Bytes :=
  bs.flatMap fun b =>
    if b = Octet.backslash ∨ some b = quote then [Octet.backslash, b]
    else if quote.isNone ∧ b = Octet.space then [Octet.backslash, b]
    else if isPrinted b then [b]
    else escapedOctet b

end Listed

/-- Runs of digits and of other octets, so that numbers in names count as numbers. -/
def versionKey (bs : Bytes) : List (Nat × Bytes) :=
  let isDigit (b : UInt8) : Bool := octet '0' ≤ b && b ≤ octet '9'
  let runs := bs.foldr
    (fun b (runs : List (Bool × Bytes)) =>
      match runs with
      | (digits, run) :: rest =>
        if digits = isDigit b then (digits, b :: run) :: rest else (isDigit b, [b]) :: runs
      | [] => [(isDigit b, [b])])
    []
  runs.map fun (digits, run) => if digits then ((number? run).getD 0, []) else (0, run)

def versionBefore : List (Nat × Bytes) → List (Nat × Bytes) → Bool
  | [], _ => true
  | _, [] => false
  | (m, a) :: as, (n, b) :: bs =>
    if a ≠ b then a < b else if m ≠ n then m < n else versionBefore as bs

def endingOf (name : Bytes) : Bytes :=
  if name.contains Octet.point then
    Octet.point :: (name.reverse.takeWhile (· ≠ Octet.point)).reverse
  else []

def inOrder (files : Files) (c : Chosen) (entries : List Listed) : List Listed :=
  let byName (a b : Listed) : Bool := a.name ≤ b.name
  let sorted := match c.last? ['U', 'f', 'S', 'X', 'v', 't'] with
    | some 'U' => entries
    | some 'f' => entries
    | some 'S' =>
      entries.mergeSort fun a b =>
        let m := Listed.size files a.node
        let n := Listed.size files b.node
        if m = n then byName a b else n < m
    | some 't' =>
      entries.mergeSort fun a b =>
        let s := files.timeOf a.node
        let t := files.timeOf b.node
        if s = t then byName a b else t < s
    | some 'X' =>
      entries.mergeSort fun a b =>
        let m := endingOf a.name
        let n := endingOf b.name
        if m = n then byName a b else m < n
    | some 'v' =>
      entries.mergeSort fun a b => versionBefore (versionKey a.name) (versionKey b.name)
    | _ => entries.mergeSort byName
  if c.has 'r' then sorted.reverse else sorted

def indented : Nat → Nat → Nat → Bytes
  | 0, _, _ => []
  | fuel + 1, start, stop =>
    if stop ≤ start then []
    else if (start + 1) / 8 < stop / 8 then
      Octet.tab :: indented fuel (start + 8 - start % 8) stop
    else Octet.space :: indented fuel (start + 1) stop

def inColumns (width : Nat) (isAcross : Bool) (texts : List Bytes) : Bytes :=
  let n := texts.length
  let rowsFor (columns : Nat) : Nat := (n + columns - 1) / columns
  let columnOf (columns i : Nat) : Nat := if isAcross then i % columns else i / rowsFor columns
  let widths (columns : Nat) : List Nat :=
    (List.range columns).map fun k =>
      (texts.zipIdx.filterMap fun (t, i) =>
        if columnOf columns i = k then
          some (t.length + if k + 1 = columns then 0 else 2)
        else none).foldl max (if k + 1 = columns then 1 else 3)
  let most := max 1 (min n (width / 3 + if width % 3 ≠ 0 then 1 else 0))
  let columns := ((List.range most).reverse.find? fun k =>
    total (widths (k + 1)) < width).map (· + 1)
  let columns := columns.getD 1
  let rows := rowsFor columns
  let starts := (widths columns).foldl (fun (all, at') w => (all ++ [at'], at' + w)) ([], 0)
  let rowText (r : Nat) : Bytes :=
    let cells := (List.range columns).filterMap fun k =>
      let i := if isAcross then r * columns + k else k * rows + r
      if columnOf columns i = k ∧ i < n then
        (texts[i]?).map fun t => ((starts.1[k]?).getD 0, t)
      else none
    let (out, _) := cells.foldl
      (fun (out, column) (start, t) =>
        (out ++ indented width column start ++ t, start + t.length)) (([] : Bytes), 0)
    lineOf out
  if n = 0 then [] else ((List.range rows).map rowText).flatten

def withCommas (width : Nat) (texts : List Bytes) : Bytes :=
  let (out, _) := texts.zipIdx.foldl
    (fun (out, column) (t, i) =>
      if i = 0 then (out ++ t, t.length)
      else if column + 2 + t.length < width then (out ++ ofText ", " ++ t, column + 2 + t.length)
      else (out ++ ofText ",\n" ++ t, t.length)) (([] : Bytes), 0)
  if texts = [] then [] else lineOf out

def shownEntries (files : Files) (c : Chosen) (entries : List Listed) : Bytes :=
  let isLong := match c.last? ['l', 'g', 'n', 'o', '1', 'C', 'x', 'm'] with
    | some k => "lgno".toList.contains k || (k = '1' && c.options.any fun o =>
        "lgno".toList.contains o.1)
    | none => false
  let nameOf (e : Listed) : Bytes :=
    let name := match c.last? ['Q', 'b', 'N'] with
      | some 'Q' =>
        Octet.doubleQuote :: Listed.escaped (some Octet.doubleQuote) e.name ++ [Octet.doubleQuote]
      | some 'b' => Listed.escaped none e.name
      | _ => if c.has 'q' then e.name.map fun b => if isPrinted b then b else octet '?' else e.name
    let arrow : Bytes := match e.node with
      | .link target => if isLong then ofText " -> " ++ target else []
      | _ => []
    let mark := Listed.mark (c.has 'p') (c.last? ['F', 'p'] = some 'F' && !(isLong && arrow ≠ []))
      e.node
    (if c.has 'i' then ofText "1 " else []) ++
      (if c.has 's' then decimal ((Listed.size files e.node + 4095) / 4096 * 4) ++ [Octet.space]
        else []) ++
      name ++ mark ++ arrow
  let width := ((c.value? 'w').bind number?).getD 80
  let width := if width = 0 then Nat.pow 10 6 else width
  if isLong then
    let column (f : Listed → Bytes) : Nat := (entries.map fun e => (f e).length).foldl max 0
    let count (e : Listed) : Bytes := decimal (Listed.links files e.node)
    let size (e : Listed) : Bytes := decimal (Listed.size files e.node)
    let owner : Bytes := if c.has 'g' then [] else ofText (if c.has 'n' then "0 " else "root ")
    let group : Bytes := if c.has 'o' ∨ c.has 'G' then [] else
      ofText (if c.has 'n' then "0 " else "root ")
    entries.flatMap fun e =>
      lineOf (Listed.modeText e.node ++ [Octet.space] ++ padded (column count) (count e) ++
        [Octet.space] ++ owner ++ group ++ padded (column size) (size e) ++
        [Octet.space] ++ Listed.timeText files e.node ++ [Octet.space] ++ nameOf e)
  else
    let texts := entries.map nameOf
    match c.last? ['1', 'C', 'x', 'm'] with
    | some 'C' => inColumns width false texts
    | some 'x' => inColumns width true texts
    | some 'm' => withCommas width texts
    | _ => texts.flatMap fun t => t ++ [if c.has 'z' then 0 else Octet.lineFeed]

def entriesOf (c : Chosen) (n : Node) : List Listed :=
  let isHidden (name : Bytes) : Bool := name.head? = some Octet.point
  let ignored := (c.values 'I') ++ (if c.has 'B' then [ofText "*~", ofText ".*~"] else [])
  let own := n.entries.filter fun e =>
    (c.has 'a' || c.has 'A' || c.has 'f' || !isHidden e.1) &&
      !ignored.any fun pattern => Shell.Glob.matchesAll (Shell.Glob.ofBytes pattern) e.1
  let dots : List (Bytes × Node) :=
    if (c.last? ['a', 'A', 'f']).any (· ≠ 'A') then
      [Path.dot, Path.dots].map fun name => (name, .directory [] 0o755 Files.oldTime)
    else []
  (dots ++ own).map fun (name, n) => ⟨name, n⟩

def foldersBelow (files : Files) (c : Chosen) : Nat → Bytes → Node → List (Bytes × Node)
  | 0, _, _ => []
  | fuel + 1, path, n =>
    (inOrder files c (entriesOf c n)).flatMap fun e =>
      if e.node.isDirectory ∧ e.name ≠ Path.dot ∧ e.name ≠ Path.dots then
        let path := inFolder path e.name
        (path, e.node) :: foldersBelow files c fuel path e.node
      else []

def ls : Command := fun args =>
  let known := [option 'a' "all" .nothing, option 'A' "almost-all" .nothing,
    option 'b' "escape" .nothing, option 'B' "ignore-backups" .nothing,
    named 'c' "block-size" .value, option 'd' "directory" .nothing,
    option 'F' "classify" .optional, option 'G' "no-group" .nothing,
    option 'h' "human-readable" .nothing, option 'H' "dereference-command-line" .nothing,
    option 'i' "inode" .nothing, option 'I' "ignore" .value, named 'I' "hide" .value,
    option 'L' "dereference" .nothing, option 'n' "numeric-uid-gid" .nothing,
    option 'N' "literal" .nothing, option 'p' "" .nothing, option 'q' "hide-control-chars" .nothing,
    option 'Q' "quote-name" .nothing, option 'r' "reverse" .nothing,
    option 'R' "recursive" .nothing, option 's' "size" .nothing, named 'e' "sort" .value,
    named 'T' "time" .value, option 'T' "tabsize" .value, option 'w' "width" .value,
    option 'Z' "context" .nothing, named 'O' "color" .optional, named 'z' "zero" .nothing,
    named 'D' "group-directories-first" .nothing, named 'y' "indicator-style" .value,
    named 'Y' "quoting-style" .value, named 'X' "format" .value] ++
    letters "1CcfgklmoStuUvxX" .nothing
  withOptions known 2 args fun c => do
    let all := (← get).files
    let mut plain : List Listed := []
    let mut folders : List Listed := []
    let operands := if c.operands = [] then [Path.dot] else c.operands
    let isLong := c.options.any fun o => "lgno".toList.contains o.1
    for path in operands do
      let p ← get
      let own := p.files.place p.here path
      let follows := c.has 'L' || c.has 'H' || !(c.has 'd' || isLong || c.has 'F')
      let found : Except SystemError Node := match own with
        | .ok (_, .link target) =>
          if follows then
            match p.files.node p.here path with
            | .ok n => .ok n
            | .error _ => .ok (.link target)
          else .ok (.link target)
        | .ok (_, n) =>
          if path.getLast? = some Octet.slash ∧ !n.isDirectory then .error .notADirectory else .ok n
        | .error e => .error e
      match found with
      | .error e =>
        fail 2 (ofText "cannot access " ++ shellQuoted path ++ ofText (": " ++ e.description))
      | .ok n =>
        if n.isDirectory ∧ !c.has 'd' then folders := folders ++ [⟨path, n⟩]
        else plain := plain ++ [⟨path, n⟩]
    print (shownEntries all c (inOrder all c plain))
    let isTitled := c.has 'R' || 1 < operands.length
    let mut isFirst := plain.isEmpty
    for folder in inOrder all c folders do
      let listed := (folder.name, folder.node) ::
        (if c.has 'R' then foldersBelow all c depthLimit folder.name folder.node else [])
      for (path, n) in listed do
        if !isFirst then print [Octet.lineFeed]
        isFirst := false
        if isTitled then print (path ++ ofText ":\n")
        let entries := inOrder all c (entriesOf c n)
        if isLong ∨ c.has 's' then
          let blocks := total (entries.map fun e => (Listed.size all e.node + 4095) / 4096 * 4)
          print (lineOf (ofText "total " ++ decimal blocks))
        print (shownEntries all c entries)

def fileDetail (files : Files) (path : Bytes) (n : Node) (letter : Char) : Option Bytes :=
  let time := sessionInstant (files.timeOf n)
  match letter with
  | 'n' => some path
  | 'N' => some (match n with
    | .link target => arrow path target
    | _ => shellQuoted path)
  | 's' => some (decimal (Listed.size files n))
  | 'a' => some (Modes.octal 1 n.mode)
  | 'A' => some (Listed.modeText n)
  | 'f' =>
    let kind : Nat := match n with
      | .directory .. => 0o40000
      | .link _ => 0o120000
      | .device _ => 0o20000
      | .pipe .. => 0o10000
      | _ => 0o100000
    some ((Nat.toDigits 16 (kind + n.mode)).map octet)
  | 'F' => some (ofText (kindOf files n))
  | 'h' => some (decimal (Listed.links files n))
  | 'U' => some (ofText "root")
  | 'G' => some (ofText "root")
  | 'u' => some (ofText "0")
  | 'g' => some (ofText "0")
  | 'b' => some (decimal ((Listed.size files n + 4095) / 4096 * 8))
  | 'B' => some (ofText "512")
  | 'o' => some (ofText "4096")
  | 't' => some (ofText "0")
  | 'T' => some (ofText "0")
  | '%' => some [Octet.percent]
  | letter =>
    if "XYZ".toList.contains letter then some (ofText (toString time.seconds))
    else if "xyz".toList.contains letter then
      let form := ofText "%Y-%m-%d %H:%M:%S.%N %z"
      some (time.formatted (8 * form.length) form)
    else none

/-- A format with the details of a file in place of its letters. The fuel is the length of the
format. -/
def fileDetails (files : Files) (path : Bytes) (n : Node) : Nat → Bytes → Bytes
  | 0, _ => []
  | _ + 1, [] => []
  | fuel + 1, b :: bs =>
    if b ≠ Octet.percent then b :: fileDetails files path n fuel bs
    else
      let isFlag (b : UInt8) : Bool := "#0-+ ".toList.contains (Char.ofNat b.toNat)
      let isDigit (b : UInt8) : Bool := octet '0' ≤ b && b ≤ octet '9'
      let flags := bs.takeWhile isFlag
      let digits := (bs.drop flags.length).takeWhile isDigit
      match bs.drop (flags.length + digits.length) with
      | [] => [b]
      | letter :: rest =>
        let detail := (fileDetail files path n (Char.ofNat letter.toNat)).getD [octet '?']
        (Layout.mk flags ((number? digits).getD 0) none).text detail ++ fileDetails files path n fuel rest

def stat : Command := fun args =>
  let known := [option 'L' "dereference" .nothing, option 'f' "file-system" .nothing,
    option 'c' "format" .value, named 'p' "printf" .value, option 't' "terse" .nothing]
  withOptions known 1 args fun c => do
    if c.operands = [] then missingOperand 1
    for path in c.operands do
      let p ← get
      let found := if c.has 'L' then p.files.node p.here path
        else (p.files.place p.here path).map Prod.snd
      match found with
      | .error e =>
        fail 1 (ofText (if c.has 'L' then "cannot stat " else "cannot statx ") ++
          shellQuoted path ++ ofText (": " ++ e.description))
      | .ok n =>
        let detailed (format : Bytes) : Bytes := fileDetails p.files path n (format.length + 1) format
        match c.last? ['c', 'p'] with
        | some 'c' => printLine (detailed ((c.value? 'c').getD []))
        | some _ => print (detailed (Shell.unescape ((c.value? 'p').getD [])).1)
        | none =>
          print (detailed (ofText ("  File: %N\n  Size: %-10s\tBlocks: %-10b IO Block: %-6o %F\n" ++
            "Device: 0,1\tInode: 1           Links: %h\nAccess: (%04a/%10.10A)  " ++
            "Uid: (%5u/%8U)   Gid: (%5g/%8G)\n")))

end LspRelay.Tool
