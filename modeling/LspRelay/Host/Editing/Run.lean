import LspRelay.Host.Editing.Reader
import LspRelay.Host.Process.Lines
import LspRelay.Host.Text.Layout
import LspRelay.Host.Tool.Options

namespace LspRelay.Editing

open Process

inductive Queued where
  | text (bs : Bytes)
  | file (path : Bytes)
  | line (path : Bytes)

structure Setting where
  isQuiet : Bool
  isSeparate : Bool
  inPlace : Option Bytes
  mark : UInt8
  width : Nat
  flushes : Bool

/-- The state between two commands. A range that has begun has an end, which may be a line number.
-/
structure Editor where
  script : Script
  setting : Setting
  origin : Bytes
  pattern : Bytes
  /-- Whether the line had its mark. -/
  isMarked : Bool
  held : Bytes
  isHeldMarked : Bool
  line : Nat
  queue : List Queued
  isChanged : Bool
  ranges : List (Nat × Option Nat)
  previous : Option Pattern
  files : List Bytes
  file : Bytes
  source : Option Lines
  readers : List (Bytes × Lines)
  targets : List (Bytes × Stream)
  /-- Whether what has been printed last lacks its mark. -/
  lacksMark : Bool
  /-- What is to become of the file that is edited in place, the last piece first. -/
  output : List Bytes
  status : Nat

abbrev Edit := StateT Editor Act

inductive Outcome where
  | onward
  | jump (place : Nat)
  | done (prints : Bool)
  | again
  | quit (status : Nat) (prints : Bool)

namespace Edit

def exit {α : Type} (status : Nat) : Edit α := Process.exit status

def stop {α : Type} (status : Nat) (text : Bytes) : Edit α := Process.die status text

def emit (bs : Bytes) : Edit Unit := do
  let e ← get
  if e.setting.inPlace.isSome ∧ e.file ≠ [Octet.dash] then
    set { e with output := bs :: e.output }
  else if e.setting.flushes then Process.write bs
  else Process.print bs

def put (bs : Bytes) : Edit Unit := do
  let e ← get
  if e.lacksMark then
    set { e with lacksMark := false }
    emit [e.setting.mark]
  emit bs

def putLine (bs : Bytes) : Edit Unit := do
  let e ← get
  if e.isMarked then put (bs ++ [e.setting.mark])
  else
    put bs
    modify fun e => { e with lacksMark := true }

def putTo (path bs : Bytes) : Edit Unit := do
  if path = ofText "/dev/stdout" then put bs
  else if path = ofText "/dev/stderr" then Process.writeError bs
  else
    match (← get).targets.lookup path with
    | some s => do
      let _ ← (Process.writeStream s bs : Act (Except SystemError Unit))
    | none => pure ()

def lineOfFile (path : Bytes) : Edit (Option Bytes) := do
  let e ← get
  let lines ← match e.readers.lookup path with
    | some l => pure l
    | none => do
      if path = ofText "/dev/stdin" then pure Lines.ofInput
      else
        match ← (Lines.ofPath path : Act (Except SystemError Lines)) with
        | .ok lines => pure lines
        | .error _ => pure (Lines.ofBytes [])
  let (line, lines) ← (lines.next e.setting.mark : Act (Option Bytes × Lines))
  modify fun e =>
    { e with readers := (path, lines) :: e.readers.filter fun r => r.1 ≠ path }
  return line

def putQueue : Edit Unit := do
  let e ← get
  set { e with queue := [] }
  for q in e.queue.reverse do
    match q with
    | .text bs => put bs
    | .file path =>
      match ← (Process.readFile path : Act (Except SystemError Bytes)) with
      | .ok bs => put bs
      | .error _ => put []
    | .line path =>
      match ← lineOfFile path with
      | some bs =>
        put (if bs.getLast? = some e.setting.mark then bs else bs ++ [e.setting.mark])
      | none => pure ()

def finishFile : Edit Unit := do
  let e ← get
  match e.setting.inPlace with
  | some ending =>
    if e.file ≠ [Octet.dash] ∧ e.source.isSome then
      if ending ≠ [] then
        match ← (Process.readFile e.file : Act (Except SystemError Bytes)) with
        | .ok bs => do
          let name := if ending.contains (octet '*') then
              ending.flatMap fun b => if b = octet '*' then e.file else [b]
            else e.file ++ ending
          let _ ← (Process.writeFile name bs true : Act (Except SystemError Unit))
        | .error _ => pure ()
      (Process.renewFile e.file e.output.reverse.flatten : Act Unit)
      set { e with output := [], lacksMark := false }
  | none => pure ()

def openNext : Nat → Edit Bool
  | 0 => return false
  | fuel + 1 => do
    let e ← get
    match e.files with
    | [] => return false
    | file :: files =>
      set { e with files }
      if file = [Octet.dash] ∧ e.setting.inPlace.isNone then
        modify fun e => { e with file, source := some .ofInput }
        return true
      else
        let refuse (text : Bytes) (status : Nat) : Edit Bool := do
          (Process.complain text : Act Unit)
          modify fun e => { e with status }
          openNext fuel
        match ← (Process.node file : Act (Except SystemError Node)) with
        | .error error =>
          refuse (ofText "can't read " ++ file ++ ofText (": " ++ error.description)) 2
        | .ok (.directory ..) =>
          if e.setting.inPlace.isSome then
            refuse (ofText "couldn't edit " ++ file ++ ofText ": not a regular file") 4
          else stop 4 (ofText "read error on " ++ file ++ ofText ": Is a directory")
        | .ok (.device (.stream 0)) =>
          modify fun e => { e with file, source := some .ofInput }
          return true
        | .ok _ =>
          match ← (Lines.ofPath file : Act (Except SystemError Lines)) with
          | .error error =>
            refuse (ofText "can't read " ++ file ++ ofText (": " ++ error.description)) 2
          | .ok lines =>
            modify fun e =>
              { e with
                file
                source := some lines
                line := if e.setting.isSeparate then 0 else e.line }
            return true

/-- Whether there is another line. Where files are separate, it is one of the present file. The fuel
is more than the number of files. -/
def hasMore (isHere : Bool) : Nat → Edit Bool
  | 0 => return false
  | fuel + 1 => do
    let e ← get
    match e.source with
    | some lines =>
      let (more, lines) ← (lines.hasMore : Act (Bool × Lines))
      modify fun e => { e with source := some lines }
      if more then return true
      else if isHere then return false
      else
        let e ← get
        if e.files = [] then return false
        else
          finishFile
          if ← openNext (e.files.length + 1) then hasMore isHere fuel
          else
            modify fun e => { e with source := none }
            return false
    | none =>
      if ← openNext (e.files.length + 1) then hasMore isHere fuel else return false

def isLast : Edit Bool := do
  let e ← get
  return !(← hasMore e.setting.isSeparate (e.files.length + 2))

def readLine (keeps : Bool) : Edit Bool := do
  putQueue
  modify fun e => { e with isChanged := false }
  let e ← get
  if ← hasMore false (e.files.length + 2) then
    let e ← get
    match e.source with
    | some lines =>
      let mark := e.setting.mark
      let (line, lines) ← (lines.next mark : Act (Option Bytes × Lines))
      let line := line.getD []
      let isMarked := line.getLast? = some mark
      let plain := if isMarked then line.dropLast else line
      modify fun e =>
        { e with
          source := some lines
          line := e.line + 1
          isMarked
          pattern := if keeps then e.pattern ++ mark :: plain else plain }
      return true
    | none => return false
  else return false

def patternOf (p : Option Pattern) : Edit Pattern := do
  match p with
  | some p =>
    modify fun e => { e with previous := some p }
    return p
  | none =>
    match (← get).previous with
    | some p => return p
    | none =>
      stop 1 ((← get).origin ++ ofText ("char 0: " ++ Problem.noPrevious.message))

def isAt (a : Address) : Edit Bool := do
  let e ← get
  match a with
  | .line n => return e.line = n
  | .last => isLast
  | .every first step => return first ≤ e.line && (e.line - first) % step = 0
  | .found p =>
    let p ← patternOf p
    return (p.regex.search? ⟨e.pattern.toArray, p.hasLines⟩ 0).isSome

def isWithin (i : Nat) (first : Address) (second : Bound) : Edit Bool := do
  let e ← get
  let leave : Edit Unit := modify fun e => { e with ranges := e.ranges.filter fun r => r.1 ≠ i }
  let enter (stop : Option Nat) : Edit Unit :=
    modify fun e => { e with ranges := (i, stop) :: e.ranges }
  match e.ranges.lookup i with
  | some (some stop) =>
    if stop ≤ e.line then leave
    return e.line ≤ stop
  | some none =>
    match second with
    | .at a => if ← isAt a then leave
    | _ => leave
    return true
  | none =>
    if first matches .line 0 ∧ e.line = 1 then
      match second with
      | .at a => if !(← isAt a) then enter none
      | _ => pure ()
      return true
    else if ← isAt first then
      match second with
      | .at (.line n) => if e.line < n then enter (some n)
      | .at _ => enter none
      | .further n => if n ≠ 0 then enter (some (e.line + n))
      | .multiple n =>
        let stop := if n = 0 then e.line else (e.line + n - 1) / n * n
        if e.line < stop then enter (some stop)
      return true
    else return false

def selects (i : Nat) (c : Command) : Edit Bool := do
  let isFound ← match c.first, c.second with
    | none, _ => pure true
    | some a, none => isAt a
    | some a, some b => isWithin i a b
  return isFound != c.isNegated

def cased (all one : Option Bool) (bs : Bytes) : Bytes :=
  let change (isUpper : Bool) (bs : Bytes) : Bytes := if isUpper then upper bs else lower bs
  let whole := match all with
    | some u => change u bs
    | none => bs
  match one, bs with
  | some u, b :: _ => change u [b] ++ whole.drop 1
  | _, _ => whole

def replacement (pieces : List Piece) (text : Bytes) (m : Match) : Bytes :=
  let part (s : Span) : Bytes := (text.take s.stop).drop s.start
  let (out, _, _) := pieces.foldl
    (fun (out, all, one) p =>
      let add (bs : Bytes) : List Bytes × Option Bool × Option Bool :=
        if bs = [] then (out, all, one) else (cased all one bs :: out, all, none)
      match p with
      | .text bs => add bs
      | .group 0 => add (part m.whole)
      | .group n => add (((m.groups.lookup n).map part).getD [])
      | .casing (.all u) => (out, some u, one)
      | .casing (.one u) => (out, all, some u)
      | .casing .end => (out, none, none))
    (([] : List Bytes), (none : Option Bool), (none : Option Bool))
  out.reverse.flatten

/-- A text with its matches replaced, and whether there were any that count. `seen` of them have
been found before, and the last one ended at `stop`. The fuel is more than the length of the text.
-/
def replaced (s : Substitution) (r : Regex) (t : Subject) (text : Bytes) :
    Nat → Nat → Nat → Option Nat → Bytes × Bool
  | 0, i, _, _ => (text.drop i, false)
  | fuel + 1, i, seen, stop =>
    if t.text.size < i then ([], false)
    else
      match r.search? t i with
      | none => (text.drop i, false)
      | some m =>
        let before := (text.take m.whole.start).drop i
        let isEmpty := m.whole.start = m.whole.stop
        let after := if isEmpty then (text.take (m.whole.stop + 1)).drop m.whole.stop else []
        let next := if isEmpty then m.whole.stop + 1 else m.whole.stop
        if isEmpty ∧ stop = some m.whole.start then
          let (rest, found) := replaced s r t text fuel next seen none
          (before ++ after ++ rest, found)
        else
          let seen := seen + 1
          if seen < s.start then
            let (rest, found) := replaced s r t text fuel next seen (some m.whole.stop)
            (before ++ (text.take m.whole.stop).drop m.whole.start ++ after ++ rest, found)
          else
            let new := replacement s.pieces text m
            if s.isGlobal then
              let (rest, _) := replaced s r t text fuel next seen (some m.whole.stop)
              (before ++ new ++ after ++ rest, true)
            else (before ++ new ++ text.drop m.whole.stop, true)

/-- A line with escapes for what cannot be seen, in pieces of a width. -/
def listed (width : Nat) (bs : Bytes) : Bytes :=
  let shown (b : UInt8) : Bytes :=
    if b = Octet.backslash then [b, b]
    else if 32 ≤ b ∧ b < 127 then [b]
    else Tool.escapedOctet b
  let (out, _) := bs.foldl
    (fun (out, used) b =>
      let piece := shown b
      if width ≠ 0 ∧ width - 1 < used + piece.length then
        (piece :: ofText "\\\n" :: out, piece.length)
      else (piece :: out, used + piece.length))
    (([] : List Bytes), 0)
  out.reverse.flatten ++ ofText "$\n"

def placeOf (name : Bytes) : Edit Nat := do
  let commands := (← get).script.commands
  if name = [] then return commands.size
  else
    match commands.findIdx? fun c => (c.action matches .label _) && labelName c.action = name with
    | some i => return i
    | none => return commands.size
where
  labelName : Action → Bytes
    | .label n => n
    | _ => []

def runShell (command : Bytes) : Edit Unit := do
  let _ ← (Process.call [ofText "sh", ofText "-c", command] : Act Nat)

def substitute (s : Substitution) : Edit Unit := do
  let p ← patternOf s.pattern
  let e ← get
  let t : Subject := ⟨e.pattern.toArray, p.hasLines⟩
  let (text, found) := replaced s p.regex t e.pattern (e.pattern.length + 2) 0 0 none
  if found then
    set { e with pattern := text, isChanged := true, previous := some p }
    if s.prints then putLine text
    match s.file with
    | some path => putTo path (text ++ [e.setting.mark])
    | none => pure ()

def perform (i : Nat) (c : Command) : Edit Outcome := do
  let e ← get
  let mark := e.setting.mark
  let firstLine := e.pattern.takeWhile (· ≠ mark)
  match c.action with
  | .block _ => return .onward
  | .closing => return .onward
  | .label _ => return .onward
  | .nothing => return .onward
  | .append bs =>
    set { e with queue := .text bs :: e.queue }
    return .onward
  | .insert bs =>
    put bs
    return .onward
  | .change bs =>
    if c.second.isNone ∨ c.isNegated ∨ (e.ranges.lookup i).isNone then put bs
    return .done false
  | .jump name => return .jump (← placeOf name)
  | .jumpIf changed name =>
    set { e with isChanged := false }
    if e.isChanged = changed then return .jump (← placeOf name) else return .onward
  | .delete => return .done false
  | .deleteFirst =>
    if firstLine.length = e.pattern.length then return .done false
    else
      set { e with pattern := e.pattern.drop (firstLine.length + 1) }
      return .again
  | .execute command =>
    if command = [] then runShell e.pattern else runShell command
    return .onward
  | .fileName =>
    put (lineOf e.file)
    return .onward
  | .take keeps =>
    set { e with
      pattern := if keeps then e.pattern ++ mark :: e.held else e.held
      isMarked := e.isHeldMarked }
    return .onward
  | .hold keeps =>
    set { e with
      held := if keeps then e.held ++ mark :: e.pattern else e.pattern
      isHeldMarked := e.isMarked }
    return .onward
  | .exchange =>
    set { e with
      pattern := e.held
      isMarked := e.isHeldMarked
      held := e.pattern
      isHeldMarked := e.isMarked }
    return .onward
  | .list width =>
    put (listed (width.getD e.setting.width) e.pattern)
    return .onward
  | .next =>
    if ← hasMore false (e.files.length + 2) then
      if !e.setting.isQuiet then putLine e.pattern
      let _ ← readLine false
      return .onward
    else return .quit (← get).status true
  | .nextToo =>
    if ← hasMore false (e.files.length + 2) then
      let _ ← readLine true
      return .onward
    else return .quit (← get).status true
  | .print =>
    putLine e.pattern
    return .onward
  | .printFirst =>
    put (firstLine ++ [mark])
    return .onward
  | .quit status prints => return .quit status prints
  | .readFile path =>
    set { e with queue := .file path :: e.queue }
    return .onward
  | .readLine path =>
    set { e with queue := .line path :: e.queue }
    return .onward
  | .substitute s =>
    substitute s
    return .onward
  | .number =>
    put (lineOf (decimal e.line))
    return .onward
  | .writeFile path =>
    if path = ofText "/dev/stdout" then putLine e.pattern else putTo path (e.pattern ++ [mark])
    return .onward
  | .writeFirst path =>
    putTo path (firstLine ++ [mark])
    return .onward
  | .mapOctets pairs =>
    set { e with pattern := e.pattern.map fun b => (pairs.lookup b).getD b }
    return .onward
  | .empty =>
    set { e with pattern := [] }
    return .onward

def stepLimit : Nat := Nat.pow 2 20

/-- Goes through the commands from one on. The fuel bounds their number; a script that needs more
goes on forever. -/
def goThrough : Nat → Nat → Edit Outcome
  | 0, _ => do
    (Process.flush : Act Unit)
    (Process.await none fun _ => false : Act Unit)
    exit 0
  | fuel + 1, i => do
    match (← get).script.commands[i]? with
    | none => return .done true
    | some c =>
      if ← selects i c then
        match ← perform i c with
        | .onward => goThrough fuel (i + 1)
        | .jump place => goThrough fuel place
        | outcome => return outcome
      else
        match c.action with
        | .block stop => goThrough fuel (stop + 1)
        | _ => goThrough fuel (i + 1)

def lineLimit : Nat := Nat.pow 2 22

def cycle : Nat → Bool → Edit Unit
  | 0, _ => do
    (Process.flush : Act Unit)
    (Process.await none fun _ => false : Act Unit)
  | fuel + 1, isAgain => do
    let isThere ← if isAgain then pure true else readLine false
    if isThere then
      let finish (prints : Bool) : Edit Unit := do
        let e ← get
        if prints && !e.setting.isQuiet then putLine e.pattern
      match ← goThrough stepLimit 0 with
      | .done prints =>
        finish prints
        cycle fuel false
      | .again =>
        putQueue
        cycle fuel true
      | .quit status prints =>
        finish prints
        putQueue
        finishFile
        modify fun e => { e with status }
      | _ => cycle fuel false
    else finishFile

end Edit

def Script.targets (s : Script) : List Bytes :=
  s.commands.toList.filterMap fun c =>
    match c.action with
    | .writeFile path => some path
    | .writeFirst path => some path
    | .substitute s => s.file
    | _ => none

/-- The labels that a script jumps to and does not have. -/
def Script.missingLabel? (s : Script) : Option Bytes :=
  let labels := s.commands.toList.filterMap fun c =>
    match c.action with
    | .label n => some n
    | _ => none
  s.commands.toList.findSome? fun c =>
    let missing (n : Bytes) : Option Bytes := if n ≠ [] ∧ n ∉ labels then some n else none
    match c.action with
    | .jump n => missing n
    | .jumpIf _ n => missing n
    | _ => none

def Origin.shown (o : Origin) : Bytes :=
  match o with
  | .argument n => ofText ("-e expression #" ++ toString n ++ ", ")
  | .file name => ofText "file " ++ name ++ ofText " line "

end LspRelay.Editing

namespace LspRelay.Tool

open Process

def sedOptions : List Choice :=
  [option 'n' "quiet" .nothing, named 'n' "silent" .nothing, named 'd' "debug" .nothing,
   option 'e' "expression" .value, option 'f' "file" .value, named 'k' "follow-symlinks" .nothing,
   option 'i' "in-place" .optional, option 'l' "line-length" .value, named 'p' "posix" .nothing,
   option 'E' "regexp-extended" .nothing, option 'r' "" .nothing, option 's' "separate" .nothing,
   named 'b' "sandbox" .nothing, option 'u' "unbuffered" .nothing,
   option 'z' "null-data" .nothing]

def sedUsage : String :=
  "Usage: sed [OPTION]... \x7bscript-only-if-no-other-script\x7d [input-file]...\n"

def sed : Command := fun args => do
  let refuse (text : Bytes) : Act Unit := do
    if text ≠ [] then complain text
    writeError (ofText sedUsage)
    exit 1
  match readOptions sedOptions true (args.length + 1) args with
  | .error text => refuse text
  | .ok c =>
    let hasScript := c.has 'e' || c.has 'f'
    if !hasScript ∧ c.operands = [] then refuse []
    let given : List (Char × Bytes) :=
      if hasScript then c.options.filter fun o => o.1 = 'e' || o.1 = 'f'
      else [('e', c.operands.headD [])]
    let operands := if hasScript then c.operands else c.operands.tail
    let mut parts : List Editing.Part := []
    let mut count := 0
    for (key, value) in given do
      if key = 'e' then
        count := count + 1
        parts := parts ++ [⟨.argument count, value⟩]
      else
        match ← readOperand value with
        | .ok bs => parts := parts ++ [⟨.file value, bs⟩]
        | .error .isADirectory => parts := parts ++ [⟨.file value, []⟩]
        | .error e =>
          die 4 (ofText "couldn't open file " ++ value ++ ofText (": " ++ e.description))
    let isExtended := c.has 'E' || c.has 'r'
    let originOf (i : Nat) : Editing.Origin :=
      ((parts[i]?).map Editing.Part.origin).getD (.argument count)
    match Editing.Script.read isExtended parts with
    | .error f =>
      let place := f.place.getD 0
      let text := ofText f.problem.message
      match originOf f.part with
      | .argument n =>
        let origin := (Editing.Origin.argument n).shown
        die 1 (origin ++ ofText ("char " ++ toString place ++ ": ") ++ text)
      | .file name =>
        let before := (((parts[f.part]?).map Editing.Part.text).getD []).take place
        let line := if f.place.isNone then 0 else before.count Octet.lineFeed + 1
        die 1 ((Editing.Origin.file name).shown ++ ofText (toString line ++ ": ") ++ text)
    | .ok script =>
      match script.missingLabel? with
      | some name =>
        die 4 (ofText "can't find label for jump to \x60" ++ name ++ ofText "'")
      | none => pure ()
      let mut targets : List (Bytes × Stream) := []
      for path in script.targets do
        if path ≠ ofText "/dev/stdout" ∧ path ≠ ofText "/dev/stderr" ∧
            (targets.lookup path).isNone then
          match ← openTarget path true with
          | .ok s => targets := (path, s) :: targets
          | .error e =>
            die 4 (ofText "couldn't open file " ++ path ++ ofText (": " ++ e.description))
      let width ← match c.value? 'l' with
        | none => pure 70
        | some text =>
          match number? text with
          | some n => pure n
          | none => die 1 (ofText "invalid line length: " ++ text)
      let inPlace := if c.has 'i' then some ((c.value? 'i').getD []) else none
      let setting : Editing.Setting :=
        { isQuiet := c.has 'n' || script.isQuiet
          isSeparate := c.has 's' || c.has 'i'
          inPlace
          mark := if c.has 'z' then 0 else Octet.lineFeed
          width
          flushes := c.has 'u' }
      let editor : Editing.Editor :=
        { script
          setting
          origin := ofText ("-e expression #" ++ toString count ++ ", ")
          pattern := []
          isMarked := true
          held := []
          isHeldMarked := true
          line := 0
          queue := []
          isChanged := false
          ranges := []
          previous := none
          files := if operands = [] then [[Octet.dash]] else operands
          file := [Octet.dash]
          source := none
          readers := []
          targets
          lacksMark := false
          output := []
          status := 0 }
      let ((), editor) ← StateT.run (Editing.Edit.cycle Editing.Edit.lineLimit false) editor
      setStatus editor.status

end LspRelay.Tool
