import LspRelay.Host.Find.Reader
import LspRelay.Host.Process.Lookup
import LspRelay.Host.Tool.Listing

namespace LspRelay.Find

open Tool

/-- Something that has been found: its path, the path where the search began, what it is, and how
deep it lies. -/
structure Found where
  path : Bytes
  start : Bytes
  node : Node
  depth : Nat

/-- What a search keeps: whether the directory is left out, the paths for commands that run with all
of them, the last one first, and the files that are printed to. -/
structure State where
  isPruned : Bool
  gathered : List (Nat × Bytes)
  outputs : List (Bytes × Stream)

abbrev Search := ExceptT Unit (StateT State Act)

def withoutSlashes (bs : Bytes) : Bytes :=
  let cut := (bs.reverse.dropWhile (· = Octet.slash)).reverse
  if cut = [] then bs.take 1 else cut

def nameOf (path : Bytes) : Bytes :=
  let plain := withoutSlashes path
  let name := (plain.reverse.takeWhile (· ≠ Octet.slash)).reverse
  if name = [] then plain else name

def folderOf (path : Bytes) : Bytes :=
  if path.contains Octet.slash then
    ((path.reverse.dropWhile (· ≠ Octet.slash)).drop 1).reverse
  else [Octet.point]

def kindLetter : Node → Char
  | .directory .. => 'd'
  | .link _ => 'l'
  | .device _ => 'c'
  | .pipe .. => 'p'
  | _ => 'f'

namespace Found

def kindBehind (f : Found) (p : Process) : Char :=
  match p.files.node? p.here f.path with
  | some n => kindLetter n
  | none => 'N'

/-- When it was last changed, as one letter tells it. -/
def timeDetail (f : Found) (p : Process) (letter : UInt8) : Bytes :=
  let t := sessionInstant (p.files.timeOf f.node)
  let shown (form : String) : Bytes := t.formatted (8 * form.length) (ofText form)
  match Char.ofNat letter.toNat with
  | '@' => shown "%s.%N0"
  | 'S' => shown "%S.%N0"
  | 'T' => shown "%T.%N0"
  | 'X' => shown "%T.%N0"
  | '+' => shown "%Y-%m-%d+%T.%N0"
  | 'c' => shown "%a %b %e %T.%N0 %Y"
  | c => shown (String.ofList ['%', c])

def detail? (f : Found) (p : Process) (letter : Char) : Option Bytes :=
  let inner := f.path.drop f.start.length
  match letter with
  | 'p' => some f.path
  | 'f' => some (nameOf f.path)
  | 'h' => some (folderOf f.path)
  | 'H' => some f.start
  | 'P' => some (inner.dropWhile (· = Octet.slash))
  | 'd' => some (decimal f.depth)
  | 'y' => some [octet (kindLetter f.node)]
  | 'Y' => some [octet (f.kindBehind p)]
  | 'l' => some (match f.node with
    | .link target => target
    | _ => [])
  | 's' => some (decimal (Listed.size p.files f.node))
  | 'k' => some (decimal ((Listed.size p.files f.node + 4095) / 4096 * 4))
  | 'b' => some (decimal ((Listed.size p.files f.node + 4095) / 4096 * 8))
  | 'm' => some (Modes.octal 1 f.node.mode)
  | 'M' => some (Listed.modeText f.node)
  | 'n' => some (decimal (Listed.links p.files f.node))
  | 'u' => some (ofText "root")
  | 'g' => some (ofText "root")
  | 'U' => some [Octet.zero]
  | 'G' => some [Octet.zero]
  | 't' => some (f.timeDetail p (octet 'c'))
  | '%' => some [Octet.percent]
  | _ => none

/-- A format with details in place of its letters; what is unknown stays as it is. The fuel is the
length of the format. -/
def formatted (f : Found) (p : Process) : Nat → Bytes → Bytes
  | 0, _ => []
  | _ + 1, [] => []
  | fuel + 1, b :: bs =>
    if b ≠ Octet.percent then b :: formatted f p fuel bs
    else
      let isFlag (b : UInt8) : Bool := "#0-+ ".toList.contains (Char.ofNat b.toNat)
      let isDigit (b : UInt8) : Bool := octet '0' ≤ b && b ≤ octet '9'
      let flags := bs.takeWhile isFlag
      let digits := (bs.drop flags.length).takeWhile isDigit
      let shown := flags ++ digits
      match bs.drop shown.length with
      | [] => [b]
      | letter :: rest =>
        let isTime := letter = octet 'T' || letter = octet 'A' || letter = octet 'C'
        let (detail, rest) : Option Bytes × Bytes := match rest with
          | c :: rest => if isTime then (some (f.timeDetail p c), rest) else (none, c :: rest)
          | [] => (none, [])
        match detail.or (f.detail? p (Char.ofNat letter.toNat)) with
        | some detail =>
          (Layout.mk flags ((number? digits).getD 0) none).text detail ++ formatted f p fuel rest
        | none => b :: shown ++ letter :: formatted f p fuel rest

def line (f : Found) (p : Process) : Bytes :=
  let shown := match f.node with
    | .link target => f.path ++ ofText " -> " ++ target
    | _ => f.path
  let left (width : Nat) (bs : Bytes) : Bytes :=
    bs ++ List.replicate (width - bs.length) Octet.space
  lineOf (joined
    [padded 9 (ofText "1"), padded 6 (decimal ((Listed.size p.files f.node + 4095) / 4096 * 4)),
     Listed.modeText f.node, padded 3 (decimal (Listed.links p.files f.node)), left 8 (ofText "root"),
     left 8 (ofText "root"), padded 8 (decimal (Listed.size p.files f.node)), Listed.timeText p.files f.node,
     shown])

def holds (f : Found) (p : Process) (t : Test) : Bool :=
  let matched (g : List Shell.Glob) (folds : Bool) (bs : Bytes) : Bool :=
    Shell.Glob.matchesAll g (if folds then lower bs else bs)
  let age := p.files.now - p.files.timeOf f.node
  match t with
  | .name g folds => matched g folds (nameOf f.path)
  | .path g folds => matched g folds f.path
  | .target g folds =>
    match f.node with
    | .link target => matched g folds target
    | _ => false
  | .pattern r =>
    match (LspRelay.Regex.search? r (.ofBytes f.path) 0) with
    | some m => m.whole.start = 0 && m.whole.stop = f.path.length
    | none => false
  | .kind letters => letters.contains (kindLetter f.node)
  | .kindBehind letters =>
    let c := f.kindBehind p
    letters.contains (if c = 'N' then 'l' else c)
  | .empty =>
    match f.node with
    | .directory entries _ _ => entries.isEmpty
    | .file content _ => (p.files.bytesOf content).isEmpty
    | _ => false
  | .size unit b => b.holds ((Listed.size p.files f.node + unit - 1) / unit)
  | .mode m => m.holds f.node.mode
  | .links b => b.holds (Listed.links p.files f.node)
  | .days b => b.holds (age / 86400000).toNat
  | .minutes b =>
    let n := (age / 60000).toNat
    b.holds (if b matches .less _ then n else n + 1)
  | .newer time => time < p.files.timeOf f.node
  | .owned isOurs => isOurs
  | .executable => f.node.isDirectory || f.node.isExecutable
  | .same identity => !(f.node matches .link _) && p.files.identity? p.here f.path = some identity
  | .constant b => b

end Found

def filledIn (path : Bytes) : Bytes → Bytes
  | b :: c :: bs =>
    if [b, c] = Reader.braces then path ++ filledIn path bs else b :: filledIn path (c :: bs)
  | bs => bs

namespace Search

def complain (text : Bytes) : Search Unit := (Process.fail 1 text : Act Unit)

def refuse (path : Bytes) (e : SystemError) : Search Unit :=
  complain (between path ++ ofText (": " ++ e.description))

def emit (file : Option Bytes) (bs : Bytes) : Search Unit := do
  match file with
  | none => (Process.print bs : Act Unit)
  | some name =>
    match (← get).outputs.lookup name with
    | some s =>
      let _ ← (Process.writeStream s bs : Act (Except SystemError Unit))
    | none =>
      match ← (Process.openTarget name true : Act (Except SystemError Stream)) with
      | .ok s =>
        modify fun st => { st with outputs := (name, s) :: st.outputs }
        let _ ← (Process.writeStream s bs : Act (Except SystemError Unit))
      | .error e => refuse name e

def runs (command : List Bytes) (inside : Option Bytes) : Search Bool := do
  (Process.flush : Act Unit)
  let p ← (get : Act Process)
  let name := command.headD []
  match p.locate name with
  | .error e =>
    (Process.complain (between name ++ ofText (": " ++ e.description)) : Act Unit)
    return false
  | .ok _ =>
    let here : Path := match inside.map (Path.resolve p.files.root p.here true) with
      | some (.ok found) => found.place
      | _ => p.here
    let child ← (Process.callAs command (fun q => { q with here }) : Act Fate)
    return child.outcome = 0

def delete (f : Found) : Search Bool := do
  if f.path = [Octet.point] then return true
  else
    let p ← (get : Act Process)
    let change := if f.node.isDirectory then p.files.removeDirectory p.here f.path
      else p.files.unlink p.here f.path
    match change with
    | .ok files =>
      (modify fun p => { p with files } : Act Unit)
      return true
    | .error e =>
      complain (ofText "cannot delete " ++ between f.path ++ ofText (": " ++ e.description))
      return false

def isAgreed (command : List Bytes) (path : Bytes) : Search Bool := do
  (Process.flush : Act Unit)
  (Process.writeError (ofText "< " ++ command.headD [] ++ ofText " ... " ++ path ++
    ofText " > ? ") : Act Unit)
  match ← (Process.takeLines 0 1 1 : Act (Except SystemError Bytes)) with
  | .ok bs => return bs.head? = some (octet 'y') || bs.head? = some (octet 'Y')
  | .error _ => return false

def act (f : Found) (a : Action) : Search Bool := do
  match a with
  | .print mark file =>
    emit file (f.path ++ [mark])
    return true
  | .format text file =>
    let text := (Shell.unescape text).1
    let p ← (get : Act Process)
    emit file (f.formatted p (text.length + 1) text)
    return true
  | .list =>
    emit none (f.line (← (get : Act Process)))
    return true
  | .run command asks isInside =>
    let path := if isInside then ofText "./" ++ nameOf f.path else f.path
    let isMeant ← if asks then isAgreed command path else pure true
    if isMeant then
      runs (command.map (filledIn path)) (if isInside then some (folderOf f.path) else none)
    else return false
  | .gather n _ =>
    modify fun st => { st with gathered := (n, f.path) :: st.gathered }
    return true
  | .delete => delete f
  | .prune =>
    modify fun st => { st with isPruned := true }
    return true
  | .quit => throw ()

def eval (f : Found) : Query → Search Bool
  | .test t => do
    let p ← (get : Act Process)
    return f.holds p t
  | .act a => act f a
  | .no q => return !(← eval f q)
  | .both a b => do if ← eval f a then eval f b else return false
  | .either a b => do if ← eval f a then return true else eval f b
  | .after a b => do
    let _ ← eval f a
    eval f b

/-- What is at a path, through links if they are followed there. -/
def look (r : Request) (path : Bytes) (depth : Nat) : Search (Except SystemError Node) := do
  let p ← (get : Act Process)
  let follows := r.following = .always || (r.following = .named && depth = 0)
  let entry : Except SystemError Node := (p.files.place p.here path).map Prod.snd
  if follows then
    match p.files.node p.here path with
    | .ok n => return .ok n
    | .error _ => return entry
  else return entry

def below (r : Request) (start : Bytes) : Nat → Bytes → Nat → Search Unit
  | 0, _, _ => return
  | fuel + 1, path, depth => do
    match ← look r path depth with
    | .error e => refuse path e
    | .ok n =>
      let visit : Search Unit := do
        if r.least ≤ depth then
          let _ ← eval ⟨path, start, n, depth⟩ r.query
      let descend : Search Unit := do
        if n.isDirectory && r.most.all (depth < ·) then
          match ← look r path depth with
          | .error e => refuse path e
          | .ok n =>
            for (name, _) in n.entries do
              below r start fuel (inFolder path name) (depth + 1)
      if r.isDeepFirst then
        descend
        visit
      else
        modify fun st => { st with isPruned := false }
        visit
        if !(← get).isPruned then descend

def all (r : Request) : Search Unit := do
  try
    for start in r.starts do below r start (2 * depthLimit) start 0
  catch _ => pure ()
  for (n, command) in r.query.gathered do
    let paths := ((← get).gathered.filter fun g => g.1 = n).reverse.map Prod.snd
    if paths ≠ [] then
      if !(← runs (command ++ paths) none) then (Process.setStatus 1 : Act Unit)

end Search

end LspRelay.Find

namespace LspRelay.Tool

open Process

def find : Command := fun args => do
  let p ← get
  match Find.Request.read p.files p.here args with
  | .error problem => fail 1 problem.message
  | .ok request =>
    let _ ← StateT.run (ExceptT.run (Find.Search.all request)) ⟨false, [], []⟩

end LspRelay.Tool
