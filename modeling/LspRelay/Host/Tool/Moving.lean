import LspRelay.Host.Process.Lines
import LspRelay.Host.Tool.Folders

namespace LspRelay.Tool

open Process

def inFolder (folder name : Bytes) : Bytes :=
  (if folder.getLast? = some Octet.slash then folder else folder ++ [Octet.slash]) ++ name

def isFolder (path : Bytes) : Act Bool := return ((← node path).toOption).any Node.isDirectory

def withTargets (c : Chosen) (isLink : Bool) (f : List (Bytes × Bytes) → Act Unit) : Act Unit := do
  let into (folder : Bytes) (files : List Bytes) : Act Unit :=
    f (files.map fun file => (file, inFolder folder (lastName file)))
  let state (path : Bytes) : Act SystemError := do
    match ← node path with
    | .ok _ => return .notADirectory
    | .error e => return e
  match c.value? 't', c.operands.reverse with
  | _, [] => misuse 1 (ofText "missing file operand")
  | some folder, files =>
    if ← isFolder folder then into folder files.reverse
    else
      die 1 (ofText "target directory " ++ shellQuoted folder ++
        ofText (": " ++ (← state folder).description))
  | none, [file] =>
    if isLink ∧ !c.has 'T' then into Path.dot [file]
    else misuse 1 (ofText "missing destination file operand after " ++ shellQuoted file)
  | none, target :: files =>
    if c.has 'T' then
      match files with
      | [file] => f [(file, target)]
      | _ => misuse 1 (ofText "extra operand " ++ shellQuoted ((c.operands[2]?).getD []))
    else if (← isFolder target) && !(isLink && c.has 'n' &&
        (((← get).files.entry? (← get).here target).any fun n => !n.isDirectory)) then
      into target files.reverse
    else
      match files with
      | [file] => f [(file, target)]
      | _ =>
        die 1 (ofText "target " ++ shellQuoted target ++
          ofText (": " ++ (← state target).description))

/-- Where a path leads, without following a link that comes last. -/
def placeOf (path : Bytes) : Act (Except SystemError Path.Found) := do
  let p ← get
  return Path.resolve p.files.root p.here false path

def put (place : Path) (n : Option Node) : Act Unit :=
  modify fun p => { p with files := p.files.put place n }

def setTime (place : Path) (time : Int) : Act Unit :=
  modify fun p => { p with files := p.files.setTime place time }

def tell (c : Chosen) (text : Bytes) : Act Unit := if c.has 'v' then printLine text else pure ()

def arrow (source target : Bytes) : Bytes :=
  shellQuoted source ++ ofText " -> " ++ shellQuoted target

def copyEntry (c : Chosen) (source target : Bytes) (n : Node) : Act Unit := do
  let refuse (what : String) (e : SystemError) : Act Unit :=
    fail 1 (ofText ("cannot create " ++ what ++ " ") ++ shellQuoted target ++
      ofText (": " ++ e.description))
  let keeps := c.has 'p' || c.has 'a'
  let before := ((← get).files.entry? (← get).here target)
  match n with
  | .directory _ mode _ =>
    match ← node target with
    | .ok (.directory ..) => pure ()
    | .ok _ =>
      fail 1 (ofText "cannot overwrite non-directory " ++ shellQuoted target ++
        ofText " with directory " ++ shellQuoted source)
    | .error _ =>
      let mode ← if keeps then pure mode else newMode mode
      match ← change fun files here => files.makeDirectory here target mode with
      | .ok () => tell c (arrow source target)
      | .error e => refuse "directory" e
  | .link path =>
    match ← placeOf target with
    | .ok found =>
      if found.node.any Node.isDirectory then
        fail 1 (ofText "cannot overwrite directory " ++ shellQuoted target ++
          ofText " with non-directory " ++ shellQuoted source)
      else
        put found.place (some (.link path))
        tell c (arrow source target)
    | .error e => refuse "symbolic link" e
  | n =>
    if before.any Node.isDirectory then
      fail 1 (ofText "cannot overwrite directory " ++ shellQuoted target ++
        ofText " with non-directory")
    else
      match n, before with
      | .program name, none =>
        match ← placeOf target with
        | .ok found => put found.place (some (.program name))
        | .error e => refuse "regular file" e
      | _, _ =>
        match ← readFile source with
        | .error e =>
          fail 1 (ofText "cannot open " ++ shellQuoted source ++
            ofText (" for reading: " ++ e.description))
        | .ok bs =>
          match ← writeFile target bs true with
          | .error e =>
            refuse "regular file"
              (if target.getLast? = some Octet.slash then .notADirectory else e)
          | .ok () =>
            if before.isNone ∨ keeps then
              let mode ← if keeps then pure n.mode else newMode n.mode
              let p ← get
              match Path.resolve p.files.root p.here true target with
              | .ok found =>
                modify fun p =>
                  { p with
                    files := p.files.alter found.place (found.node.map fun t => t.withMode mode) }
                if keeps then setTime found.place (p.files.timeOf n)
              | .error _ => pure ()
            tell c (arrow source target)

def isAgreed (question : Bytes) : Act Bool := do
  flush
  writeError ((← get).label ++ ofText ": " ++ question ++ ofText "? ")
  let (line, _) ← Lines.ofInput.next Octet.lineFeed
  return (line.getD []).head?.any fun b => b = octet 'y' || b = octet 'Y'

/-- Whether something is not newer than what stands where it is going to. -/
def isOld (source target : Bytes) : Act Bool := do
  let p ← get
  match p.files.time? p.here source, p.files.time? p.here target with
  | some s, some t => return s ≤ t
  | _, _ => return false

def isSame (source target : Bytes) (follows : Bool) : Act Bool := do
  let p ← get
  let placeOf (path : Bytes) : Option Path :=
    (Path.resolve p.files.root p.here follows path).toOption.bind fun found =>
      found.node.map fun _ => found.place
  return ((placeOf source).isSome && placeOf source = placeOf target) ||
    (follows && p.files.areSame p.here source target)

/-- Whether a target may be used: if it is there, that may have to be agreed on. -/
def allows (c : Chosen) (target : Bytes) : Act Bool := do
  let isThere := ((← get).files.entry? (← get).here target).any fun n => !n.isDirectory
  if isThere ∧ c.last? ['i', 'f', 'n'] = some 'i' then
    isAgreed (ofText "overwrite " ++ shellQuoted target)
  else return true

def copyTo (c : Chosen) (source target : Bytes) : Act Unit := do
  let isDeep := c.has 'r' || c.has 'R' || c.has 'a'
  let follows := match c.last? ['L', 'P', 'd', 'a'] with
    | some 'L' => true
    | some _ => false
    | none => !isDeep
  let p ← get
  let found := if follows then p.files.node p.here source
    else (p.files.place p.here source).map Prod.snd
  match found with
  | .error e =>
    fail 1 (ofText "cannot stat " ++ shellQuoted source ++ ofText (": " ++ e.description))
  | .ok n =>
    if n.isDirectory ∧ !isDeep then
      fail 1 (ofText "-r not specified; omitting directory " ++ shellQuoted source)
    else if (← placeOf target) matches .error .notADirectory then
      fail 1 (ofText "cannot stat " ++ shellQuoted target ++ ofText ": Not a directory")
    else if ← isSame source target true then
      fail 1 (shellQuoted source ++ ofText " and " ++ shellQuoted target ++
        ofText " are the same file")
    else if c.has 'n' ∧ (p.files.entry? p.here target).isSome then
      pure ()
    else if c.has 'u' ∧ !n.isDirectory ∧ (← isOld source target) then pure ()
    else if !(← allows c target) then pure ()
    else if !n.isDirectory then
      if c.has 's' then
        match ← placeOf target with
        | .ok found => put found.place (some (.link source))
        | .error e =>
          fail 1 (ofText "cannot create symbolic link " ++ shellQuoted target ++
            ofText (" to " ) ++ shellQuoted source ++ ofText (": " ++ e.description))
      else copyEntry c source target n
    else
      let start := (Path.resolve p.files.root p.here true source).toOption.map Path.Found.place
      let stop := (Path.resolve p.files.root p.here true target).toOption.map Path.Found.place
      let isInside := match start, stop with
        | some a, some b => a.isPrefixOf b && a ≠ b
        | _, _ => false
      if isInside then
        fail 1 (ofText "cannot copy a directory, " ++ shellQuoted source ++
          ofText ", into itself, " ++ shellQuoted target)
      else
        for (path, n) in below depthLimit source n do
          let rest := path.drop source.length
          let rest := if source.getLast? = some Octet.slash ∧ rest ≠ [] then Octet.slash :: rest
            else rest
          let p ← get
          let n := match n, follows with
            | .link _, true => (p.files.node? p.here path).getD n
            | n, _ => n
          copyEntry c path (target ++ rest) n

def cp : Command := fun args =>
  let known := [option 'a' "archive" .nothing, named 'A' "attributes-only" .nothing,
    option 'b' "" .nothing, option 'd' "" .nothing, option 'f' "force" .nothing,
    option 'i' "interactive" .nothing, option 'l' "link" .nothing,
    option 'L' "dereference" .nothing, option 'n' "no-clobber" .nothing,
    option 'P' "no-dereference" .nothing, option 'p' "" .nothing, named 'p' "preserve" .optional,
    named 'q' "parents" .nothing, option 'R' "recursive" .nothing, option 'r' "" .nothing,
    option 's' "symbolic-link" .nothing, option 't' "target-directory" .value,
    option 'T' "no-target-directory" .nothing, option 'u' "update" .nothing,
    option 'v' "verbose" .nothing, option 'x' "one-file-system" .nothing]
  withOptions known 1 args fun c => do
    if c.has 'n' then
      complain (ofText ("warning: behavior of -n is non-portable and may change in future; " ++
        "use --update=none instead"))
    withTargets c false fun pairs => do for (source, target) in pairs do copyTo c source target

def moveTo (c : Chosen) (source target : Bytes) : Act Unit := do
  let p ← get
  match p.files.place p.here source with
  | .error e =>
    fail 1 (ofText "cannot stat " ++ shellQuoted source ++ ofText (": " ++ e.description))
  | .ok (place, n) =>
    let refuse (e : SystemError) : Act Unit :=
      fail 1 (ofText "cannot move " ++ shellQuoted source ++ ofText " to " ++ shellQuoted target ++
        ofText (": " ++ e.description))
    match ← placeOf target with
    | .error .notADirectory =>
      fail 1 (ofText "cannot stat " ++ shellQuoted target ++ ofText ": Not a directory")
    | .error e => refuse e
    | .ok found =>
      if found.node.isSome ∧ found.place = place then
        fail 1 (shellQuoted source ++ ofText " and " ++ shellQuoted target ++
          ofText " are the same file")
      else if c.has 'n' ∧ found.node.isSome then
        fail 1 (ofText "not replacing " ++ shellQuoted target)
      else if c.has 'u' ∧ !n.isDirectory ∧ (← isOld source target) then pure ()
      else if !(← allows c target) then pure ()
      else if n.isDirectory ∧ place.isPrefixOf found.place then
        fail 1 (ofText "cannot move " ++ shellQuoted source ++
          ofText " to a subdirectory of itself, " ++ shellQuoted target)
      else
        match found.node with
        | none =>
          if target.getLast? = some Octet.slash ∧ !n.isDirectory then refuse .notADirectory
          else
            put place none
            put found.place (some n)
            tell c (ofText "renamed " ++ arrow source target)
        | some old =>
          if old.isDirectory ∧ !n.isDirectory then
            fail 1 (ofText "cannot overwrite directory " ++ shellQuoted target ++
              ofText " with non-directory")
          else if n.isDirectory ∧ !old.isDirectory then
            fail 1 (ofText "cannot overwrite non-directory " ++ shellQuoted target ++
              ofText " with directory " ++ shellQuoted source)
          else if old.entries ≠ [] then
            fail 1 (ofText "cannot overwrite " ++ shellQuoted target ++
              ofText ": Directory not empty")
          else
            put place none
            put found.place (some n)
            tell c (ofText "renamed " ++ arrow source target)

def mv : Command := fun args =>
  let known := [option 'b' "" .nothing, option 'f' "force" .nothing,
    option 'i' "interactive" .nothing, option 'n' "no-clobber" .nothing,
    option 't' "target-directory" .value, option 'T' "no-target-directory" .nothing,
    option 'u' "update" .nothing, option 'v' "verbose" .nothing]
  withOptions known 1 args fun c =>
    withTargets c false fun pairs => do for (source, target) in pairs do moveTo c source target

def shared (place : Path) (n : Node) : Act Node := do
  let p ← get
  match p.files.numberAt place with
  | some (files, number) =>
    set { p with files }
    return .file (.kept number) n.mode
  | none => return n

/-- Makes a link, which stands for a path, or else another name. -/
def linkTo (c : Chosen) (source target : Bytes) : Act Unit := do
  let isSymbolic := c.has 's'
  let what := if isSymbolic then "symbolic link " else "hard link "
  let p ← get
  let meant := p.files.place p.here source
  match isSymbolic, meant with
  | false, .error e =>
    fail 1 (ofText "failed to access " ++ shellQuoted source ++ ofText (": " ++ e.description))
  | false, .ok (_, .directory ..) =>
    fail 1 (shownName source ++ ofText ": hard link not allowed for directory")
  | _, _ =>
    let refuse (e : SystemError) : Act Unit :=
      fail 1 (ofText ("failed to create " ++ what) ++ shellQuoted target ++
        (if !isSymbolic ∧ e ≠ .fileExists then ofText " => " ++ shellQuoted source else []) ++
        ofText (": " ++ e.description))
    match ← placeOf target with
    | .error e => refuse e
    | .ok found =>
      if found.node.isSome ∧ !c.has 'f' then refuse .fileExists
      else if found.node.any Node.isDirectory then
        fail 1 (shownName target ++ ofText ": cannot overwrite directory")
      else
        let n ← match isSymbolic, meant with
          | false, .ok (place, n) => shared place n
          | _, _ => pure (.link source)
        put found.place (some n)
        tell c (shellQuoted target ++ ofText (if isSymbolic then " -> " else " => ") ++
          shellQuoted source)

def ln : Command := fun args =>
  let known := [option 'b' "" .nothing, option 'd' "directory" .nothing, option 'F' "" .nothing,
    option 'f' "force" .nothing, option 'i' "interactive" .nothing,
    option 'L' "logical" .nothing, option 'n' "no-dereference" .nothing,
    option 'P' "physical" .nothing, option 'r' "relative" .nothing,
    option 's' "symbolic" .nothing, option 't' "target-directory" .value,
    option 'T' "no-target-directory" .nothing, option 'v' "verbose" .nothing]
  withOptions known 1 args fun c =>
    withTargets c true fun pairs => do for (source, target) in pairs do linkTo c source target

def withOperands (count : Nat) (args : List Bytes) (f : List Bytes → Act Unit) : Act Unit :=
  withOptions [] 1 args fun c => do
    let found := c.operands.length
    if found = 0 then missingOperand 1
    else if found < count then missingAfter 1 (c.operands.getLastD [])
    else if count < found then extraOperand 1 ((c.operands[count]?).getD [])
    else f c.operands

def link : Command := fun args =>
  withOperands 2 args fun files => do
    let source := files.headD []
    let target := files.getLastD []
    let refuse (e : SystemError) : Act Unit :=
      fail 1 (ofText "cannot create link " ++ shellQuoted target ++ ofText " to " ++
        shellQuoted source ++ ofText (": " ++ e.description))
    let p ← get
    match p.files.place p.here source, ← placeOf target with
    | .error e, _ => refuse e
    | _, .error e => refuse e
    | .ok (place, n), .ok found =>
      if found.node.isSome then refuse .fileExists
      else put found.place (some (← shared place n))

def unlink : Command := fun args =>
  withOperands 1 args fun files => do
    let file := files.headD []
    match ← change fun f here => f.unlink here file with
    | .ok () => pure ()
    | .error e =>
      fail 1 (ofText "cannot unlink " ++ shellQuoted file ++ ofText (": " ++ e.description))

def kindOf (files : Files) (n : Node) : String :=
  match n with
  | .file content _ =>
    if files.bytesOf content = [] then "regular empty file" else "regular file"
  | .program _ => "regular file"
  | .pipe .. => "fifo"
  | .directory .. => "directory"
  | .link _ => "symbolic link"
  | .device _ => "character special file"

def removeAt (c : Chosen) : Nat → Bytes → Act Bool
  | 0, _ => return false
  | fuel + 1, path => do
    let p ← get
    let refuse (text : Bytes) : Act Bool := do
      flush
      fail 1 text
      return false
    let asks := c.last? ['i', 'f'] = some 'i'
    match p.files.place p.here path with
    | .error e =>
      if c.has 'f' ∧ (e = .notFound ∨ e = .notADirectory) then return true
      else
        refuse (ofText "cannot remove " ++ shellQuoted path ++ ofText (": " ++ e.description))
    | .ok (place, n) =>
      if n.isDirectory then
        let isDeep := c.has 'r' || c.has 'R'
        if !isDeep ∧ !c.has 'd' then
          refuse (ofText "cannot remove " ++ shellQuoted path ++ ofText ": Is a directory")
        else if !isDeep ∧ n.entries ≠ [] then
          refuse (ofText "cannot remove " ++ shellQuoted path ++ ofText ": Directory not empty")
        else
          let descends ← if asks ∧ n.entries ≠ [] then
              isAgreed (ofText "descend into directory " ++ shellQuoted path)
            else pure true
          if !descends then return false
          else
            let mut isEmpty := true
            for (name, _) in n.entries do
              let isGone ← removeAt c fuel (inFolder path name)
              isEmpty := isEmpty && isGone
            if isEmpty then
              let isMeant ← if asks then
                  isAgreed (ofText "remove directory " ++ shellQuoted path)
                else pure true
              if isMeant then
                put place none
                tell c (ofText "removed directory " ++ shellQuoted path)
              return isMeant
            else return false
      else
        let isMeant ← if asks then
            isAgreed (ofText ("remove " ++ kindOf p.files n ++ " ") ++ shellQuoted path)
          else pure true
        if isMeant then
          put place none
          tell c (ofText "removed " ++ shellQuoted path)
        return isMeant

def rm : Command := fun args =>
  let known := [option 'd' "dir" .nothing, option 'f' "force" .nothing, option 'i' "" .nothing,
    option 'I' "" .nothing, named 'o' "one-file-system" .nothing,
    named 'n' "no-preserve-root" .nothing, named 'k' "preserve-root" .optional,
    option 'r' "recursive" .nothing, option 'R' "" .nothing, option 'v' "verbose" .nothing,
    named 'i' "interactive" .optional]
  match readOptions known true (args.length + 1) args with
  | .error text => do
    complain text
    let p ← get
    let isFile (arg : Bytes) : Bool :=
      arg.head? = some Octet.dash && (p.files.entry? p.here arg).isSome
    match args.find? isFile with
    | some file =>
      writeError (lineOf (ofText "Try " ++ between (ofText "rm ./" ++ file) ++
        ofText " to remove the file " ++ shellQuoted file ++ [Octet.point]))
    | none => pure ()
    writeError (ofText "Try 'rm --help' for more information.\n")
    exit 1
  | .ok c => do
    if c.operands = [] ∧ !c.has 'f' then missingOperand 1
    for path in c.operands do
      let last := lastName path
      if (c.has 'r' ∨ c.has 'R') ∧ (last = Path.dot ∨ last = Path.dots) then
        flush
        fail 1 (ofText "refusing to remove '.' or '..' directory: skipping " ++ shellQuoted path)
      else if (c.has 'r' ∨ c.has 'R') ∧ last = [Octet.slash] ∧ !c.has 'n' then
        flush
        fail 1 (ofText "it is dangerous to operate recursively on " ++ shellQuoted path)
        complain (ofText "use --no-preserve-root to override this failsafe")
      else
        let _ ← removeAt c depthLimit path

end LspRelay.Tool
