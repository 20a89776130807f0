import LspRelay.Host.Files.Modes
import LspRelay.Host.Tool.Amounts
import LspRelay.Host.Tool.Clock
import LspRelay.Host.Tool.Names

namespace LspRelay.Tool

open Process

/-- Makes a directory, and with `parents` all that lead to it; it complains if that fails. -/
def makeFolder (c : Chosen) (mode : Nat) (path : Bytes) : Act Unit := do
  let steps := (Path.names path).filter (· ≠ [])
  let start : Bytes := if path.head? = some Octet.slash then [Octet.slash] else []
  let joinedFirst (n : Nat) : Bytes := start ++ [Octet.slash].intercalate (steps.take n)
  let told (path : Bytes) : Act Unit :=
    if c.has 'v' then printLine (ofText "mkdir: created directory " ++ shellQuoted path)
    else pure ()
  let refuse (path : Bytes) (e : SystemError) : Act Unit :=
    fail 1 (ofText "cannot create directory " ++ shellQuoted path ++ ofText (": " ++ e.description))
  if c.has 'p' then
    let mut isOpen := true
    for n in List.range steps.length do
      if isOpen then
        let part := joinedFirst (n + 1)
        match ← node part with
        | .ok (.directory ..) => pure ()
        | .ok _ =>
          refuse part (if n + 1 = steps.length then .fileExists else .notADirectory)
          isOpen := false
        | .error .notFound =>
          let mode ← if n + 1 = steps.length then pure mode else newMode 0o777
          match ← change fun files here => files.makeDirectory here part mode with
          | .ok () => told part
          | .error e =>
            refuse part e
            isOpen := false
        | .error e =>
          refuse part e
          isOpen := false
  else
    match ← change fun files here => files.makeDirectory here path mode with
    | .ok () => told path
    | .error e => refuse path e

def mkdir : Command := fun args =>
  let known := [option 'm' "mode" .value, option 'p' "parents" .nothing,
    option 'v' "verbose" .nothing, option 'Z' "" .nothing, named 'Z' "context" .optional]
  withOptions known 1 args fun c => do
    if c.operands = [] then missingOperand 1
    let plain ← newMode 0o777
    let mode ← match c.value? 'm' with
      | none => pure plain
      | some text =>
        match Modes.told? true ((← get).mask) text 0o777 with
        | some mode => pure mode
        | none => die 1 (ofText "invalid mode " ++ quoted text)
    for path in c.operands do makeFolder c mode path

def rmdir : Command := fun args =>
  let known := [named 'i' "ignore-fail-on-non-empty" .nothing, option 'p' "parents" .nothing,
    option 'v' "verbose" .nothing]
  withOptions known 1 args fun c => do
    if c.operands = [] then missingOperand 1
    for path in c.operands do
      let parts := if c.has 'p' then ancestors (path.length + 1) (dropSlashes path) else [path]
      let mut isOpen := true
      for part in parts do
        if isOpen then
          if c.has 'v' then
            printLine (ofText "rmdir: removing directory, " ++ shellQuoted part)
          match ← change fun files here => files.removeDirectory here part with
          | .ok () => pure ()
          | .error e =>
            isOpen := false
            if !(c.has 'i' && e = .notEmpty) then
              let what := if part = path then "failed to remove " else "failed to remove directory "
              flush
              fail 1 (ofText what ++ shellQuoted part ++ ofText (": " ++ e.description))
where
  /-- A path and what it leads through, the longest one first. -/
  ancestors : Nat → Bytes → List Bytes
    | 0, _ => []
    | fuel + 1, path =>
      let front := directoryName path
      if front = Path.dot ∨ front = [Octet.slash] ∨ !path.contains Octet.slash then [path]
      else path :: ancestors fuel front

def makePipe (path : Bytes) (mode : Option Bytes) : Act (Except SystemError Unit) := do
  let plain ← newMode 0o666
  let mode ← match mode with
    | none => pure plain
    | some text =>
      match Modes.told? false ((← get).mask) text 0o666 with
      | some mode => pure mode
      | none => die 1 (ofText "invalid mode")
  let p ← get
  match Path.resolve p.files.root p.here false path with
  | .error e => return .error e
  | .ok ⟨place, none⟩ =>
    if path.getLast? = some Octet.slash then return .error .notFound
    else
      set { p with
        numbers := p.numbers + 1
        files := p.files.put place (some (.pipe p.numbers mode)) }
      return .ok ()
  | .ok ⟨_, some _⟩ => return .error .fileExists

def mkfifo : Command := fun args =>
  let known := [option 'm' "mode" .value, option 'Z' "" .nothing, named 'Z' "context" .optional]
  withOptions known 1 args fun c => do
    if c.operands = [] then missingOperand 1
    for path in c.operands do
      match ← makePipe path (c.value? 'm') with
      | .ok () => pure ()
      | .error e =>
        fail 1 (ofText "cannot create fifo " ++ shellQuoted path ++ ofText (": " ++ e.description))

def mknod : Command := fun args =>
  let known := [option 'm' "mode" .value, option 'Z' "" .nothing, named 'Z' "context" .optional]
  withOptions known 1 args fun c => do
    match c.operands with
    | [] => missingOperand 1
    | [path] => missingAfter 1 path
    | path :: kind :: numbers =>
      if kind.head? = some (octet 'p') then
        match numbers with
        | n :: _ =>
          complain (ofText "extra operand " ++ quoted n)
          writeError (ofText ("Fifos do not have major and minor device numbers.\n" ++
            "Try 'mknod --help' for more information.\n"))
          exit 1
        | [] =>
          match ← makePipe path (c.value? 'm') with
          | .ok () => pure ()
          | .error e => fail 1 (path ++ ofText (": " ++ e.description))
      else if numbers.length < 2 then
        complain (ofText "missing operand after " ++ quoted (numbers.headD kind))
        let hint := if numbers = [] then "Special files require major and minor device numbers.\n"
          else ""
        writeError (ofText (hint ++ "Try 'mknod --help' for more information.\n"))
        exit 1
      else fail 1 (path ++ ofText ": Operation not permitted")

def touch : Command := fun args =>
  let known := [option 'a' "" .nothing, option 'c' "no-create" .nothing, option 'd' "date" .value,
    option 'f' "" .nothing, option 'h' "no-dereference" .nothing, option 'm' "" .nothing,
    option 'r' "reference" .value, option 't' "" .value, named 'x' "time" .value]
  withOptions known 1 args fun c => do
    let p ← get
    let now := Instant.now p
    let time : Int ← match c.value? 'r', c.value? 'd', c.value? 't' with
      | some file, _, _ =>
        match ← node file with
        | .ok n => pure (p.files.timeOf n)
        | .error e =>
          die 1 (ofText "failed to get attributes of " ++ shellQuoted file ++
            ofText (": " ++ e.description))
      | none, some text, _ =>
        match instantOf? now text with
        | some t => pure (sessionTime t)
        | none => die 1 (ofText "invalid date format " ++ quoted text)
      | none, none, some text =>
        match stampOf? now text with
        | some t => pure (sessionTime t)
        | none => die 1 (ofText "invalid date format " ++ quoted text)
      | none, none, none => pure p.files.now
    if c.operands = [] then misuse 1 (ofText "missing file operand")
    for file in c.operands do
      let change : Act Unit := do
        let p ← get
        match Path.resolve p.files.root p.here true file with
        | .ok found => set { p with files := p.files.setTime found.place time }
        | .error _ => pure ()
      if file ≠ [Octet.dash] then
        match ← node file with
        | .ok n =>
          if file.getLast? = some Octet.slash ∧ !n.isDirectory then
            fail 1 (ofText "cannot touch " ++ shellQuoted file ++ ofText ": Not a directory")
          else if !c.has 'a' ∨ c.has 'm' then change
        | .error e =>
          if !(c.has 'c' && e = .notFound) then
            match ← openTarget file false with
            | .ok _ => change
            | .error e =>
              let what := if e = .isADirectory then "setting times of " else "cannot touch "
              let e := if e = .isADirectory then .notFound else e
              fail 1 (ofText what ++ shellQuoted file ++ ofText (": " ++ e.description))

def resized (mark : Char) (size n : Nat) : Nat :=
  match mark with
  | '+' => size + n
  | '-' => size - n
  | '<' => min size n
  | '>' => max size n
  | '/' => size / max n 1 * max n 1
  | '%' => (size + max n 1 - 1) / max n 1 * max n 1
  | _ => n

def truncate : Command := fun args =>
  let known := [option 'c' "no-create" .nothing, option 'o' "io-blocks" .nothing,
    option 'r' "reference" .value, option 's' "size" .value]
  withOptions known 1 args fun c => do
    let size ← match c.value? 's' with
      | none => pure none
      | some text =>
        let (mark, rest) : Char × Bytes := match text with
          | b :: rest =>
            let m := Char.ofNat b.toNat
            if "+-<>/%".toList.contains m then (m, rest) else (' ', text)
          | [] => (' ', [])
        match amount? "kKmMgGtTPEZYRQ" rest with
        | some n => pure (some (mark, n))
        | none => die 1 (ofText "Invalid number: " ++ quoted rest)
    if size.isNone ∧ !c.has 'r' then
      misuse 1 (ofText "you must specify either '--size' or '--reference'")
    else if c.operands = [] then misuse 1 (ofText "missing file operand")
    else
      let base ← match c.value? 'r' with
        | none => pure none
        | some file =>
          match ← readFile file with
          | .ok bs => pure (some bs.length)
          | .error e =>
            die 1 (ofText "cannot stat " ++ shellQuoted file ++ ofText (": " ++ e.description))
      for file in c.operands do
        let isThere := ((← node file).toOption).isSome
        if isThere ∨ !c.has 'c' then
          let before := ((← readFile file).toOption).getD []
          let old := base.getD before.length
          let length := match size with
            | some (mark, n) => resized mark old n
            | none => old
          match ← writeFile file (before.take length ++
              List.replicate (length - before.length) 0) true with
          | .ok () => pure ()
          | .error e =>
            fail 1 (ofText "cannot open " ++ shellQuoted file ++
              ofText (" for writing: " ++ e.description))

/-- Takes a template apart: what stands before its last run of the letter X, how long that is, and
what stands after it. -/
def templateParts (template : Bytes) : Bytes × Nat × Bytes :=
  let isMark (b : UInt8) : Bool := b = octet 'X'
  let tail := (template.reverse.takeWhile (!isMark ·)).reverse
  let front := template.take (template.length - tail.length)
  let count := (front.reverse.takeWhile isMark).length
  if count = 0 then (template, 0, []) else (front.take (front.length - count), count, tail)

/-- Makes a file or a directory with a name that is not in use. -/
def mktemp : Command := fun args =>
  let known := [option 'd' "directory" .nothing, option 'q' "quiet" .nothing,
    option 'u' "dry-run" .nothing, option 'p' "" .value, named 'P' "tmpdir" .optional,
    option 't' "" .nothing, named 's' "suffix" .value, option 'V' "" .nothing]
  withOptions known 1 args fun c => do
    if 1 < c.operands.length then misuse 1 (ofText "too many templates")
    else
      let template := c.operands.headD (ofText "tmp.XXXXXXXXXX")
      let (front, count, tail) := templateParts template
      let suffix := c.value? 's'
      if suffix.isSome ∧ tail ≠ [] then
        die 1 (ofText "with --suffix, template " ++ shellQuoted template ++ ofText " must end in X")
      if count < 3 then die 1 (ofText "too few X's in template " ++ shellQuoted template)
      let tail := tail ++ suffix.getD []
      if tail.contains Octet.slash then
        die 1 (ofText "invalid suffix " ++ shellQuoted tail ++
          ofText ", contains directory separator")
      let told := (← valueOf? "TMPDIR").filter (· ≠ [])
      let usual := told.getD (ofText "/tmp")
      let chosen := ((c.options.filter fun o => o.1 = 'p' || o.1 = 'P').getLast?.map
        Prod.snd).filter (· ≠ [])
      let hasFolder := c.has 'p' || c.has 'P' || c.has 't' || c.operands = []
      let folder := if c.has 't' then told.getD (chosen.getD usual) else chosen.getD usual
      if c.has 't' ∧ template.contains Octet.slash then
        die 1 (ofText "invalid template, " ++ shellQuoted template ++
          ofText ", contains directory separator")
      if hasFolder ∧ template.head? = some Octet.slash then
        die 1 (ofText "invalid template, " ++ shellQuoted template ++
          ofText "; with --tmpdir, it may not be absolute")
      let front := if hasFolder then dropSlashes folder ++ Octet.slash :: front else front
      let p ← get
      let (name, files) := p.files.freshName count
      set { p with files }
      let path := front ++ name ++ tail
      let result ← if c.has 'u' then pure (.ok ())
        else if c.has 'd' then
          change fun files here => files.makeDirectory here path 0o700
        else
          change fun files here => (files.create here path 0o600 true).map Prod.fst
      match result with
      | .ok () => printLine path
      | .error e =>
        let what := if c.has 'd' then "directory" else "file"
        let shown := front ++ List.replicate count (octet 'X') ++ tail
        let text := ofText ("failed to create " ++ what ++ " via template ") ++ shellQuoted shown ++
          ofText (": " ++ e.description)
        if c.has 'q' then exit 1 else die 1 text

def below : Nat → Bytes → Node → List (Bytes × Node)
  | 0, path, n => [(path, n)]
  | fuel + 1, path, n =>
    (path, n) :: n.entries.flatMap fun (name, n) =>
      let folder := if path.getLast? = some Octet.slash then path else path ++ [Octet.slash]
      below fuel (folder ++ name)
        n

def depthLimit : Nat := 64

def chmod : Command := fun args => do
  /- A mode that takes permissions away looks like options. -/
  let isMode (arg : Bytes) : Bool :=
    match arg with
    | Octet.dash :: b :: _ => "rwxXstugo".toList.contains (Char.ofNat b.toNat)
    | _ => false
  let modes := args.filter isMode
  let known := [option 'R' "recursive" .nothing, option 'c' "changes" .nothing,
    option 'f' "silent" .nothing, named 'f' "quiet" .nothing, option 'v' "verbose" .nothing,
    named 'r' "reference" .value]
  withOptions known 1 (args.filter fun a => !isMode a) fun c => do
    let (mode, files) : Option Bytes × List Bytes :=
      if modes ≠ [] then (some ([octet ','].intercalate modes), c.operands)
      else if c.has 'r' then (none, c.operands)
      else (c.operands.head?, c.operands.tail)
    let mask := (← get).mask
    if mode.isNone ∧ !c.has 'r' then missingOperand 1
    else if files = [] then
      match mode with
      | some mode => missingAfter 1 mode
      | none => missingOperand 1
    else
      let reference ← match c.value? 'r' with
        | none => pure none
        | some file =>
          match ← node file with
          | .ok n => pure (some n.mode)
          | .error e =>
            die 1 (ofText "failed to get attributes of " ++ shellQuoted file ++
              ofText (": " ++ e.description))
      let next (n : Node) : Option Nat :=
        match reference, mode with
        | some m, _ => some m
        | none, some text => Modes.told? n.isDirectory mask text n.mode
        | none, none => none
      if (next (.file (.fixed []) 0)).isNone then
        misuse 1 (ofText "invalid mode: " ++ quoted (mode.getD []))
      else
        for file in files do
          match ← node file with
          | .error e =>
            if !c.has 'f' then
              fail 1 (ofText "cannot access " ++ shellQuoted file ++ ofText (": " ++ e.description))
            else setStatus 1
          | .ok n =>
            for (path, n) in if c.has 'R' then below depthLimit file n else [(file, n)] do
              let isLink := match n with
                | .link _ => true
                | _ => false
              if !isLink then
                let mode := (next n).getD n.mode
                let p ← get
                match Path.resolve p.files.root p.here true path with
                | .ok found =>
                  set { p with
                    files := p.files.alter found.place (found.node.map (Node.withMode · mode)) }
                | .error _ => pure ()
                let told (n : Nat) : Bytes :=
                  Modes.octal 4 n ++ ofText " (" ++ Modes.letters n ++ ofText ")"
                if mode ≠ n.mode ∧ (c.has 'v' ∨ c.has 'c') then
                  printLine (ofText "mode of " ++ shellQuoted path ++ ofText " changed from " ++
                    told n.mode ++ ofText " to " ++ told mode)
                else if c.has 'v' then
                  printLine (ofText "mode of " ++ shellQuoted path ++ ofText " retained as " ++
                    told mode)

end LspRelay.Tool
