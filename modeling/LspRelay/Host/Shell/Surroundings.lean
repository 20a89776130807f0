import LspRelay.Host.Files.Modes
import LspRelay.Host.Shell.Paths
import LspRelay.Host.Shell.Variables

namespace LspRelay.Shell

open Run

/-- An absolute path without its dots, told from the working directory. -/
def plainPath (directory path : Bytes) : Bytes :=
  let isAbsolute := path.head? = some Octet.slash
  let steps := ((if isAbsolute then [] else directory.splitOn Octet.slash) ++
    path.splitOn Octet.slash).foldl
      (fun steps name =>
        if name = [] ∨ name = Path.dot then steps
        else if name = Path.dots then steps.drop 1
        else name :: steps)
      []
  Path.text steps.reverse

/-- Goes to a directory, by its path as it is told or as it is without links. -/
def enter (path : Bytes) (isPhysical : Bool) : Run Bool := do
  let m ← get
  let p := m.process
  let target := if isPhysical then path else plainPath m.directory path
  match Path.resolve p.files.root p.here true target with
  | .ok ⟨place, some (.directory ..)⟩ =>
    assign "OLDPWD" m.directory true
    let directory := if isPhysical then Path.text place else target
    modify fun m => { m with directory, process := { m.process with here := place } }
    assign "PWD" directory true
    return true
  | _ => return false

def changeDirectory (args : List Bytes) : Run Nat := do
  let (options, names) ← lettersOf "LP" args
  let isPhysical := (options.getLast?.map Prod.fst) = some 'P'
  let m ← get
  let goesBack := names.head? = some [Octet.dash]
  let asked := match names.head? with
    | none => m.valueOf? "HOME"
    | some name => if goesBack then m.valueOf? "OLDPWD" else some name
  let target := asked.getD []
  let first := (target.splitOn Octet.slash).headD []
  let isPlain := target.head? = some Octet.slash || first = Path.dot || first = Path.dots
  let target := if target = [] then Path.dot else target
  let paths : List Bytes := match m.valueOf? "CDPATH" with
    | some path => if isPlain then [] else path.splitOn (octet ':')
    | none => []
  let joinedTo (directory : Bytes) : Bytes :=
    if directory = [] then target else directory ++ Octet.slash :: target
  let isThere (directory : Bytes) : Bool :=
    (m.process.files.node? m.process.here (joinedTo directory)).any Node.isDirectory
  let chosen := paths.find? isThere
  let path := match chosen with
    | some directory => joinedTo directory
    | none => target
  if !(← enter path isPhysical) then fail (ofText "can't cd to " ++ target)
  if goesBack || chosen.any (· ≠ []) then printLine (← get).directory
  return 0

def showDirectory (args : List Bytes) : Run Nat := do
  let (options, _) ← lettersOf "LP" args
  let m ← get
  printLine (if (options.getLast?.map Prod.fst) = some 'P' then Path.text m.process.here
    else m.directory)
  return 0

/-- Shows or sets which permissions new files do not get. -/
def setMask (args : List Bytes) : Run Nat := do
  let (options, args) ← lettersOf "S" args
  let mask := (← get).process.mask
  let setTo (mask : Nat) : Run Unit := update fun p => { p with mask := mask &&& 0o777 }
  match args with
  | [] =>
    if options = [] then printLine (Modes.octal 4 mask)
    else
      let shown (who : String) (shift : Nat) : String :=
        let bits := (0o777 ^^^ mask) >>> shift
        let letter (bit : Nat) (s : String) : String := if bits &&& bit ≠ 0 then s else ""
        who ++ "=" ++ letter 4 "r" ++ letter 2 "w" ++ letter 1 "x"
      printLine (ofText (",".intercalate [shown "u" 6, shown "g" 3, shown "o" 0]))
  | arg :: _ =>
    if (arg.head?.map fun b => (Char.ofNat b.toNat).isDigit) = some true then
      if arg.all fun b => octet '0' ≤ b && b ≤ octet '7' then
        setTo (arg.foldl (fun n b => n * 8 + (b.toNat - 48)) 0)
      else fail (ofText "Illegal number: " ++ arg)
    else
      match Modes.changed? false 0 arg (0o777 ^^^ mask) with
      | some mode => setTo (0o777 ^^^ (mode &&& 0o777))
      | none => fail (ofText "Illegal mode: " ++ arg)
  return 0

def setLimits (args : List Bytes) : Run Nat := do
  let (_, args) ← lettersOf "HSatfdscmlpnvwr" args
  if args = [] then printLine (ofText "unlimited")
  return 0

def showTimes (_ : List Bytes) : Run Nat := do
  for _ in [1, 2] do printLine (ofText "0m0.000000s 0m0.000000s")
  return 0

/-- Where a command without a slash in its name is, or why it is not there. -/
def findProgram (m : Machine) (path name : Bytes) : Except SystemError Bytes :=
  let p := m.process
  let candidates := (path.splitOn (octet ':')).map fun directory =>
    if directory = [] then name else directory ++ Octet.slash :: name
  match candidates.find? fun file => (p.files.node? p.here file).any Node.isExecutable with
  | some file => .ok file
  | none =>
    let error (file : Bytes) : Option SystemError :=
      match p.files.node p.here file with
      | .ok _ => some .permissionDenied
      | .error e => if e = .notFound ∨ e = .notADirectory then none else some e
    .error ((candidates.filterMap error).getLast?.getD .notFound)

def Machine.searchPath (m : Machine) : Bytes := (m.valueOf? "PATH").getD Process.defaultPath

def reason (missing : String) (e : SystemError) : Bytes :=
  ofText (if e = .notFound ∨ e = .notADirectory then missing else e.description)

def remember (name : Bytes) : Run Unit :=
  modify fun m =>
    if m.found.contains name || name.contains Octet.slash then m
    else { m with found := insertByPlace id 31 m.found name }

def lookUp (args : List Bytes) : Run Nat := do
  let (options, names) ← lettersOf "r" args
  let m ← get
  if options ≠ [] then
    set { m with found := [] }
    return 0
  if names = [] then
    for name in m.found do
      match findProgram m m.searchPath name with
      | .ok file => printLine file
      | .error _ => pure ()
  let mut status := 0
  for name in names do
    match findProgram m m.searchPath name with
    | .ok _ => remember name
    | .error e =>
      warn (name ++ ofText ": " ++ reason "not found" e)
      status := 1
  return status

def builtInNames : List String :=
  specialBuiltIns ++ ["alias", "bg", "cd", "chdir", "command", "echo", "false", "fg", "getopts",
    "hash", "jobs", "kill", "printf", "pwd", "read", "test", "true", "type", "ulimit", "umask",
    "unalias", "wait", "["]

def describe (path? : Option Bytes) (inWords : Bool) (name : Bytes) : Run Nat := do
  let m ← get
  let say (words : Bytes) (short : Bytes) : Run Nat := do
    printLine (if inWords then name ++ words else short)
    return 0
  if keywords.any fun k => ofText k = name then say (ofText " is a shell keyword") name
  else
    match m.aliases.lookup name with
    | some value =>
      say (ofText " is an alias for " ++ value) (ofText "alias " ++ showAlias (name, value))
    | none =>
      if (m.functions.lookup (nameOf name)).isSome then say (ofText " is a shell function") name
      else if specialBuiltIns.any fun b => ofText b = name then
        say (ofText " is a special shell builtin") name
      else if builtInNames.any fun b => ofText b = name then
        say (ofText " is a shell builtin") name
      else
        let found : Option Bytes :=
          if name.contains Octet.slash then
            (m.process.files.node? m.process.here name).map fun _ => name
          else (findProgram m (path?.getD m.searchPath) name).toOption
        match found with
        | some file =>
          let isKnown := m.found.contains name && path?.isNone
          remember name
          say (ofText (if isKnown then " is a tracked alias for " else " is ") ++ file) file
        | none =>
          if inWords then printLine (name ++ ofText ": not found")
          return 127

def describeAll (args : List Bytes) : Run Nat := do
  let mut status := 0
  for name in args do status := max status (← describe none true name)
  return status

end LspRelay.Shell
