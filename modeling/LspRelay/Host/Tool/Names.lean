import LspRelay.Host.Tool.Options

namespace LspRelay.Tool

open Process

def dropSlashes (bs : Bytes) : Bytes := (bs.reverse.dropWhile (· = Octet.slash)).reverse

def lastName (path : Bytes) : Bytes :=
  let plain := dropSlashes path
  if plain = [] then path.take 1
  else (plain.reverse.takeWhile (· ≠ Octet.slash)).reverse

def directoryName (path : Bytes) : Bytes :=
  let front := dropSlashes ((dropSlashes path).reverse.dropWhile (· ≠ Octet.slash)).reverse
  if front ≠ [] then front
  else if path.head? = some Octet.slash then [Octet.slash]
  else Path.dot

/-- A name without an ending, which has to be less than all of it. -/
def withoutEnding (ending name : Bytes) : Bytes :=
  if ending.length < name.length ∧ ending.isSuffixOf name then
    name.take (name.length - ending.length)
  else name

def marked (c : Chosen) (bs : Bytes) : Bytes :=
  bs ++ [if c.has 'z' then 0 else Octet.lineFeed]

def basename : Command := fun args =>
  let known := [option 'a' "multiple" .nothing, option 's' "suffix" .value,
    option 'z' "zero" .nothing]
  withLeadingOptions known 1 args fun c => do
    let ending := c.value? 's'
    match c.operands with
    | [] => missingOperand 1
    | name :: rest =>
      if c.has 'a' ∨ ending.isSome then
        for name in name :: rest do
          print (marked c (withoutEnding (ending.getD []) (lastName name)))
      else
        match rest with
        | _ :: extra :: _ => extraOperand 1 extra
        | rest => print (marked c (withoutEnding (rest.headD []) (lastName name)))

def dirname : Command := fun args =>
  withLeadingOptions [option 'z' "zero" .nothing] 1 args fun c => do
    if c.operands = [] then missingOperand 1
    for name in c.operands do print (marked c (directoryName name))

def pwd : Command := fun args =>
  withOptions [option 'L' "logical" .nothing, option 'P' "physical" .nothing] 1 args fun c => do
    if c.operands ≠ [] then complain (ofText "ignoring non-option arguments")
    let p ← get
    let told := (p.bindings.lookup (ofText "PWD")).getD []
    let leadsHere := told.head? = some Octet.slash &&
      ((Path.resolve p.files.root p.here true told).toOption.map Path.Found.place) = some p.here
    printLine (if c.last? ['L', 'P'] = some 'L' ∧ leadsHere then told else Path.text p.here)

/-- A path without links: all of it has to be there, or all but its last name, or nothing. -/
def canonical (mode : Char) (path : Bytes) : Act (Except SystemError Bytes) := do
  let p ← get
  match Path.resolve p.files.root p.here true path with
  | .ok ⟨place, some n⟩ =>
    if path.getLast? = some Octet.slash ∧ !n.isDirectory then return .error .notADirectory
    else return .ok (Path.text place)
  | .ok ⟨place, none⟩ =>
    if mode = 'e' then return .error .notFound else return .ok (Path.text place)
  | .error e =>
    if mode ≠ 'm' ∨ path = [] then return .error e
    else
      let start := if path.head? = some Octet.slash then [] else p.here
      let steps := (Path.names path).foldl
        (fun (place : Path) name =>
          if name = [] ∨ name = Path.dot then place
          else if name = Path.dots then place.dropLast
          else
            let next := place ++ [name]
            match Path.resolve p.files.root [] true (Path.text next) with
            | .ok found => found.place
            | .error _ => next)
        start
      return .ok (Path.text steps)

def readlink : Command := fun args =>
  let known := [option 'f' "canonicalize" .nothing, option 'e' "canonicalize-existing" .nothing,
    option 'm' "canonicalize-missing" .nothing, option 'n' "no-newline" .nothing,
    option 'q' "quiet" .nothing, option 's' "silent" .nothing, option 'v' "verbose" .nothing,
    option 'z' "zero" .nothing]
  withOptions known 1 args fun c => do
    if c.operands = [] then missingOperand 1
    if c.has 'n' ∧ 1 < c.operands.length then
      complain (ofText "ignoring --no-newline with multiple arguments")
    let ending (bs : Bytes) : Bytes :=
      if c.has 'n' ∧ c.operands.length = 1 then bs else marked c bs
    for path in c.operands do
      let result : Except SystemError Bytes ← match c.last? ['f', 'e', 'm'] with
        | some mode => canonical mode path
        | none => do
          let p ← get
          match p.files.place p.here path with
          | .ok (_, .link target) => pure (.ok target)
          | .ok _ => pure (.error .invalidArgument)
          | .error e => pure (.error e)
      match result with
      | .ok bs => print (ending bs)
      | .error e =>
        if c.last? ['q', 's', 'v'] = some 'v' then failOn 1 path e else setStatus 1

def relativeTo (base path : Bytes) : Bytes :=
  let names (bs : Bytes) : List Bytes := (Path.names bs).filter (· ≠ [])
  let rec shared : List Bytes → List Bytes → Nat
    | a :: as, b :: bs => if a = b then shared as bs + 1 else 0
    | _, _ => 0
  let n := shared (names base) (names path)
  let steps := List.replicate ((names base).length - n) Path.dots ++ (names path).drop n
  if steps = [] then Path.dot else [Octet.slash].intercalate steps

def realpath : Command := fun args =>
  let known := [option 'e' "canonicalize-existing" .nothing,
    option 'm' "canonicalize-missing" .nothing, option 'L' "logical" .nothing,
    option 'P' "physical" .nothing, option 'q' "quiet" .nothing,
    named 'r' "relative-to" .value, named 'b' "relative-base" .value,
    option 's' "strip" .nothing, named 's' "no-symlinks" .nothing, option 'z' "zero" .nothing]
  withOptions known 1 args fun c => do
    if c.operands = [] then missingOperand 1
    let base ← match c.value? 'r' with
      | some path => do pure (← canonical 'm' path).toOption
      | none => pure none
    for path in c.operands do
      match ← canonical ((c.last? ['e', 'm']).getD 'f') path with
      | .ok bs => print (marked c ((base.map fun b => relativeTo b bs).getD bs))
      | .error e => if c.has 'q' then setStatus 1 else failOn 1 path e

end LspRelay.Tool
