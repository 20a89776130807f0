import LspRelay.Host.Tool.Options

namespace LspRelay.Tool

open Process

structure Identity where
  number : Nat
  name : String

def superuser : Identity := ⟨0, "root"⟩

def identities : List (Identity × Identity) :=
  [(superuser, superuser), (⟨1, "daemon"⟩, ⟨1, "daemon"⟩), (⟨2, "bin"⟩, ⟨2, "bin"⟩),
   (⟨65534, "nobody"⟩, ⟨65534, "nogroup"⟩)]

def identityOf? (name : Bytes) : Option (Identity × Identity) :=
  identities.find? fun (user, _) => ofText user.name = name || decimal user.number = name

def identity : Command := fun args =>
  let known := [option 'u' "user" .nothing, option 'g' "group" .nothing,
    option 'G' "groups" .nothing, option 'n' "name" .nothing, option 'r' "real" .nothing,
    option 'z' "zero" .nothing, option 'a' "" .nothing, option 'Z' "context" .nothing]
  withOptions known 1 args fun c => do
    let kinds := ['u', 'g', 'G'].filter c.has
    if 1 < kinds.length then fail 1 (ofText "cannot print \"only\" of more than one choice")
    else if kinds = [] ∧ (c.has 'n' ∨ c.has 'r') then
      fail 1 (ofText "cannot print only names or real IDs in default format")
    else if kinds = [] ∧ c.has 'z' then
      fail 1 (ofText "option --zero not permitted in default format")
    else if c.has 'Z' then
      fail 1 (ofText "--context (-Z) works only on an SELinux-enabled kernel")
    else
      let told (user group : Identity) : Act Unit := do
        let shown (i : Identity) : Bytes := if c.has 'n' then ofText i.name else decimal i.number
        let full (what : String) (i : Identity) : Bytes :=
          ofText (what ++ "=" ++ toString i.number ++ "(" ++ i.name ++ ")")
        let text : Bytes :=
          if c.has 'u' then shown user
          else if kinds ≠ [] then shown group
          else joined [full "uid" user, full "gid" group, full "groups" group]
        print (text ++ [if c.has 'z' then 0 else Octet.lineFeed])
      match c.operands with
      | [] => told superuser superuser
      | names =>
        for name in names do
          match identityOf? name with
          | some (user, group) => told user group
          | none => fail 1 (between name ++ ofText ": no such user")

/-- A program that has neither options nor operands. -/
def withoutOperands (f : Act Unit) : Command := fun args =>
  withOptions [] 1 args fun c =>
    match c.operands with
    | [] => f
    | operand :: _ => extraOperand 1 operand

def whoami : Command := withoutOperands (printLine (ofText superuser.name))

def logname : Command := withoutOperands (fail 1 (ofText "no login name"))

def groupNames : Command := fun args =>
  withOptions [] 1 args fun c => do
    if c.operands = [] then printLine (ofText superuser.name)
    for name in c.operands do
      match identityOf? name with
      | some (user, group) => printLine (ofText (user.name ++ " : " ++ group.name))
      | none => fail 1 (between name ++ ofText ": no such user")

def systemFacts : List (Char × String) :=
  [('s', "Linux"), ('n', "localhost"), ('r', "6.1.0"), ('v', "#1 SMP"), ('m', "x86_64"),
   ('p', "x86_64"), ('i', "x86_64")]

def uname : Command := fun args =>
  let known := [option 'a' "all" .nothing, option 's' "kernel-name" .nothing,
    option 'n' "nodename" .nothing, option 'r' "kernel-release" .nothing,
    option 'v' "kernel-version" .nothing, option 'm' "machine" .nothing,
    option 'p' "processor" .nothing, option 'i' "hardware-platform" .nothing]
  withOptions known 1 args fun c =>
    match c.operands with
    | operand :: _ => extraOperand 1 operand
    | [] =>
      let keys := systemFacts.filter fun f => c.has 'a' || c.has f.1
      let facts := if keys = [] then systemFacts.take 1 else keys
      printLine (joined (facts.map fun f => ofText f.2))

def arch : Command := withoutOperands (printLine (ofText "x86_64"))

def hostname : Command := fun args =>
  withOptions (letters "sfidI" .nothing) 1 args fun _ => printLine (ofText "localhost")

def nproc : Command := fun args =>
  withOptions [named 'a' "all" .nothing, named 'i' "ignore" .value] 1 args fun c =>
    match c.operands with
    | operand :: _ => extraOperand 1 operand
    | [] => printLine (ofText "1")

def tty : Command := fun args =>
  withOptions [option 's' "silent" .nothing, named 's' "quiet" .nothing] 2 args fun c =>
    match c.operands with
    | operand :: _ => extraOperand 2 operand
    | [] => do
      if !c.has 's' then printLine (ofText "not a tty")
      setStatus 1

def sync : Command := fun args =>
  withOptions [option 'd' "data" .nothing, option 'f' "file-system" .nothing] 1 args fun c => do
    for file in c.operands do
      match ← node file with
      | .ok _ => pure ()
      | .error e =>
        fail 1 (ofText "error opening " ++ shellQuoted file ++ ofText (": " ++ e.description))

def nameFault? (isStrict leads : Bool) (name : Bytes) : Option Bytes :=
  let isPortable (b : UInt8) : Bool :=
    let c := Char.ofNat b.toNat
    c.isAlphanum || c = '.' || c = '_' || c = '-' || c = '/'
  if leads ∧ (name.splitOn Octet.slash).any fun part => part.head? = some Octet.dash then
    some (ofText "leading '-' in a component of file name " ++ shellQuoted name)
  else if (isStrict ∨ leads) ∧ name = [] then some (ofText "empty file name")
  else if isStrict then
    match name.find? fun b => !isPortable b with
    | some b =>
      some (ofText "non-portable character " ++ shellQuoted [b] ++ ofText " in file name " ++
        shellQuoted name)
    | none =>
      match (name.splitOn Octet.slash).find? fun part => 14 < part.length with
      | some part =>
        some (ofText ("limit 14 exceeded by length " ++ toString part.length ++
          " of file name component ") ++ shellQuoted part)
      | none => none
  else none

def pathchk : Command := fun args =>
  let known := [option 'p' "" .nothing, option 'P' "" .nothing, named 'a' "portability" .nothing]
  withOptions known 1 args fun c => do
    if c.operands = [] then missingOperand 1
    for name in c.operands do
      match nameFault? (c.has 'p' || c.has 'a') (c.has 'P' || c.has 'a') name with
      | some text => fail 1 text
      | none =>
        match ← node name with
        | .ok _ => pure ()
        | .error e =>
          if (e ≠ .notFound ∨ name = []) ∧ !c.has 'p' then failOn 1 name e

end LspRelay.Tool
