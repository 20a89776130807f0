import LspRelay.Host.Process.Basic

namespace LspRelay

namespace Process

/-- The search path of a process that has not been told another. -/
def defaultPath : Bytes :=
  ofText "/usr/local/sbin:/usr/local/bin:/usr/sbin:/usr/bin:/sbin:/bin"

/-- Where a process finds a program, or why it cannot run it. -/
def locate (p : Process) (name : Bytes) : Except SystemError Bytes :=
  let check (file : Bytes) : Except SystemError Bytes := do
    let n ← p.files.node p.here file
    if n.isExecutable then return file else throw .permissionDenied
  if name = [] then .error .notFound
  else if name.contains Octet.slash then check name
  else
    let path := (p.bindings.lookup (ofText "PATH")).getD defaultPath
    let results := (path.splitOn (octet ':')).map fun directory =>
      check (if directory = [] then name else directory ++ Octet.slash :: name)
    let isFinal (r : Except SystemError Bytes) : Bool :=
      match r with
      | .ok _ => true
      | .error e => e ≠ .notFound && e ≠ .notADirectory && e ≠ .permissionDenied
    let isRefused (r : Except SystemError Bytes) : Bool :=
      match r with
      | .ok _ => false
      | .error e => e = .permissionDenied
    match results.find? isFinal with
    | some r => r
    | none => .error (if results.any isRefused then .permissionDenied else .notFound)

end Process

end LspRelay
