import LspRelay.Host.Shell.Format
import LspRelay.Host.Shell.Jobs
import LspRelay.Host.Shell.Surroundings

namespace LspRelay.Shell

open Run

def echo (args : List Bytes) : Run Nat := do
  let quiet := args.head? = some (ofText "-n")
  let (shown, cut) := unescape (joined (if quiet then args.tail else args))
  print (shown ++ (if quiet || cut then [] else [Octet.lineFeed]))
  return 0

def printFormatted (args : List Bytes) : Run Nat := do
  let (_, args) ← lettersOf "" args
  match args with
  | [] => fail (ofText "usage: printf format [arg ...]")
  | format :: rest =>
    let f := formatAll (rest.length + 1) format rest
    print f.output
    for (about, fault) in f.faults do warn (fault.message about)
    return if f.faults = [] then 0 else if f.faults.any (·.2.isFatal) then 2 else 1

def test (bracket : Bool) (args : List Bytes) : Run Nat := do
  match Condition.answer (← get).process bracket args with
  | .ok answer => return if answer then 0 else 1
  | .error e => fail e.message

def exitShell (args : List Bytes) : Run Nat := do
  match args with
  | [] => pure ()
  | arg :: _ => setStatus ((← number arg) % 256)
  throw .exit

def returnBack (args : List Bytes) : Run Nat := do
  match args with
  | [] => pure ()
  | arg :: _ => setStatus (← number arg)
  throw .back

def jump (kind : Nat → Jump) (args : List Bytes) : Run Nat := do
  let n ← match args with
    | [] => pure 1
    | arg :: _ => do
      let n ← number arg
      if n = 0 then fail (ofText "Illegal number: " ++ arg) else pure n
  let n := min n (← get).loops
  if n = 0 then return 0
  else
    setStatus 0
    throw (kind n)

def builtIn? (name : String) : Option (List Bytes → Run Nat) :=
  match name with
  | ":" => some fun _ => return 0
  | "true" => some fun _ => return 0
  | "false" => some fun _ => return 1
  | "echo" => some echo
  | "printf" => some printFormatted
  | "test" => some (test false)
  | "[" => some (test true)
  | "exit" => some exitShell
  | "return" => some returnBack
  | "break" => some (jump .leave)
  | "continue" => some (jump .goOn)
  | "shift" => some shiftArguments
  | "set" => some setShell
  | "unset" => some unsetNames
  | "export" => some (markVariables "export" Variable.isExported fun v =>
      { v with isExported := true })
  | "readonly" => some (markVariables "readonly" Variable.isReadonly fun v =>
      { v with isReadonly := true })
  | "local" => some declareLocal
  | "getopts" => some getOption
  | "read" => some readVariables
  | "alias" => some setAliases
  | "unalias" => some unsetAliases
  | "kill" => some killProcesses
  | "wait" => some waitForJobs
  | "jobs" => some showJobs
  | "fg" => some controlJob
  | "bg" => some controlJob
  | "trap" => some setTraps
  | "cd" => some changeDirectory
  | "chdir" => some changeDirectory
  | "pwd" => some showDirectory
  | "umask" => some setMask
  | "ulimit" => some setLimits
  | "times" => some showTimes
  | "hash" => some lookUp
  | "type" => some describeAll
  | _ => none

end LspRelay.Shell
