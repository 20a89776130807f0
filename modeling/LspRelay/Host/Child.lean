import LspRelay.Fault.Basic
import LspRelay.Host.Files.Known
import LspRelay.Host.Process.Turns
import LspRelay.Session.WaitStatus
import LspRelay.Host.Shell.Run
import LspRelay.Host.Tool.Programs

namespace LspRelay

namespace Child

def sessionNumber : Nat := 1

def serverNumber : Nat := 2

def inputNumber : Nat := 0

def outputNumber : Nat := 1

def world : World :=
  { files := Files.initial
    feeds := [(inputNumber, .pipe .empty), (outputNumber, .pipe .empty)]
    numbers := 3
    errors := []
    others := []
    remains := []
    sent := [] }

def process : Process :=
  { world with
    label := []
    number := serverNumber
    parent := sessionNumber
    group := sessionNumber
    here := Files.workingDirectory
    bindings := [(ofText "HOME", ofText "/root"), (ofText "PATH", Process.defaultPath)]
    mask := 0o022
    niceness := 0
    streams := [(0, .source inputNumber), (1, .target (.pipe outputNumber)), (2, .target .errors)]
    kept := []
    ignored := []
    caught := []
    signals := []
    held := []
    heldSize := 0
    isPrompt := false
    effort := 0
    status := 0
    killedBy := none }

def session : Party :=
  { number := sessionNumber
    parent := 0
    group := sessionNumber
    opened := [.target (.pipe inputNumber), .source outputNumber] }

def launch (program : String) (args : List String) : Except IoError Turns :=
  if (program :: args).any fun s => '\x00' ∈ s.toList then .error .nulByte
  else
    match process.locate (ofText program) with
    | .error e => .error (.system e)
    | .ok file =>
      let course :=
        Shell.execute Tool.programs Shell.stepLimit file ((program :: args).map ofText)
      let server : Waiting := ⟨[], process, .nothing, course, false, [], 0⟩
      .ok ⟨world, [server], session⟩

def exit? (t : Turns) : Option WaitStatus :=
  (t.world.fate? serverNumber).map fun e =>
    match e.killedBy with
    | some signal => .killed signal
    | none => .exited e.status

/-- The processes when the session has asked how the server ended. -/
def buried (t : Turns) : Turns :=
  let remains := t.world.remains.filter fun r => r.number ≠ serverNumber
  { t with world := { t.world with remains } }

end Child

end LspRelay
