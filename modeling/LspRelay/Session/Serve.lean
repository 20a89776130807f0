import LspRelay.CommandLine.Settings
import LspRelay.Session.Host
import LspRelay.Session.WaitStatus
import LspRelay.Text.Quoted

namespace LspRelay

/-- A log record, or what the server prints on its error stream. -/
inductive Entry where
  | record (r : Log.Record)
  | server (bytes : List UInt8)
  deriving Repr, DecidableEq

/-- Why a session has no exit code: the server was not launched, its end cannot be known, or it has
not come to an end. -/
inductive Failure where
  | launch (program : String) (fault : Fault)
  | wait (cause : IoError)
  | unfinished
  deriving Repr, DecidableEq

def Failure.message : Failure → String
  | launch program fault => fault.chain ("cannot launch " ++ program)
  | wait cause => "failed to wait for language server: " ++ cause.message
  | unfinished => "session has not ended"

/-- The server's exit code, the calls on the client's stream, and the log. -/
structure Session where
  answer : Except Failure Nat
  client : List Step
  entries : List Entry

namespace Session

def report (d : Direction) : Except Fault Stats → Log.Record
  | .ok stats => ⟨.session, .info, "Stream finished",
      [("direction", d.label), ("frames_in", toString stats.framesIn),
       ("frames_out", toString stats.framesOut), ("faults", toString stats.faults)]⟩
  | .error fault => ⟨.session, .warn, "Stream stopped",
      [("direction", d.label), ("error", fault.message)]⟩

def failure (message : String) : Option IoError → List Log.Record
  | some e => [⟨.session, .warn, message, [("error", e.message)]⟩]
  | none => []

def records (sink : Sink) : Action → List Log.Record
  | .relay _ steps => Step.notes steps
  | .report d result => [report d result]
  | .giveUp => [⟨.session, .warn, "Server output still open after exit, closing client stream", []⟩]
  | .flushClient => failure "Failed to flush client stream" sink.flushError
  | .closeClient => failure "Failed to close client stream" sink.shutdownError
  | .answer (.ok code) =>
    [⟨.session, .info, "Language server exited", [("code", toString (portableCode code))]⟩]
  | .answer (.error _) => []

def calls : Action → List Step
  | .relay .toClient steps => (Step.events steps).filter fun s =>
    match s with
    | .read _ => false
    | _ => true
  | .flushClient => [.flush]
  | .closeClient => [.shutdown]
  | _ => []

/-- The answer among some actions; a session without one has not ended. -/
def answerOf : List Action → Except Failure Nat
  | [] => .error .unfinished
  | .answer (.ok code) :: _ => .ok (portableCode code)
  | .answer (.error cause) :: _ => .error (.wait cause)
  | _ :: actions => answerOf actions

def follow (sink : Sink) (p : Phase) : List Moment → List Action × List Entry
  | [] => ([], [])
  | .server bytes :: ms =>
    let (actions, entries) := follow sink p ms
    (actions, .server bytes :: entries)
  | .event e :: ms =>
    let (next, now) := p.step e
    let (actions, entries) := follow sink next ms
    (now ++ actions, (now.flatMap (records sink)).map .record ++ entries)

def closed (s : Session) : Bool :=
  s.client.getLast? = some .shutdown

end Session

/-- Serves one client: the server gets what it sends, and it gets what the server prints. A server
that cannot be launched leaves the client's streams alone. -/
def Host.serve (h : Host) (settings : Settings) (source : Source) (sink : Sink) : Session :=
  let (program, args) := settings.launch
  let starting : Log.Record := ⟨.launch, .debug, "Starting language server",
    [("command", Text.quoted program), ("args", Text.quotedList args)]⟩
  match h.launch program args with
  | .error fault =>
    { answer := .error (.launch program fault)
      client := []
      entries := [.record starting] }
  | .ok server =>
    let started : Log.Record :=
      ⟨.session, .info, "Language server started", [("command", program), ("pid", "Some(_)")]⟩
    let (actions, entries) := Session.follow sink .start (server.history source sink)
    { answer := Session.answerOf actions
      client := actions.flatMap Session.calls
      entries := .record starting :: .record started :: entries }

end LspRelay
