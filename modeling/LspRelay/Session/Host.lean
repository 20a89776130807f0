import LspRelay.Session.Supervisor

namespace LspRelay

/-- Something that happens: to the session, or on the server's error stream. -/
inductive Moment where
  | event (e : Event)
  | server (bytes : List UInt8)

/-- A process that has been started: which of its pipes are there, and all that happens, in its
order, when a session relays a client's streams through them. -/
structure Spawned where
  hasInput : Bool
  hasOutput : Bool
  history : Source → Sink → List Moment

/-- What starts programs and decides when which of them goes on. -/
structure Host where
  spawn : String → List String → Except IoError Spawned

namespace Host

/-- Starts a server and takes both of its pipes. -/
def launch (h : Host) (program : String) (args : List String) : Except Fault Spawned :=
  match h.spawn program args with
  | .error e => .error (.spawnFailed program e)
  | .ok server =>
    if !server.hasInput then .error (.missingPipe "stdin")
    else if !server.hasOutput then .error (.missingPipe "stdout")
    else .ok server

end Host

end LspRelay
