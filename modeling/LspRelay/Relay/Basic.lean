import LspRelay.Frame.Buffer
import LspRelay.Message.Edit
import LspRelay.Relay.Source

namespace LspRelay

/-- From the client to the server, or back. -/
inductive Direction where
  | toServer
  | toClient
  deriving Repr, DecidableEq

def Direction.label : Direction → String
  | toServer => "client->server"
  | toClient => "server->client"

/-- What a relay has counted. -/
structure Stats where
  bytesIn : Nat
  framesIn : Nat
  framesOut : Nat
  faults : Nat
  deriving Repr, DecidableEq

namespace Stats

def zero : Stats := ⟨0, 0, 0, 0⟩

def text (s : Stats) : String :=
  "PumpStats \x7b bytes_in: " ++ toString s.bytesIn ++ ", frames_in: " ++ toString s.framesIn ++
    ", frames_out: " ++ toString s.framesOut ++ ", faults: " ++ toString s.faults ++ " \x7d"

end Stats

/-- A read of some octets, none at the end of the stream; a write; a flush; the end of writing; or a
record for the log. -/
inductive Step where
  | read (count : Nat)
  | write (bytes : List UInt8)
  | flush
  | shutdown
  | note (r : Log.Record)
  deriving Repr, DecidableEq

/-- How a relay ends. A relay whose source is silent waits for ever. -/
inductive Outcome where
  | finished (stats : Stats)
  | failed (fault : Fault)
  | waiting
  deriving Repr, DecidableEq

structure Relay where
  direction : Direction
  edit : Edit
  buffer : Buffer
  stats : Stats

namespace Relay

def new (direction : Direction) (edit : Edit) : Relay :=
  ⟨direction, edit, .empty, .zero⟩

def note (r : Relay) (level : Log.Level) (message : String) (fields : List (String × String)) :
    Step :=
  .note ⟨.relay, level, message, ("direction", r.direction.label) :: fields⟩

def frameSteps (r : Relay) (f : Frame) : List Step :=
  let out := r.edit f.body
  r.note .trace "Frame received" [("body_len", toString f.body.length)] ::
    (out.notes.map .note ++ out.bodies.map fun body => .write (Frame.encode body))

def faultSteps (r : Relay) (raw : List UInt8) : List Step :=
  [r.note .warn "No usable Content-Length header, flushing buffer raw"
    [("flushed", toString raw.length)], .write raw]

/-- Every whole frame is sent on before the next read, and so is what a fault leaves. -/
def receive (r : Relay) (chunk : List UInt8) : Relay × List Step :=
  let d := (r.buffer.extend chunk).drain
  let sent := (d.frames.flatMap fun f => (r.edit f.body).bodies).length
  let stats : Stats :=
    { bytesIn := r.stats.bytesIn + chunk.length
      framesIn := r.stats.framesIn + d.frames.length
      framesOut := r.stats.framesOut + sent
      faults := r.stats.faults + d.fault.toList.length }
  ({ r with buffer := d.rest, stats },
    .read chunk.length ::
      (d.frames.flatMap r.frameSteps ++ d.fault.toList.flatMap r.faultSteps ++ [.flush]))

/-- A frame that the end of the stream cut short goes on as it came. -/
def closeSteps (r : Relay) : List Step :=
  let rest := r.buffer.bytes
  let remainder :=
    if rest = [] then []
    else [r.note .warn "Stream ended inside a frame, forwarding remainder raw"
      [("pending", toString rest.length)], .write rest]
  .read 0 :: (remainder ++ [.flush, .shutdown, r.note .debug "Stream closed"
    [("stats", r.stats.text)]])

/-- The steps of a run over non-empty reads and the outcome if every step succeeds. -/
def steps (r : Relay) : List (List UInt8) → Ending → List Step × Outcome
  | [], .endOfFile => (r.closeSteps, .finished r.stats)
  | [], .failed cause => ([], .failed (.stream cause))
  | [], .silent => ([], .waiting)
  | chunk :: chunks, ending =>
    let (next, now) := r.receive chunk
    let (later, outcome) := next.steps chunks ending
    (now ++ later, outcome)

end Relay

end LspRelay
