import LspRelay.Relay.Basic

namespace LspRelay

/-- A stream that takes bytes until `limit`, at most `maxWrite` at a time, and then refuses. -/
structure Sink where
  limit : Option Nat
  refusal : IoError
  maxWrite : Option Nat
  flushError : Option IoError
  shutdownError : Option IoError
  deriving Repr, DecidableEq

namespace Sink

def unlimited : Sink := ⟨none, .named "sink full", none, none, none⟩

/-- The bytes taken of some that are to be written whole, after `used` bytes before them, and why
the rest was refused. A stream that takes none at a time refuses at once. -/
def accept (s : Sink) (used : Nat) (bytes : List UInt8) : List UInt8 × Option IoError :=
  let room := match s.limit with
    | none => bytes.length
    | some limit => limit - used
  if bytes = [] then ([], none)
  else if room = 0 ∨ s.maxWrite = some 0 then ([], some s.refusal)
  else if room < bytes.length then (bytes.take room, some s.refusal)
  else (bytes, none)

/-- Performs steps after `used` bytes until one fails. A flush and an end of writing are attempted,
and so performed, even when they fail. -/
def perform (s : Sink) : Nat → List Step → List Step × Option IoError
  | _, [] => ([], none)
  | used, step :: steps =>
    match step with
    | .write bytes =>
      match s.accept used bytes with
      | (taken, some e) => ([.write taken], some e)
      | (taken, none) => after (.write taken) (s.perform (used + taken.length) steps)
    | .flush =>
      match s.flushError with
      | some e => ([.flush], some e)
      | none => after .flush (s.perform used steps)
    | .shutdown =>
      match s.shutdownError with
      | some e => ([.shutdown], some e)
      | none => after .shutdown (s.perform used steps)
    | step => after step (s.perform used steps)
where
  after (step : Step) (rest : List Step × Option IoError) : List Step × Option IoError :=
    (step :: rest.1, rest.2)

end Sink

namespace Step

def written : List Step → List UInt8
  | [] => []
  | .write bytes :: steps => bytes ++ written steps
  | _ :: steps => written steps

def notes : List Step → List Log.Record
  | [] => []
  | .note r :: steps => r :: notes steps
  | _ :: steps => notes steps

/-- What the two streams see of some steps: no notes, and writes in a row as one. -/
def events : List Step → List Step
  | [] => []
  | .note _ :: steps => events steps
  | .write bytes :: steps =>
    match events steps with
    | .write more :: rest => .write (bytes ++ more) :: rest
    | rest => if bytes = [] then rest else .write bytes :: rest
  | step :: steps => step :: events steps

end Step

/-- The steps of a relay that were performed, and how it ended. -/
structure Delivery where
  steps : List Step
  outcome : Outcome
  deriving Repr, DecidableEq

def Relay.run (r : Relay) (source : Source) (sink : Sink) : Delivery :=
  let (reads, ending) := source.reads
  let (planned, outcome) := r.steps reads ending
  match sink.perform 0 planned with
  | (performed, none) => ⟨performed, outcome⟩
  | (performed, some e) => ⟨performed, .failed (.stream e)⟩

end LspRelay
