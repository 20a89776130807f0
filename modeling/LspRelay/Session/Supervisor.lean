import LspRelay.Relay.Sink

namespace LspRelay

/-- What becomes of the server: the code that it ended with, if it was not killed, or why that cannot
be known. -/
abbrev Exit := Except IoError (Option Int)

/-- A relay performs steps, a relay ends, the server exits, or the wait for its output is over. -/
inductive Event where
  | moved (d : Direction) (steps : List Step)
  | ended (d : Direction) (result : Except Fault Stats)
  | exited (exit : Exit)
  | drainExpired

/-- Steps of a relay that the session runs, and what the session does by itself. -/
inductive Action where
  | relay (d : Direction) (steps : List Step)
  | report (d : Direction) (result : Except Fault Stats)
  | giveUp
  | flushClient
  | closeClient
  | answer (exit : Exit)

/-- The relays that have not ended yet run while the server does; after its exit only the relay to
the client runs, if it has not ended; and at last none. -/
inductive Phase where
  | running (toServerEnded toClientEnded : Bool)
  | draining (exit : Exit)
  | closed

namespace Phase

def start : Phase := .running false false

def runs : Phase → Direction → Bool
  | .running toServerEnded _, .toServer => !toServerEnded
  | .running _ toClientEnded, .toClient => !toClientEnded
  | .draining _, .toServer => false
  | .draining _, .toClient => true
  | .closed, _ => false

def closing (exit : Exit) : Phase × List Action :=
  (.closed, [.flushClient, .closeClient, .answer exit])

def step (p : Phase) : Event → Phase × List Action
  | .moved d steps => (p, if p.runs d then [.relay d steps] else [])
  | .ended d result =>
    if p.runs d then
      match p, d with
      | .running _ toClientEnded, .toServer =>
        (.running true toClientEnded, [.report .toServer result])
      | .running toServerEnded _, .toClient =>
        (.running toServerEnded true, [.report .toClient result])
      | .draining exit, _ =>
        let (p, actions) := closing exit
        (p, .report .toClient result :: actions)
      | .closed, _ => (p, [])
    else (p, [])
  | .exited exit =>
    match p with
    | .running _ true => closing exit
    | .running _ false => (.draining exit, [])
    | p => (p, [])
  | .drainExpired =>
    match p with
    | .draining exit =>
      let (p, actions) := closing exit
      (p, .giveUp :: actions)
    | p => (p, [])

def run (p : Phase) : List Event → Phase × List Action
  | [] => (p, [])
  | e :: es =>
    let (q, now) := p.step e
    let (r, later) := q.run es
    (r, now ++ later)

end Phase

end LspRelay
