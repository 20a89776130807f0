import LspRelay.Relay.Sink
import LspRelay.Host.Child
import LspRelay.Session.Host

namespace LspRelay

/-- A moment with its time, and its rank among those of one time: what goes to the server comes
first, then what the server complains of, then what goes to the client, and then ends. -/
structure Timed where
  time : Nat
  rank : Nat
  moment : Moment

/-- A session under way: the processes; what the relay to the server still has to do, how it will
end, and whether it runs; the relay to the client, what it has read and not yet dealt with, the last
first, what it has written, and whether it runs; when the server ended; and all that has happened,
the last first. -/
structure Traffic where
  turns : Turns
  steps : List Step
  outcome : Outcome
  sends : Bool
  relay : Relay
  arrived : List (List UInt8)
  used : Nat
  returns : Bool
  exitTime : Option Nat
  moments : List Timed

namespace Traffic

/-- How long the wait for the output lasts, in milliseconds. -/
def drainLimit : Nat := 500

def start (turns : Turns) (source : Source) : Traffic :=
  let planned := (Relay.new .toServer Edit.toServer).run source .unlimited
  { turns
    steps := planned.steps
    outcome := planned.outcome
    sends := true
    relay := Relay.new .toClient Edit.toClient
    arrived := []
    used := 0
    returns := true
    exitTime := none
    moments := [] }

def clock (t : Traffic) : Nat := t.turns.world.clock

def note (t : Traffic) (rank : Nat) (e : Event) : Traffic :=
  { t with moments := ⟨t.clock, rank, .event e⟩ :: t.moments }

def letGo (t : Traffic) (s : Stream) : Traffic :=
  let outside := { t.turns.outside with opened := t.turns.outside.opened.filter (· ≠ s) }
  { t with turns := { t.turns with outside } }

def setPipe (t : Traffic) (number : Nat) (p : Pipe) : Traffic :=
  { t with turns := { t.turns with world := t.turns.world.setFeed number (.pipe p) } }

def stopSending (t : Traffic) : Traffic :=
  { t.letGo (.target (.pipe Child.inputNumber)) with sends := false, steps := [] }

def stopReturning (t : Traffic) : Traffic :=
  { t.letGo (.source Child.outputNumber) with returns := false, arrived := [] }

/-- Takes steps of the relay to the server as far as there is room in a pipe, if anyone reads from
it: the steps that were taken, the pipe, and what is left to do. -/
def take (isRead : Bool) (p : Pipe) : List Step → List Step × Pipe × List Step
  | [] => ([], p, [])
  | .write bytes :: steps =>
    if bytes = [] then take isRead p steps
    else if isRead then
      match p.write bytes with
      | (p, []) =>
        let (taken, p, rest) := take isRead p steps
        (.write bytes :: taken, p, rest)
      | (p, rest) => ([], p, .write rest :: steps)
    else ([], p, .write bytes :: steps)
  | step :: steps =>
    let (taken, p, rest) := take isRead p steps
    (step :: taken, p, rest)

def send (t : Traffic) : Traffic :=
  if !t.sends then t
  else
    let isRead := t.turns.surroundings.isRead Child.inputNumber
    let pipe := (t.turns.world.pipe? Child.inputNumber).getD .empty
    let (taken, pipe, steps) := take isRead pipe t.steps
    let t := if taken = [] then t else t.note 0 (.moved .toServer taken)
    let t := { t.setPipe Child.inputNumber pipe with steps }
    if steps ≠ [] then
      if isRead then t
      else (t.note 0 (.ended .toServer (.error (.stream (.system .brokenPipe))))).stopSending
    else
      match t.outcome with
      | .finished stats => (t.note 0 (.ended .toServer (.ok stats))).stopSending
      | .failed fault => (t.note 0 (.ended .toServer (.error fault))).stopSending
      | .waiting => t

def perform (t : Traffic) (sink : Sink) (steps : List Step) : Traffic × Bool :=
  let (performed, failure) := sink.perform t.used steps
  let t := t.note 2 (.moved .toClient performed)
  let t := { t with used := t.used + (Step.written performed).length }
  match failure with
  | none => (t, true)
  | some e => ((t.note 2 (.ended .toClient (.error (.stream e)))).stopReturning, false)

def receive (t : Traffic) (sink : Sink) : List (List UInt8) → Traffic
  | [] => t
  | chunk :: chunks =>
    let (relay, steps) := t.relay.receive chunk
    match { t with relay }.perform sink steps with
    | (t, true) => t.receive sink chunks
    | (t, false) => t

def settle (t : Traffic) (sink : Sink) : Traffic :=
  let bytes := t.arrived.reverse.flatten
  if bytes = [] then t else { t with arrived := [] }.receive sink (pieces bytes)

def collect (t : Traffic) (sink : Sink) : Traffic :=
  if !t.returns then t
  else
    let pipe := (t.turns.world.pipe? Child.outputNumber).getD .empty
    let bytes := pipe.bytes
    if bytes = [] then t
    else
      let t := { t.setPipe Child.outputNumber .empty with arrived := bytes :: t.arrived }
      let all := t.arrived.reverse.flatten
      let count := all.length / readLimit * readLimit
      if count = 0 then t
      else
        let rest := all.drop count
        { t with arrived := if rest = [] then [] else [rest] }.receive sink (pieces (all.take count))

def conclude (t : Traffic) (sink : Sink) : Traffic :=
  let t := match Child.exit? t.turns with
    | some status =>
      { t.note 3 (.exited (.ok status.code?)) with
        turns := Child.buried t.turns
        exitTime := some t.clock }.stopSending
    | none => t
  let isOpen := t.turns.surroundings.isWritten Child.outputNumber
  if t.returns && !isOpen then
    match t.perform sink t.relay.closeSteps with
    | (t, true) => (t.note 2 (.ended .toClient (.ok t.relay.stats))).stopReturning
    | (t, false) => t
  else if t.returns && (t.exitTime.any fun time => time + drainLimit ≤ t.clock) then
    (t.note 4 .drainExpired).stopReturning
  else t

def watchLimit : Nat := 30000

def nextTime? (t : Traffic) : Option Nat :=
  let drain := if t.returns then t.exitTime.map fun time => time + drainLimit else none
  let time := match t.turns.nextTime?, drain with
    | some a, some b => some (min a b)
    | a, b => a.or b
  time.filter fun time => t.exitTime.all fun exit => time ≤ exit + watchLimit

def isReady (t : Traffic) : Bool :=
  let world := t.turns.surroundings
  t.turns.waiting.any fun w => w.used < Turns.useLimit t.nextTime?.isSome && Turns.canGo world w

def roundLimit : Nat := Nat.pow 2 40

/-- How often the relays may go on at one time if something else happens later. -/
def stepLimit : Nat := 100

def run (sink : Sink) : Nat → Nat → Traffic → Traffic
  | 0, _, t => t
  | fuel + 1, steps, t =>
    let isOver := t.exitTime.isSome && !t.returns
    let turns := t.turns.run (t.nextTime?.isSome || isOver) roundLimit
    let t := ({ t with turns }.send).collect sink
    let isReady (t : Traffic) : Bool := t.isReady && (steps < stepLimit || t.nextTime?.isNone)
    if isReady t then run sink fuel (steps + 1) t
    else
      let t := (t.settle sink).conclude sink
      if isReady t then run sink fuel (steps + 1) t
      else
        match t.nextTime? with
        | none => t
        | some time => run sink fuel 0 { t with turns := t.turns.pass time }

def history (t : Traffic) : List Timed :=
  let errors : List Timed := t.turns.world.errors.map fun b => ⟨b.time, 1, .server b.bytes⟩
  (errors.reverse ++ t.moments.reverse).mergeSort fun a b =>
    a.time < b.time || (a.time = b.time && a.rank ≤ b.rank)

end Traffic

end LspRelay
