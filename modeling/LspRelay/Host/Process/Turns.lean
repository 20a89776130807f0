import LspRelay.Host.Process.Basic

namespace LspRelay

/-- A process that waits: its place among all, what it waits for and does then, whether it has been
stopped, the signals of which it hears later, and how much of the present time it has used. -/
structure Waiting where
  place : List Nat
  process : Process
  wait : Wait
  resume : Process → Course
  isStopped : Bool
  pending : List Nat
  used : Nat

structure Turns where
  world : World
  waiting : List Waiting
  outside : Party

namespace Turns

def surroundings (t : Turns) : World :=
  { t.world with others := t.outside :: t.waiting.map fun w => w.process.party }

def lent (t : Turns) (p : Process) : Process :=
  let others := (t.waiting.filter fun w => w.process.number ≠ p.number).map fun w => w.process.party
  { p with toWorld := { t.world with others := t.outside :: others } }

def insert (t : Turns) (w : Waiting) : Turns :=
  let (before, after) := t.waiting.span fun v => v.place < w.place
  { t with waiting := before ++ w :: after }

def without (t : Turns) (number : Nat) : Turns :=
  { t with waiting := t.waiting.filter fun w => w.process.number ≠ number }

/-- Lets a process know of a signal, if it takes note of that. -/
def notify (t : Turns) (number signal : Nat) : Turns :=
  let heard (p : Process) : Process :=
    if p.number = number ∧ signal ∈ p.caught ∧ signal ∉ p.signals then
      { p with signals := p.signals ++ [signal] }
    else p
  { t with waiting := t.waiting.map fun w => { w with process := heard w.process } }

/-- Notes the end of a process for its parent, if that is still there. What it has not asked about
is of no interest any more. -/
def bury (t : Turns) (p : Process) : Turns :=
  let isKnown := p.parent = t.outside.number || t.waiting.any fun w => w.process.number = p.parent
  let remains := t.world.remains.filter fun r => r.parent ≠ p.number
  let t := t.notify p.parent Signal.child
  { t with
    world := { t.world with
      remains := if isKnown then ⟨p.number, p.parent, p.fate⟩ :: remains else remains } }

/-- What a signal does to a process that is not stopped: it may be the end of it. -/
def heard (w : Waiting) (signal : Nat) : Option Waiting :=
  let p := w.process
  if signal = 9 then none
  else if signal = 19 then some { w with isStopped := true }
  else if signal ∈ p.caught then
    some { w with process := { p with signals := p.signals ++ [signal] } }
  else if signal ∈ p.ignored ∨ Signal.isHarmless signal then some w
  else if Signal.isStop signal then some { w with isStopped := true }
  else none

def signalled (w : Waiting) (signal : Nat) : Option Waiting :=
  if !w.isStopped ∨ signal = 9 then heard w signal
  else if signal = Signal.proceed then
    (w.pending ++ [signal]).foldl (fun w signal => w.bind (heard · signal))
      (some { w with isStopped := false, pending := [] })
  else some { w with pending := w.pending ++ [signal] }

def deliver (t : Turns) (s : Sending) : Turns :=
  let isMeant (w : Waiting) : Bool :=
    if s.toGroup then w.process.group = s.number else w.process.number = s.number
  (t.waiting.filter isMeant).foldl
    (fun t w =>
      match signalled w s.signal with
      | some v =>
        let waiting :=
          t.waiting.map fun u => if u.process.number = w.process.number then v else u
        if v.isStopped = w.isStopped then { t with waiting }
        else { t with waiting }.notify w.process.parent Signal.child
      | none =>
        (t.without w.process.number).bury { w.process with killedBy := some s.signal })
    t

def deliverAll (t : Turns) : Turns :=
  if t.world.sent.isEmpty then t
  else
    let sent := t.world.sent.reverse
    sent.foldl deliver { t with world := { t.world with sent := [] } }

/-- Goes on with a process until it has to wait, given its place and how much of the present time it
has used. The fuel bounds how often it starts others. -/
def follow : Nat → List Nat → Nat → Course → Turns → Turns
  | 0, _, _, _, t => t
  | fuel + 1, place, used, c, t =>
    match c with
    | .ended p => ({ t with world := p.toWorld }.bury p).deliverAll
    | .start course child p resume =>
      let t := { t with world := p.toWorld }.insert
        { place := place ++ [child.number]
          process := child
          wait := .nothing
          resume := course
          isStopped := false
          pending := []
          used := 0 }
      follow fuel place used (resume (t.lent p)) t
    | .wait w p resume =>
      let t := ({ t with world := p.toWorld }.insert
        { place, process := p, wait := w, resume, isStopped := false, pending := [], used }).deliverAll
      match w, t.waiting.find? fun v => v.process.number = p.number with
      | .nothing, some v =>
        if v.isStopped then t
        else follow fuel place used (v.resume (t.lent v.process)) (t.without p.number)
      | _, _ => t

def canGo (world : World) (w : Waiting) : Bool :=
  !w.isStopped &&
    match w.wait with
    | .nothing => true
    | .others => false
    | .event time condition heeds =>
      (time.any fun t => t ≤ world.clock) || condition world ||
        (heeds && !w.process.signals.isEmpty)

def isIdle (w : Waiting) : Bool :=
  !w.isStopped &&
    match w.wait with
    | .others => true
    | _ => false

/-- When the next process goes on that waits for a time. -/
def nextTime? (t : Turns) : Option Nat :=
  let times := t.waiting.filterMap fun w =>
    match w.wait with
    | .event (some time) _ _ => if w.isStopped || never ≤ time then none else some time
    | _ => none
  times.min?

/-- How much of one time a process may use if something else happens later, and if not. -/
def useLimit (hasLater : Bool) : Nat := if hasLater then 2000 else 200000

/-- How much of the present time a process uses when it goes on. -/
def cost (w : Waiting) : Nat := if isIdle w then 10 else 1

def next? (limit : Nat) (t : Turns) : Option Waiting :=
  let world := t.surroundings
  let left := t.waiting.filter fun w => w.used < limit
  match left.find? (canGo world) with
  | some w => some w
  | none =>
    (left.filter isIdle).foldl
      (fun best w =>
        match best with
        | some b => if w.used < b.used then some w else best
        | none => some w)
      none

def startLimit : Nat := Nat.pow 2 30

def turn (t : Turns) (w : Waiting) : Turns :=
  follow startLimit w.place (w.used + cost w) (w.resume (t.lent w.process))
    (t.without w.process.number)

/-- Lets all processes go on until none can any more at the present time, given whether something
else happens later. The fuel bounds the turns. -/
def run (hasLater : Bool) : Nat → Turns → Turns
  | 0, t => t
  | fuel + 1, t =>
    match t.next? (useLimit (hasLater || t.nextTime?.isSome)) with
    | none => t
    | some w => run hasLater fuel (t.turn w)

def pass (t : Turns) (time : Nat) : Turns :=
  { t with
    world := { t.world with files := { t.world.files with now := max t.world.files.now time } }
    waiting := t.waiting.map fun w => { w with used := 0 } }

end Turns

end LspRelay
