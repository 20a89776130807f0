import LspRelay.Session.Serve

namespace LspRelay.Proofs.Supervision

/-- Where some events lead a session, and what it does on the way. -/
def phase (events : List Event) : Phase := (Phase.start.run events).1

def actions (events : List Event) : List Action := (Phase.start.run events).2

/-- Whether a relay comes to its end among some events. -/
def isOver (d : Direction) (events : List Event) : Bool :=
  events.any fun
    | .ended ending _ => ending = d
    | _ => false

/-- The server does not exit in some events. -/
def Alive (events : List Event) : Prop := ∀ exit, .exited exit ∉ events

def settled (events : List Event) : Bool :=
  events.any fun
    | .ended ending _ => ending = .toClient
    | .drainExpired => true
    | _ => false

/-- The relay that an action runs: it lets it go on, or takes its result. -/
def run? : Action → Option Direction
  | .relay d _ => some d
  | .report d _ => some d
  | _ => none

def reported? : Action → Option Direction
  | .report d _ => some d
  | _ => none

def returned (events : List Event) : List Action :=
  events.filterMap fun
    | .moved .toClient steps => some (.relay .toClient steps)
    | _ => none

def lastActions (exit : Exit) : List Action := [.flushClient, .closeClient, .answer exit]

/-- What there is to answer: nothing but success for a server that was killed, a code that fits an
octet as it is, failure for any other code, and that the end of the server cannot be known. -/
inductive Verdict : Exit → Except Failure Nat → Prop where
  | killed : Verdict (.ok none) (.ok 0)
  | ended {code : Nat} (fits : code ≤ 255) : Verdict (.ok (some code)) (.ok code)
  | foreign {code : Int} (other : code < 0 ∨ 255 < code) : Verdict (.ok (some code)) (.ok 1)
  | unknown {cause : IoError} : Verdict (.error cause) (.error (.wait cause))

/-- The wait for the server's output after its exit: the relay to the client is run until it ends
or its time is over, whichever is first, and from then on only the session's end is seen to. -/
inductive Awaited (exit : Exit) : List Event → Phase → List Action → Prop where
  | waiting {events : List Event} (unsettled : settled events = false) :
      Awaited exit events (.draining exit) (returned events)
  | ended {early late : List Event} {result : Except Fault Stats}
      (first : settled early = false) :
      Awaited exit (early ++ .ended .toClient result :: late) .closed
        (returned early ++ .report .toClient result :: lastActions exit)
  | expired {early late : List Event} (first : settled early = false) :
      Awaited exit (early ++ .drainExpired :: late) .closed
        (returned early ++ .giveUp :: lastActions exit)

/-- Everything that one event can lead to. -/
inductive Moves : Phase → Event → Phase → List Action → Prop where
  | relayed {p : Phase} {d : Direction} {steps : List Step} (runs : p.runs d = true) :
      Moves p (.moved d steps) p [.relay d steps]
  | sent {b : Bool} {result : Except Fault Stats} :
      Moves (.running false b) (.ended .toServer result) (.running true b)
        [.report .toServer result]
  | received {a : Bool} {result : Except Fault Stats} :
      Moves (.running a false) (.ended .toClient result) (.running a true)
        [.report .toClient result]
  | drained {exit : Exit} {result : Except Fault Stats} :
      Moves (.draining exit) (.ended .toClient result) .closed
        (.report .toClient result :: lastActions exit)
  | left {a : Bool} {exit : Exit} : Moves (.running a false) (.exited exit) (.draining exit) []
  | finished {a : Bool} {exit : Exit} :
      Moves (.running a true) (.exited exit) .closed (lastActions exit)
  | expired {exit : Exit} :
      Moves (.draining exit) .drainExpired .closed (.giveUp :: lastActions exit)
  | unmoved {p : Phase} {d : Direction} {steps : List Step} (rests : p.runs d = false) :
      Moves p (.moved d steps) p []
  | unended {p : Phase} {d : Direction} {result : Except Fault Stats} (rests : p.runs d = false) :
      Moves p (.ended d result) p []
  | gone {p : Phase} {exit : Exit} (known : ∀ a b, p ≠ .running a b) : Moves p (.exited exit) p []
  | untimed {p : Phase} (undrained : ∀ exit, p ≠ .draining exit) : Moves p .drainExpired p []

/-- A relay has ended before an action runs it, if the result of one was taken earlier. -/
def Stays (earlier later : Action) : Prop := ∀ d, reported? earlier = some d → run? later ≠ some d

variable {p q : Phase} {d : Direction} {e : Event} {events : List Event} {acts : List Action}

theorem step_moves (p : Phase) (e : Event) : Moves p e (p.step e).1 (p.step e).2 := by
  cases e with
  | moved d steps =>
    cases hr : p.runs d with
    | true => simpa [Phase.step, hr] using Moves.relayed hr
    | false => simpa [Phase.step, hr] using Moves.unmoved hr
  | ended d result =>
    cases hr : p.runs d with
    | true =>
      cases p with
      | running a b =>
        cases d with
        | toServer =>
          obtain rfl : a = false := by simpa [Phase.runs] using hr
          exact .sent
        | toClient =>
          obtain rfl : b = false := by simpa [Phase.runs] using hr
          exact .received
      | draining exit =>
        cases d with
        | toServer => cases hr
        | toClient => exact .drained
      | closed => cases hr
    | false => simpa [Phase.step, hr] using Moves.unended hr
  | exited exit =>
    cases p with
    | running a b =>
      cases b with
      | false => exact .left
      | true => exact .finished
    | draining exit => exact .gone nofun
    | closed => exact .gone nofun
  | drainExpired =>
    cases p with
    | running a b => exact .untimed nofun
    | draining exit => exact .expired
    | closed => exact .untimed nofun

/-- A relay that is not run is never run again. -/
theorem Moves.unrun (h : Moves p e q acts) (hr : p.runs d = false) :
    q.runs d = false ∧ ∀ a ∈ acts, run? a ≠ some d := by
  cases h with
  | relayed runs =>
    refine ⟨hr, List.forall_mem_singleton.mpr fun he => ?_⟩
    cases he
    exact nomatch runs.symm.trans hr
  | sent =>
    cases d with
    | toServer => cases hr
    | toClient => exact ⟨hr, by simp [run?]⟩
  | received =>
    cases d with
    | toServer => exact ⟨hr, by simp [run?]⟩
    | toClient => cases hr
  | drained =>
    cases d with
    | toServer => exact ⟨rfl, by simp [run?, lastActions]⟩
    | toClient => cases hr
  | left =>
    cases d with
    | toServer => exact ⟨rfl, by simp⟩
    | toClient => cases hr
  | finished => exact ⟨rfl, by simp [run?, lastActions]⟩
  | expired => exact ⟨rfl, by simp [run?, lastActions]⟩
  | unmoved | unended | gone | untimed => exact ⟨hr, by simp⟩

/-- A relay whose result is taken is not run from then on. -/
theorem Moves.once (h : Moves p e q acts) :
    acts.Pairwise Stays ∧ ∀ a ∈ acts, ∀ d, reported? a = some d → q.runs d = false := by
  cases h with
  | relayed => exact ⟨List.pairwise_singleton .., by simp [reported?]⟩
  | sent | received => exact ⟨List.pairwise_singleton .., by simp [reported?, Phase.runs]⟩
  | drained | finished | expired =>
    exact ⟨by simp [Stays, reported?, run?, lastActions], fun _ _ _ _ => rfl⟩
  | left | unmoved | unended | gone | untimed => exact ⟨.nil, by simp⟩

theorem run_cons (p : Phase) (e : Event) (es : List Event) :
    p.run (e :: es) = (((p.step e).1.run es).1, (p.step e).2 ++ ((p.step e).1.run es).2) := rfl

theorem run_append (p : Phase) (early late : List Event) :
    p.run (early ++ late) =
      (((p.run early).1.run late).1, (p.run early).2 ++ ((p.run early).1.run late).2) := by
  induction early generalizing p with
  | nil => rfl
  | cons e early ih => simp only [List.cons_append, run_cons, ih, List.append_assoc]

theorem run_unrun (events : List Event) (hr : p.runs d = false) :
    (p.run events).1.runs d = false ∧ ∀ a ∈ (p.run events).2, run? a ≠ some d := by
  induction events generalizing p with
  | nil => exact ⟨hr, by simp [Phase.run]⟩
  | cons e es ih =>
    obtain ⟨hnext, hnow⟩ := (step_moves p e).unrun hr
    obtain ⟨hlast, hlater⟩ := ih hnext
    exact ⟨hlast, List.forall_mem_append.mpr ⟨hnow, hlater⟩⟩

/-- Over a whole session, no relay is run and no result taken after its result was. -/
theorem run_once (p : Phase) (events : List Event) : (p.run events).2.Pairwise Stays := by
  induction events generalizing p with
  | nil => exact .nil
  | cons e es ih =>
    obtain ⟨hnow, hreported⟩ := (step_moves p e).once
    rw [run_cons]
    refine List.pairwise_append.mpr ⟨hnow, ih _, ?_⟩
    intro a ha b hb d hd
    exact (run_unrun es (hreported a ha d hd)).2 b hb

theorem run_closed (events : List Event) : Phase.closed.run events = (.closed, []) := by
  induction events with
  | nil => rfl
  | cons e es ih =>
    have hstep : Phase.closed.step e = (.closed, []) := by cases e <;> rfl
    rw [run_cons, hstep, ih]
    rfl

theorem isOver_cons (d : Direction) (e : Event) (es : List Event) :
    isOver d (e :: es) = (isOver d [e] || isOver d es) := by
  simp [isOver]

theorem settled_cons (e : Event) (es : List Event) :
    settled (e :: es) = (settled [e] || settled es) := by
  simp [settled]

theorem Moves.rests {result : Except Fault Stats} (h : Moves p (.ended d result) q acts) :
    q.runs d = false := by
  cases h with
  | sent | received | drained => rfl
  | unended rests => exact rests

/-- A relay is not run once it has come to its end, in whatever phase that was. -/
theorem run_isOver (h : isOver d events = true) : (p.run events).1.runs d = false := by
  induction events generalizing p with
  | nil => cases h
  | cons e es ih =>
    rw [run_cons]
    rcases Bool.or_eq_true_iff.mp (isOver_cons d e es ▸ h) with he | hes
    · obtain ⟨result, rfl⟩ : ∃ result, e = .ended d result := by
        cases e with
        | ended ending result =>
          obtain rfl : ending = d := by simpa [isOver] using he
          exact ⟨result, rfl⟩
        | moved | exited | drainExpired => simp [isOver] at he
      exact (run_unrun es (step_moves p (.ended d result)).rests).1
    · exact ih hes

/-- While the server runs, an event ends at most the relay that it tells of. -/
theorem Moves.running {a b : Bool} (h : Moves (.running a b) e q acts)
    (hlives : ∀ exit, e ≠ .exited exit) :
    q = .running (a || isOver .toServer [e]) (b || isOver .toClient [e]) := by
  cases h with
  | relayed | sent | received | unmoved | untimed => simp [isOver]
  | @unended _ d result rests =>
    cases d with
    | toServer =>
      obtain rfl : a = true := by simpa [Phase.runs] using rests
      simp [isOver]
    | toClient =>
      obtain rfl : b = true := by simpa [Phase.runs] using rests
      simp [isOver]
  | left => exact absurd rfl (hlives _)
  | finished => exact absurd rfl (hlives _)
  | gone known => exact absurd rfl (known a b)

theorem run_running {a b : Bool} (h : Alive events) :
    ((Phase.running a b).run events).1 =
      .running (a || isOver .toServer events) (b || isOver .toClient events) := by
  induction events generalizing a b with
  | nil => simp [Phase.run, isOver]
  | cons e es ih =>
    have hlives : ∀ exit, e ≠ .exited exit := fun exit he => h exit (he ▸ List.mem_cons_self)
    have hlater : Alive es := fun exit hm => h exit (List.mem_cons_of_mem _ hm)
    rw [run_cons, (step_moves (.running a b) e).running hlives, ih hlater,
      isOver_cons .toServer e es, isOver_cons .toClient e es, Bool.or_assoc, Bool.or_assoc]

/-- As long as a session has not come to its end, all that it does is run its relays. -/
theorem Moves.unclosed (h : Moves p e q acts) (hq : q ≠ .closed) :
    ∀ a ∈ acts, (run? a).isSome = true := by
  cases h with
  | relayed | sent | received => simp [run?]
  | drained | finished | expired => exact absurd rfl hq
  | left | unmoved | unended | gone | untimed => simp

theorem run_unclosed (h : (p.run events).1 ≠ .closed) :
    ∀ a ∈ (p.run events).2, (run? a).isSome = true := by
  induction events generalizing p with
  | nil => simp [Phase.run]
  | cons e es ih =>
    rw [run_cons] at h ⊢
    have hq : (p.step e).1 ≠ .closed := fun hc => h (by rw [hc, run_closed])
    exact List.forall_mem_append.mpr ⟨(step_moves p e).unclosed hq, ih h⟩

theorem returned_cons (e : Event) (es : List Event) :
    returned (e :: es) = returned [e] ++ returned es := by
  simp only [returned, ← List.filterMap_append, List.singleton_append]

/-- An event that settles nothing leaves the wait as it is, but for steps of the relay. -/
theorem Awaited.cons {exit : Exit} (h : Awaited exit events q acts) (he : settled [e] = false) :
    Awaited exit (e :: events) q (returned [e] ++ acts) := by
  cases h with
  | waiting unsettled =>
    rw [← returned_cons]
    exact .waiting (by rw [settled_cons, he, unsettled]; rfl)
  | ended first =>
    rw [← List.append_assoc, ← returned_cons, ← List.cons_append]
    exact .ended (by rw [settled_cons, he, first]; rfl)
  | expired first =>
    rw [← List.append_assoc, ← returned_cons, ← List.cons_append]
    exact .expired (by rw [settled_cons, he, first]; rfl)

/-- Once the server has exited, an event settles the wait, or leaves it to go on. -/
theorem Moves.draining {exit : Exit} (h : Moves (.draining exit) e q acts)
    (hunsettled : settled [e] = false) : q = .draining exit ∧ acts = returned [e] := by
  cases h with
  | @relayed _ d steps runs =>
    cases d with
    | toServer => cases runs
    | toClient => exact ⟨rfl, rfl⟩
  | drained => simp [settled] at hunsettled
  | expired => simp [settled] at hunsettled
  | @unmoved _ d steps rests =>
    cases d with
    | toServer => exact ⟨rfl, rfl⟩
    | toClient => cases rests
  | unended | gone => exact ⟨rfl, rfl⟩
  | untimed undrained => exact absurd rfl (undrained exit)

theorem run_draining (exit : Exit) (events : List Event) :
    Awaited exit events ((Phase.draining exit).run events).1
      ((Phase.draining exit).run events).2 := by
  induction events with
  | nil => exact .waiting rfl
  | cons e es ih =>
    cases he : settled [e] with
    | false =>
      obtain ⟨hnext, hnow⟩ := (step_moves (.draining exit) e).draining he
      rw [run_cons, hnext, hnow]
      exact ih.cons he
    | true =>
      have hfirst : settled [] = false := rfl
      match e, he with
      | .ended .toClient result, _ =>
        have hstep : (Phase.draining exit).step (.ended .toClient result) =
            (.closed, .report .toClient result :: lastActions exit) := rfl
        rw [run_cons, hstep, run_closed, List.append_nil]
        exact .ended hfirst
      | .drainExpired, _ =>
        have hstep : (Phase.draining exit).step .drainExpired =
            (.closed, .giveUp :: lastActions exit) := rfl
        rw [run_cons, hstep, run_closed, List.append_nil]
        exact .expired hfirst

theorem phase_append (early late : List Event) :
    phase (early ++ late) = ((phase early).run late).1 := by
  rw [phase, run_append]
  rfl

theorem actions_append (early late : List Event) :
    actions (early ++ late) = actions early ++ ((phase early).run late).2 := by
  rw [actions, run_append]
  rfl

/-- How a session goes. A relay that has come to its end is not run again, and its result is taken
once. Until the server exits both relays go on as far as they have not ended; the first exit starts
the wait for the rest of the output, if there is something to wait for. Up to the session's end
there is no answer, and then the answer is that exit and the client's stream has been flushed and
closed. -/
structure Supervised (events : List Event) : Prop where
  ended : ∀ d before after, events = before ++ after → isOver d before = true →
    ∃ later, actions events = actions before ++ later ∧ ∀ a ∈ later, run? a ≠ some d
  once : (actions events).Pairwise Stays
  running : Alive events →
    phase events = .running (isOver .toServer events) (isOver .toClient events)
  exited : ∀ before exit after, events = before ++ .exited exit :: after → Alive before →
    ∃ later, actions events = actions before ++ later ∧
      if isOver .toClient before then phase events = .closed ∧ later = lastActions exit
      else Awaited exit after (phase events) later
  unclosed : phase events ≠ .closed →
    (∀ a ∈ actions events, (run? a).isSome = true) ∧
      Session.answerOf (actions events) = .error .unfinished
  closed : phase events = .closed →
    ∃ before exit after done, events = before ++ .exited exit :: after ∧ Alive before ∧
      actions events = done ++ lastActions exit ∧
      Verdict exit (Session.answerOf (actions events)) ∧
      (actions events).flatMap Session.calls = done.flatMap Session.calls ++ [.flush, .shutdown]

theorem answerOf_append {done : List Action} (h : ∀ a ∈ done, ∀ exit, a ≠ .answer exit)
    (later : List Action) : Session.answerOf (done ++ later) = Session.answerOf later := by
  induction done with
  | nil => rfl
  | cons a done ih =>
    obtain ⟨ha, hdone⟩ := List.forall_mem_cons.mp h
    rw [List.cons_append, ← ih hdone]
    cases a with
    | answer exit => exact absurd rfl (ha exit)
    | relay | report | giveUp | flushClient | closeClient => rfl

theorem verdict_lastActions (exit : Exit) :
    Verdict exit (Session.answerOf (lastActions exit)) := by
  cases exit with
  | error cause => exact .unknown
  | ok code =>
    cases code with
    | none => exact .killed
    | some code =>
      change Verdict (.ok (some code)) (.ok (portableCode (some code)))
      by_cases hfits : 0 ≤ code ∧ code ≤ 255
      · obtain ⟨n, rfl⟩ := Int.eq_ofNat_of_zero_le hfits.1
        have hcode : portableCode (some (n : Int)) = n := if_pos hfits
        rw [hcode]
        exact .ended (Int.ofNat_le.mp hfits.2)
      · rw [show portableCode (some code) = 1 from if_neg hfits]
        exact .foreign (by omega)

example : [none, some 0, some 255, some 256, some (-1), some (-1073741819)].map portableCode =
    [0, 0, 255, 1, 1, 1] := by decide

theorem unanswered {done : List Action} (h : ∀ a ∈ done, (run? a).isSome = true) :
    ∀ a ∈ done, ∀ exit, a ≠ .answer exit := by
  rintro a ha exit rfl
  exact nomatch h _ ha

/-- Events without an exit of the server, or with a first one. -/
theorem alive_or_exited (events : List Event) :
    Alive events ∨ ∃ before exit after, events = before ++ .exited exit :: after ∧ Alive before := by
  induction events with
  | nil => exact .inl nofun
  | cons e es ih =>
    by_cases he : ∃ exit, e = .exited exit
    · obtain ⟨exit, rfl⟩ := he
      exact .inr ⟨[], exit, es, rfl, nofun⟩
    · have hcons {front : List Event} (h : Alive front) : Alive (e :: front) := by
        intro exit hm
        rcases List.mem_cons.mp hm with rfl | hfront
        · exact he ⟨exit, rfl⟩
        · exact h exit hfront
      rcases ih with halive | ⟨before, exit, after, rfl, halive⟩
      · exact .inl (hcons halive)
      · exact .inr ⟨e :: before, exit, after, rfl, hcons halive⟩

theorem phase_alive (h : Alive events) :
    phase events = .running (isOver .toServer events) (isOver .toClient events) :=
  run_running h

/-- The server's exit ends a session whose relay to the client has ended, and has another wait for
that relay. -/
theorem run_exited (before : List Event) (exit : Exit) (after : List Event) (h : Alive before) :
    ∃ later, actions (before ++ .exited exit :: after) = actions before ++ later ∧
      if isOver .toClient before then
        phase (before ++ .exited exit :: after) = .closed ∧ later = lastActions exit
      else Awaited exit after (phase (before ++ .exited exit :: after)) later := by
  refine ⟨_, actions_append .., ?_⟩
  rw [phase_append, phase_alive h]
  cases isOver .toClient before with
  | true =>
    have hstep : (Phase.running (isOver .toServer before) true).step (.exited exit) =
        (.closed, lastActions exit) := rfl
    rw [run_cons, hstep, run_closed]
    exact ⟨rfl, List.append_nil _⟩
  | false => exact run_draining exit after

theorem returned_run (events : List Event) : ∀ a ∈ returned events, (run? a).isSome = true := by
  intro a ha
  obtain ⟨e, -, he⟩ := List.mem_filterMap.mp ha
  split at he
  · cases he
    rfl
  · cases he

/-- Once the wait is over, the last actions are done, and nothing is answered before. -/
theorem Awaited.closed {exit : Exit} (h : Awaited exit events .closed acts) :
    ∃ done, acts = done ++ lastActions exit ∧ ∀ a ∈ done, ∀ other, a ≠ .answer other := by
  have hreturned (early : List Event) : ∀ a ∈ returned early, ∀ other, a ≠ .answer other :=
    unanswered (returned_run early)
  cases h with
  | @ended early late result first =>
    refine ⟨returned early ++ [.report .toClient result], by simp, ?_⟩
    exact List.forall_mem_append.mpr ⟨hreturned early, by simp⟩
  | @expired early late first =>
    refine ⟨returned early ++ [.giveUp], by simp, ?_⟩
    exact List.forall_mem_append.mpr ⟨hreturned early, by simp⟩

/-- A session that has ended did its last actions for the first exit, with no answer before them. -/
theorem run_finished {before after : List Event} {exit : Exit} (h : Alive before)
    (hclosed : phase (before ++ .exited exit :: after) = .closed) :
    ∃ done, actions (before ++ .exited exit :: after) = done ++ lastActions exit ∧
      ∀ a ∈ done, ∀ other, a ≠ .answer other := by
  obtain ⟨later, hacts, hlater⟩ := run_exited before exit after h
  have hbefore : ∀ a ∈ actions before, ∀ other, a ≠ .answer other :=
    unanswered (run_unclosed fun hc => nomatch hc.symm.trans (phase_alive h))
  split at hlater
  · exact ⟨_, hlater.2 ▸ hacts, hbefore⟩
  · obtain ⟨done, rfl, hdone⟩ := (hclosed ▸ hlater).closed
    exact ⟨actions before ++ done, by rw [hacts, List.append_assoc],
      List.forall_mem_append.mpr ⟨hbefore, hdone⟩⟩

theorem supervised (events : List Event) : Supervised events where
  ended := by
    rintro d before after rfl hover
    exact ⟨_, actions_append .., (run_unrun after (run_isOver hover)).2⟩
  once := run_once .start events
  running := phase_alive
  exited := by
    rintro before exit after rfl h
    exact run_exited before exit after h
  unclosed h := by
    have hrun : ∀ a ∈ actions events, (run? a).isSome = true := run_unclosed h
    refine ⟨hrun, ?_⟩
    rw [← List.append_nil (actions events), answerOf_append (unanswered hrun)]
    rfl
  closed hclosed := by
    rcases alive_or_exited events with h | ⟨before, exit, after, rfl, h⟩
    · exact nomatch hclosed.symm.trans (phase_alive h)
    · obtain ⟨done, hacts, hanswers⟩ := run_finished h hclosed
      refine ⟨before, exit, after, done, rfl, h, hacts, ?_, ?_⟩
      · rw [hacts, answerOf_append hanswers]
        exact verdict_lastActions exit
      · rw [hacts, List.flatMap_append]
        rfl

-- The server does not read all that it is sent, and leaves something behind that keeps its output
-- open.
example (fault : Fault) (steps : List Step) (stats : Stats) :
    actions [.ended .toServer (.error fault), .exited (.ok (some 7)), .moved .toClient steps,
        .ended .toServer (.ok stats), .drainExpired, .ended .toClient (.ok stats)] =
      [.report .toServer (.error fault), .relay .toClient steps, .giveUp, .flushClient,
        .closeClient, .answer (.ok (some 7))] := rfl

/-- The events among some moments. The rest is what the server complains of. -/
def happened (moments : List Moment) : List Event :=
  moments.filterMap fun
    | .event e => some e
    | .server _ => none

/-- How a launch goes: the host refuses it, a pipe of the new process is missing, or there is a
server. -/
inductive Launched (host : Host) (program : String) (args : List String) :
    Except Fault Spawned → Prop where
  | refused {cause : IoError} (spawn : host.spawn program args = .error cause) :
      Launched host program args (.error (.spawnFailed program cause))
  | noInput {server : Spawned} (spawn : host.spawn program args = .ok server)
      (input : server.hasInput = false) : Launched host program args (.error (.missingPipe "stdin"))
  | noOutput {server : Spawned} (spawn : host.spawn program args = .ok server)
      (input : server.hasInput = true) (output : server.hasOutput = false) :
      Launched host program args (.error (.missingPipe "stdout"))
  | started {server : Spawned} (spawn : host.spawn program args = .ok server)
      (input : server.hasInput = true) (output : server.hasOutput = true) :
      Launched host program args (.ok server)

theorem launched (host : Host) (program : String) (args : List String) :
    Launched host program args (host.launch program args) := by
  unfold Host.launch
  cases hs : host.spawn program args with
  | error cause => exact .refused hs
  | ok server =>
    cases hin : server.hasInput with
    | false => simpa [hin] using Launched.noInput hs hin
    | true =>
      cases hout : server.hasOutput with
      | false => simpa [hin, hout] using Launched.noOutput hs hin hout
      | true => simpa [hin, hout] using Launched.started hs hin hout

/-- What a session does depends on its events alone, and not on what the client's stream answers to
the last calls on it. -/
theorem follow_run (sink : Sink) (p : Phase) (moments : List Moment) :
    (Session.follow sink p moments).1 = (p.run (happened moments)).2 := by
  induction moments generalizing p with
  | nil => rfl
  | cons m moments ih =>
    cases m with
    | server bytes => exact ih p
    | event e => exact congrArg ((p.step e).2 ++ ·) (ih (p.step e).1)

theorem serve_refused {host : Host} {settings : Settings} {fault : Fault}
    (h : host.launch settings.launch.1 settings.launch.2 = .error fault) (source : Source)
    (sink : Sink) :
    let session := host.serve settings source sink
    session.answer = .error (.launch settings.launch.1 fault) ∧ session.client = [] ∧
      ∀ source' sink', host.serve settings source' sink' = session := by
  simp [Host.serve, h]

theorem serve_started {host : Host} {settings : Settings} {server : Spawned}
    (h : host.launch settings.launch.1 settings.launch.2 = .ok server) (source : Source)
    (sink : Sink) :
    let session := host.serve settings source sink
    let events := happened (server.history source sink)
    session.answer = Session.answerOf (actions events) ∧
      session.client = (actions events).flatMap Session.calls := by
  simp only [Host.serve, h, follow_run]
  exact ⟨rfl, rfl⟩

/-- Whatever happens to a session and in whatever order, it goes as a supervised one. On any host,
what it answers and what it calls on the client's stream are told by the events alone. Without a
server there is no session: its client's streams make no difference to anything, and nothing is
called. -/
theorem serve_supervised :
    (∀ events, Supervised events) ∧
    (∀ sink moments, (Session.follow sink .start moments).1 = actions (happened moments)) ∧
    ∀ (host : Host) (settings : Settings) (source : Source) (sink : Sink),
      let program := settings.launch.1
      let session := host.serve settings source sink
      Launched host program settings.launch.2 (host.launch program settings.launch.2) ∧
        match host.launch program settings.launch.2 with
        | .error fault =>
          session.answer = .error (.launch program fault) ∧ session.client = [] ∧
            ∀ source' sink', host.serve settings source' sink' = session
        | .ok server =>
          let events := happened (server.history source sink)
          session.answer = Session.answerOf (actions events) ∧
            session.client = (actions events).flatMap Session.calls := by
  refine ⟨supervised, fun sink => follow_run sink .start, ?_⟩
  intro host settings source sink program session
  refine ⟨launched host program settings.launch.2, ?_⟩
  cases hlaunch : host.launch program settings.launch.2 with
  | error fault => exact serve_refused hlaunch source sink
  | ok server => exact serve_started hlaunch source sink

/-- A host without processes to spare; one that starts a server whose output was not piped; and one
whose server does not take what it is sent, crashes, and leaves its output open. -/
theorem serve_supervised_crash :
    let crash : List Moment :=
      [.event (.ended .toServer (.error (.stream (.system ⟨32⟩)))),
        .event (.exited (.ok (some (-1073741819)))), .event .drainExpired]
    let settings : Settings := ⟨"server", ["--stdio"], none, 0⟩
    let full : Host := ⟨fun _ _ => .error (.system ⟨11⟩)⟩
    let mute : Host := ⟨fun _ _ => .ok ⟨true, false, fun _ _ => crash⟩⟩
    let piped : Host := ⟨fun _ _ => .ok ⟨true, true, fun _ _ => crash⟩⟩
    let serve (host : Host) := host.serve settings (.ofBytes []) .unlimited
    (serve full).answer = .error (.launch "server" (.spawnFailed "server" (.system ⟨11⟩))) ∧
      (serve mute).answer = .error (.launch "server" (.missingPipe "stdout")) ∧
      (serve piped).answer = .ok 1 ∧ (serve piped).client = [.flush, .shutdown] := by
  intro crash settings full mute piped serve
  obtain ⟨-, -, hserve⟩ := serve_supervised
  exact ⟨(hserve full settings _ _).2.1, (hserve mute settings _ _).2.1,
    (hserve piped settings _ _).2⟩

end LspRelay.Proofs.Supervision
