import LspRelay.Proofs.Conservation

namespace LspRelay.Proofs.Refusals
open Streaming Relaying Conservation

/-- A sink that takes so many octets in all, in pieces of whatever size, and refuses the next. -/
structure Bounded (s : Sink) (limit : Nat) : Prop where
  limit : s.limit = some limit
  piece : s.maxWrite ≠ some 0
  flush : s.flushError = none
  shutdown : s.shutdownError = none

/-- How many of some octets a single call takes, after so many before them. -/
def call (s : Sink) (used : Nat) (bytes : List UInt8) : Nat :=
  min (min ((s.limit.map (· - used)).getD bytes.length) (s.maxWrite.getD bytes.length)) bytes.length

/-- Octets written whole: call after call, until all are taken or a call takes none. -/
def writeAll (s : Sink) (used : Nat) (bytes : List UInt8) : List UInt8 × Option IoError :=
  if bytes = [] then ([], none)
  else if call s used bytes = 0 then ([], some s.refusal)
  else
    let count := call s used bytes
    let later := writeAll s (used + count) (bytes.drop count)
    (bytes.take count ++ later.1, later.2)
termination_by bytes.length
decreasing_by
  simp only [List.length_drop]
  have : bytes.length ≠ 0 := by simpa using ‹bytes ≠ []›
  omega

/-- Some events broken off before the octet that is written after so many: the write of that octet
keeps what came before it, if anything did, and nothing follows. -/
def BrokenOff (count : Nat) (whole broken : List Step) : Prop :=
  ∃ before taken next left after, whole = before ++ .write (taken ++ next :: left) :: after ∧
    (Step.written before ++ taken).length = count ∧
    broken = before ++ if taken = [] then [] else [.write taken]

/-- Some steps, stopped where there is room for no more. -/
structure Stopped (room : Nat) (steps performed : List Step) : Prop where
  written : Step.written performed = (Step.written steps).take room
  broken : BrokenOff room (Step.events steps) (Step.events performed)

/-- A write in front of some events goes into the one that they begin with. -/
def joined (bytes : List UInt8) : List Step → List Step
  | .write more :: rest => .write (bytes ++ more) :: rest
  | rest => if bytes = [] then rest else .write bytes :: rest

variable {s : Sink} {limit : Nat} {bytes : List UInt8} {steps : List Step}

theorem Bounded.accept (h : Bounded s limit) (used : Nat) (bytes : List UInt8) :
    s.accept used bytes =
      if bytes.length ≤ limit - used then (bytes, none)
      else (bytes.take (limit - used), some s.refusal) := by
  simp only [Sink.accept, h.limit, h.piece, or_false]
  by_cases hb : bytes = []
  · simp [hb]
  · have hlen : 0 < bytes.length := List.length_pos_iff.mpr hb
    by_cases hroom : limit - used = 0
    · simp [hb, hroom]
    · by_cases hfit : bytes.length ≤ limit - used
      · simp [hb, hroom, hfit, Nat.not_lt.mpr hfit]
      · simp [hb, hroom, hfit, Nat.lt_of_not_le hfit]

theorem Bounded.call_le (h : Bounded s limit) (used : Nat) (bytes : List UInt8) :
    call s used bytes ≤ limit - used ∧ call s used bytes ≤ bytes.length := by
  simp only [call, h.limit, Option.map_some, Option.getD_some]
  omega

/-- A call takes nothing only where there is no room. -/
theorem Bounded.call_eq_zero (h : Bounded s limit) (hb : bytes ≠ [])
    (hc : call s used bytes = 0) : limit - used = 0 := by
  have hlen : 0 < bytes.length := List.length_pos_iff.mpr hb
  have hpiece : 0 < s.maxWrite.getD bytes.length := by
    have hne := h.piece
    cases hm : s.maxWrite with
    | none => exact hlen
    | some most =>
      rw [hm] at hne
      exact Nat.pos_of_ne_zero fun hz => hne (congrArg some hz)
  simp only [call, h.limit, Option.map_some, Option.getD_some] at hc
  omega

/-- However few octets a call takes, all calls together take what there is room for. -/
theorem Bounded.writeAll_eq (h : Bounded s limit) (used : Nat) (bytes : List UInt8) :
    writeAll s used bytes =
      if bytes.length ≤ limit - used then (bytes, none)
      else (bytes.take (limit - used), some s.refusal) := by
  induction used, bytes using writeAll.induct s with
  | case1 used => simp [writeAll]
  | case2 used bytes hb hc =>
    have hroom := h.call_eq_zero hb hc
    rw [writeAll, if_neg hb, if_pos hc, hroom, if_neg (by simpa using hb), List.take_zero]
  | case3 used bytes hb hc count ih =>
    obtain ⟨hroom, hlen⟩ := h.call_le used bytes
    have hleft : count + (limit - (used + count)) = limit - used := by omega
    rw [List.length_drop] at ih
    rw [writeAll, if_neg hb, if_neg hc]
    change (bytes.take count ++ (writeAll s (used + count) (bytes.drop count)).1,
      (writeAll s (used + count) (bytes.drop count)).2) = _
    rw [ih]
    by_cases hfit : bytes.length ≤ limit - used
    · rw [if_pos hfit, if_pos (by omega), List.take_append_drop]
    · rw [if_neg hfit, if_neg (by omega), ← List.take_add, hleft]

theorem Bounded.accept_eq_writeAll (h : Bounded s limit) (used : Nat) (bytes : List UInt8) :
    s.accept used bytes = writeAll s used bytes := by rw [h.accept, h.writeAll_eq]

theorem Bounded.perform_of_fits (h : Bounded s limit) (used : Nat)
    (hfit : (Step.written steps).length ≤ limit - used) : s.perform used steps = (steps, none) := by
  induction steps generalizing used with
  | nil => rfl
  | cons step steps ih =>
    cases step with
    | write bytes =>
      rw [Step.written, List.length_append] at hfit
      have hnow : s.accept used bytes = (bytes, none) := by
        rw [h.accept, if_pos (by omega)]
      have hlater := ih (used + bytes.length) (by omega)
      simp only [Sink.perform, hnow, hlater, Sink.perform.after]
    | flush => simp only [Sink.perform, h.flush, ih used hfit, Sink.perform.after]
    | shutdown => simp only [Sink.perform, h.shutdown, ih used hfit, Sink.perform.after]
    | read count => simp only [Sink.perform, ih used hfit, Sink.perform.after]
    | note r => simp only [Sink.perform, ih used hfit, Sink.perform.after]

theorem joined_of_ne_nil (hb : bytes ≠ []) (events : List Step) :
    ∃ more rest, joined bytes events = .write (bytes ++ more) :: rest := by
  unfold joined
  split
  · exact ⟨_, _, rfl⟩
  · exact ⟨[], events, by rw [if_neg hb, List.append_nil]⟩

/-- A write that is begun breaks the events off within itself. -/
theorem brokenOff_write {count : Nat} (hc : count < bytes.length) (events : List Step) :
    BrokenOff count (joined bytes events) (joined (bytes.take count) []) := by
  have hb : bytes ≠ [] := List.ne_nil_of_length_pos (Nat.zero_lt_of_lt hc)
  obtain ⟨more, rest, hj⟩ := joined_of_ne_nil hb events
  obtain ⟨next, left, hd⟩ : ∃ next left, bytes.drop count = next :: left :=
    List.exists_cons_of_length_pos (by rw [List.length_drop]; exact Nat.sub_pos_of_lt hc)
  refine ⟨[], bytes.take count, next, left ++ more, rest, ?_, ?_, rfl⟩
  · rw [hj, ← List.cons_append, ← hd, ← List.append_assoc, List.take_append_drop]
    rfl
  · simp [Step.written, Nat.min_eq_left (Nat.le_of_lt hc)]

theorem joined_append {before : List Step} (hb : before ≠ []) (bytes : List UInt8)
    (rest : List Step) : joined bytes (before ++ rest) = joined bytes before ++ rest := by
  cases before with
  | nil => exact absurd rfl hb
  | cons step before => cases step <;> simp only [joined, List.cons_append] <;> split <;> rfl

theorem written_joined (bytes : List UInt8) (events : List Step) :
    Step.written (joined bytes events) = bytes ++ Step.written events := by
  unfold joined
  split
  · simp only [Step.written, List.append_assoc]
  · split
    · simp [*]
    · rfl

theorem BrokenOff.joined {count : Nat} {whole broken : List Step} (h : BrokenOff count whole broken)
    (bytes : List UInt8) :
    BrokenOff (bytes.length + count) (joined bytes whole) (joined bytes broken) := by
  obtain ⟨before, taken, next, left, after, rfl, hcount, rfl⟩ := h
  by_cases hb : before = []
  · -- The write that breaks off is the first event, and so the one that is written in front of.
    subst hb
    refine ⟨[], bytes ++ taken, next, left, after, ?_, ?_, ?_⟩
    · simp [Refusals.joined]
    · rw [← hcount]
      simp [Step.written]
    · by_cases ht : taken = []
      · simp [Refusals.joined, ht]
      · simp [Refusals.joined, ht]
  · refine ⟨Refusals.joined bytes before, taken, next, left, after, joined_append hb .., ?_,
      joined_append hb ..⟩
    rw [written_joined, List.append_assoc, List.length_append, hcount]

theorem BrokenOff.cons {count : Nat} {whole broken : List Step} (h : BrokenOff count whole broken)
    {step : Step} (hs : Step.written [step] = []) :
    BrokenOff count (step :: whole) (step :: broken) := by
  obtain ⟨before, taken, next, left, after, rfl, hcount, rfl⟩ := h
  refine ⟨step :: before, taken, next, left, after, rfl, ?_, rfl⟩
  rw [← List.singleton_append, written_append, hs, List.nil_append]
  exact hcount

theorem stopped_write {room : Nat} (hr : room < bytes.length) (steps : List Step) :
    Stopped room (.write bytes :: steps) [.write (bytes.take room)] := by
  refine ⟨?_, brokenOff_write hr _⟩
  simp only [Step.written, List.append_nil]
  rw [List.take_append_of_le_length (Nat.le_of_lt hr)]

theorem Stopped.write {room : Nat} {performed : List Step} (h : Stopped room steps performed)
    (bytes : List UInt8) :
    Stopped (bytes.length + room) (.write bytes :: steps) (.write bytes :: performed) := by
  refine ⟨?_, h.broken.joined bytes⟩
  rw [Step.written, Step.written, h.written, List.take_length_add_append]

theorem Stopped.cons {room : Nat} {performed : List Step} (h : Stopped room steps performed)
    {step : Step} (hs : Step.written [step] = []) :
    Stopped room (step :: steps) (step :: performed) := by
  cases step with
  | write bytes =>
    obtain rfl : bytes = [] := by simpa [Step.written] using hs
    simpa using h.write []
  | note record => exact ⟨h.written, h.broken⟩
  | read count => exact ⟨h.written, h.broken.cons rfl⟩
  | flush => exact ⟨h.written, h.broken.cons rfl⟩
  | shutdown => exact ⟨h.written, h.broken.cons rfl⟩

/-- Steps that write more than there is room for stop at the first octet that is refused. -/
theorem Bounded.perform_of_short (h : Bounded s limit) (used : Nat)
    (hshort : limit - used < (Step.written steps).length) :
    ∃ performed, s.perform used steps = (performed, some s.refusal) ∧
      Stopped (limit - used) steps performed := by
  induction steps generalizing used with
  | nil => exact absurd hshort (Nat.not_lt_zero _)
  | cons step steps ih =>
    cases step with
    | write bytes =>
      -- A write that fits leaves so much less room for the others; one that does not is the last.
      by_cases hfit : bytes.length ≤ limit - used
      · have hroom : limit - used = bytes.length + (limit - (used + bytes.length)) := by omega
        rw [Step.written, List.length_append] at hshort
        obtain ⟨performed, hp, hstop⟩ := ih (used + bytes.length) (by omega)
        refine ⟨.write bytes :: performed, ?_, hroom ▸ hstop.write bytes⟩
        simp only [Sink.perform, h.accept, if_pos hfit, hp, Sink.perform.after]
      · have hroom := Nat.lt_of_not_le hfit
        refine ⟨[.write (bytes.take (limit - used))], ?_, stopped_write hroom steps⟩
        simp only [Sink.perform, h.accept, if_neg hfit]
    | flush =>
      obtain ⟨performed, hp, hstop⟩ := ih used hshort
      exact ⟨_, by simp only [Sink.perform, h.flush, hp, Sink.perform.after], hstop.cons rfl⟩
    | shutdown =>
      obtain ⟨performed, hp, hstop⟩ := ih used hshort
      exact ⟨_, by simp only [Sink.perform, h.shutdown, hp, Sink.perform.after], hstop.cons rfl⟩
    | read count =>
      obtain ⟨performed, hp, hstop⟩ := ih used hshort
      exact ⟨_, by simp only [Sink.perform, hp, Sink.perform.after], hstop.cons rfl⟩
    | note record =>
      obtain ⟨performed, hp, hstop⟩ := ih used hshort
      exact ⟨_, by simp only [Sink.perform, hp, Sink.perform.after], hstop.cons rfl⟩

variable {free : Sink}

/-- A source whose end comes is read to it, and then the run is over. -/
theorem finished_of_unfailing (r : Relay) (chunks : List (List UInt8)) (hfree : Unfailing free) :
    ∃ stats, (r.run ⟨chunks, .endOfFile⟩ free).outcome = .finished stats := by
  have hend : (Source.reads ⟨chunks, .endOfFile⟩).2 = .endOfFile := ite_self _
  rw [run_of_unfailing r _ hfree, hend]
  exact ⟨_, (steps_parts r _).1⟩

theorem Bounded.run_of_fits (h : Bounded s limit) (r : Relay) (source : Source)
    (hfree : Unfailing free)
    (hfit : (Step.written (r.run source free).steps).length ≤ limit) :
    r.run source s = r.run source free := by
  rw [run_of_unfailing r source hfree] at hfit ⊢
  have hp := h.perform_of_fits 0 hfit
  simp only [Relay.run, hp]

theorem Bounded.run_of_short (h : Bounded s limit) (r : Relay) (source : Source)
    (hfree : Unfailing free)
    (hshort : limit < (Step.written (r.run source free).steps).length) :
    (r.run source s).outcome = .failed (.stream s.refusal) ∧
      Stopped limit (r.run source free).steps (r.run source s).steps := by
  rw [run_of_unfailing r source hfree] at hshort ⊢
  obtain ⟨performed, hp, hstop⟩ := h.perform_of_short 0 hshort
  have hrun : r.run source s = ⟨performed, .failed (.stream s.refusal)⟩ := by
    simp only [Relay.run, hp]
  rw [hrun]
  exact ⟨rfl, hstop⟩

/-- However much a destination takes, in all and at a time, it takes the front of what one without
a limit would take. Only where that is not all of it does the run fail, and then it ends in the
middle of the write that is refused. -/
theorem run_of_bounded (direction : Direction) (edit : Edit) (chunks : List (List UInt8))
    {sink free : Sink} {limit : Nat} (hsink : Bounded sink limit) (hfree : Unfailing free) :
    let source : Source := ⟨chunks, .endOfFile⟩
    let whole := (Relay.new direction edit).run source free
    let delivery := (Relay.new direction edit).run source sink
    let output := Step.written whole.steps
    (∀ used bytes, sink.accept used bytes = writeAll sink used bytes) ∧
      Step.written delivery.steps = output.take limit ∧
      ((∃ fault, delivery.outcome = .failed fault) ↔ limit < output.length) ∧
      (limit < output.length → delivery.outcome = .failed (.stream sink.refusal) ∧
        BrokenOff limit (Step.events whole.steps) (Step.events delivery.steps)) ∧
      (output.length ≤ limit → delivery = whole) := by
  intro source whole delivery output
  obtain ⟨stats, hfinished⟩ := finished_of_unfailing (Relay.new direction edit) chunks hfree
  have hfits : output.length ≤ limit → delivery = whole := hsink.run_of_fits _ source hfree
  have hshort := hsink.run_of_short (Relay.new direction edit) source hfree
  refine ⟨hsink.accept_eq_writeAll, ?_, ⟨?_, ?_⟩, fun hl => ?_, hfits⟩
  · rcases Nat.lt_or_ge limit output.length with hl | hl
    · exact (hshort hl).2.written
    · rw [hfits hl, List.take_of_length_le hl]
  · rintro ⟨fault, hfailed⟩
    by_contra hl
    rw [hfits (Nat.le_of_not_lt hl), hfinished] at hfailed
    cases hfailed
  · exact fun hl => ⟨_, (hshort hl).1⟩
  · exact ⟨(hshort hl).1, (hshort hl).2.broken⟩

/-- A body that is sent twice, to a destination that takes thirty octets, three at a time: the copy
breaks off inside its header. -/
theorem run_of_bounded_copy :
    let header : List UInt8 :=
      [67, 111, 110, 116, 101, 110, 116, 45, 76, 101, 110, 103, 116, 104, 58, 49]
    let reads : List (List UInt8) := [header ++ [13, 10, 13, 10, 65], [88]]
    let edit : Edit := fun body => ⟨[body, body], []⟩
    let source : Source := ⟨reads, .endOfFile⟩
    let sink : Sink := ⟨some 30, .writeZero, some 3, none, none⟩
    let whole := (Relay.new .toServer edit).run source .unlimited
    let delivery := (Relay.new .toServer edit).run source sink
    Step.written delivery.steps = (Frame.encode [65] ++ Frame.encode [65] ++ [88]).take 30 ∧
      delivery.outcome = .failed (.stream .writeZero) ∧
      BrokenOff 30 (Step.events whole.steps) (Step.events delivery.steps) := by
  intro header reads edit source sink whole delivery
  have hframe : Frame.decode (header ++ [13, 10, 13, 10, 65, 88]) = .frame ⟨header, [65]⟩ 21 := by
    decide
  have hdrop : List.drop 21 (header ++ [13, 10, 13, 10, 65, 88]) = [88] := by decide
  have hs : stream ([] ++ (header ++ [13, 10, 13, 10, 65, 88])) =
      ([⟨header, [65]⟩], .incomplete [88]) := by
    rw [List.nil_append, stream_of_frame hframe, hdrop, stream_of_needMore (by decide)]
  have hcut : CutInto reads (header ++ [13, 10, 13, 10, 65, 88]) := ⟨by decide, by decide⟩
  obtain ⟨-, hwhole⟩ := run_of_settled (settled_new .toServer edit) hs hcut unfailing_unlimited
  have hoctets : Step.written whole.steps = Frame.encode [65] ++ Frame.encode [65] ++ [88] :=
    hwhole.trans (by decide +kernel)
  have hsink : Bounded sink 30 := ⟨rfl, by decide, rfl, rfl⟩
  have hrun := run_of_bounded .toServer edit reads hsink unfailing_unlimited
  obtain ⟨-, hwritten, -, hbroken, -⟩ := hrun
  have hshort : 30 < (Step.written whole.steps).length := by
    rw [hoctets]
    decide +kernel
  exact ⟨hwritten.trans (congrArg (List.take 30) hoctets), hbroken hshort⟩

end LspRelay.Proofs.Refusals
