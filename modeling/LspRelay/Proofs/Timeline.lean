import LspRelay.Proofs.Conservation

namespace LspRelay.Proofs.Timeline
open Buffering Streaming Recovery Relaying Conservation

/-- Whether the two streams see a step. A note goes to the log. -/
def seen : Step → Bool
  | .note _ => false
  | _ => true

@[simp] theorem seen_note (record : Log.Record) : seen (.note record) = false := rfl

@[simp] theorem seen_read (count : Nat) : seen (.read count) = true := rfl

@[simp] theorem seen_write (bytes : List UInt8) : seen (.write bytes) = true := rfl

@[simp] theorem seen_flush : seen .flush = true := rfl

@[simp] theorem seen_shutdown : seen .shutdown = true := rfl

/-- The writes for the front of a stream: each body that its frames lead to, and a faulty header
with all that stands behind it. -/
def writes (edit : Edit) (front : List Frame × Leftover) : List Step :=
  (sent edit front.1).map (fun body => .write (Frame.encode body)) ++
    match front.2 with
    | .incomplete _ => []
    | .faulty raw => [.write raw]

def kept : Leftover → List UInt8
  | .incomplete bytes => bytes
  | .faulty _ => []

/-- The last steps, when so much is left over. -/
def lastSteps (rest : List UInt8) : Ending → List Step
  | .endOfFile =>
    .read 0 :: ((if rest = [] then [] else [.write rest]) ++ [.flush, .shutdown])
  | .failed _ => []
  | .silent => []

/-- The steps that the two streams see, told by the octets alone: after each read the writes that it
makes possible and one flush. -/
def timeline (edit : Edit) (held : List UInt8) : List (List UInt8) → Ending → List Step
  | [], ending => lastSteps held ending
  | chunk :: chunks, ending =>
    let front := stream (held ++ chunk)
    .read chunk.length ::
      (writes edit front ++ .flush :: timeline edit (kept front.2) chunks ending)

/-- What a relay does about some reads, and the relay that goes on to the next. -/
def through (r : Relay) : List (List UInt8) → List Step × Relay
  | [] => ([], r)
  | chunk :: chunks =>
    let (next, now) := r.receive chunk
    let (later, last) := through next chunks
    (now ++ later, last)

def Flushed (steps : List Step) : Prop :=
  ∀ bytes after, .write bytes :: after <:+ steps → .flush ∈ after

/-- A relay that starts a read, after the reads so far and what was done about them: it holds
nothing that it could send, nothing written is left unflushed, and all that it has read has been
written, as a frame's bodies or as a fault's octets, but for what it holds. -/
structure Ready (r : Relay) (reads : List (List UInt8)) (done : List Step) : Prop where
  waiting : Frame.decode r.buffer.bytes = .needMore
  flushed : Flushed done
  accounted : ∃ parts : List Part,
    (∀ part ∈ parts, part.Decided ∧ ∀ bytes, part ≠ .remainder bytes) ∧
    parts.flatMap Part.bytes ++ r.buffer.bytes = reads.flatten ∧
    Step.written done = parts.flatMap (Part.output r.edit)

/-- How the steps of a run end and with what outcome. -/
inductive Ended (steps : List Step) : Ending → Outcome → Prop where
  | endOfFile (before : List Step) {stats : Stats} (last : steps = before ++ [.shutdown])
      (once : .shutdown ∉ before) (late : .read 0 ∈ before) :
      Ended steps .endOfFile (.finished stats)
  | failed {cause : IoError} (never : .shutdown ∉ steps) :
      Ended steps (.failed cause) (.failed (.stream cause))
  | silent (never : .shutdown ∉ steps) : Ended steps .silent .waiting

variable {r : Relay} {chunk : List UInt8}

theorem filter_writes (bodies : List (List UInt8)) :
    (bodies.map fun body => Step.write (Frame.encode body)).filter seen =
      bodies.map fun body => .write (Frame.encode body) := by
  rw [List.filter_eq_self]
  intro step hs
  obtain ⟨body, -, rfl⟩ := List.mem_map.mp hs
  rfl

theorem filter_frameSteps (r : Relay) (frames : List Frame) :
    (frames.flatMap r.frameSteps).filter seen =
      (sent r.edit frames).map fun body => .write (Frame.encode body) := by
  induction frames with
  | nil => rfl
  | cons f frames ih =>
    have hf : (r.frameSteps f).filter seen =
        (r.edit f.body).bodies.map fun body => .write (Frame.encode body) := by
      simp [Relay.frameSteps, Relay.note, filter_writes]
    rw [List.flatMap_cons, List.filter_append, hf, ih, ← List.map_append]
    rfl

theorem filter_closeSteps (r : Relay) :
    r.closeSteps.filter seen = lastSteps r.buffer.bytes .endOfFile := by
  by_cases he : r.buffer.bytes = []
  · simp [Relay.closeSteps, Relay.note, lastSteps, List.filter_cons, he]
  · simp [Relay.closeSteps, Relay.note, lastSteps, List.filter_cons, he]

/-- One read: what follows it is what one look at all the octets at hand finds there. -/
theorem filter_receive (h : Idle r.buffer) (chunk : List UInt8) :
    (r.receive chunk).2.filter seen =
      .read chunk.length :: (writes r.edit (stream (r.buffer.bytes ++ chunk)) ++ [.flush]) := by
  have hd : stream (r.buffer.bytes ++ chunk) =
      ((r.buffer.extend chunk).drain.frames, leftover (r.buffer.extend chunk).drain) :=
    (drain_spec (h.resumable.extend chunk)).1
  rw [hd]
  simp only [Relay.receive, writes, leftover]
  cases (r.buffer.extend chunk).drain.fault with
  | none => simp [List.filter_cons, filter_frameSteps]
  | some raw => simp [List.filter_cons, filter_frameSteps, Relay.faultSteps, Relay.note]

/-- What a relay holds after a read is what one look left over. -/
theorem bytes_receive (h : Idle r.buffer) (chunk : List UInt8) :
    (r.receive chunk).1.buffer.bytes = kept (stream (r.buffer.bytes ++ chunk)).2 := by
  have hrest := rest_drain (h.resumable.extend chunk)
  rw [show (r.buffer.extend chunk).bytes = r.buffer.bytes ++ chunk from rfl] at hrest
  cases hl : (stream (r.buffer.bytes ++ chunk)).2 with
  | incomplete rest =>
    rw [hl] at hrest
    exact hrest
  | faulty raw =>
    rw [hl] at hrest
    exact congrArg Buffer.bytes hrest

theorem idle_receive (h : Idle r.buffer) (chunk : List UInt8) :
    Idle (r.receive chunk).1.buffer := idle_drain (h.resumable.extend chunk)

/-- All reads: the steps that the streams see are told by the octets alone. -/
theorem filter_steps (h : Idle r.buffer) (reads : List (List UInt8)) (ending : Ending) :
    (r.steps reads ending).1.filter seen = timeline r.edit r.buffer.bytes reads ending := by
  induction reads generalizing r with
  | nil =>
    cases ending with
    | endOfFile => exact filter_closeSteps r
    | failed cause => rfl
    | silent => rfl
  | cons chunk reads ih =>
    have hedit : (r.receive chunk).1.edit = r.edit := rfl
    rw [Relay.steps, timeline, List.filter_append, filter_receive h, ih (idle_receive h chunk),
      bytes_receive h, hedit, List.cons_append, List.append_assoc]
    rfl

/-- The reads so far decide what was done about them, whatever comes later. -/
theorem steps_append (r : Relay) (early late : List (List UInt8)) (ending : Ending) :
    r.steps (early ++ late) ending =
      ((through r early).1 ++ ((through r early).2.steps late ending).1,
        ((through r early).2.steps late ending).2) := by
  induction early generalizing r with
  | nil => rfl
  | cons chunk early ih =>
    simp only [List.cons_append, Relay.steps, through, ih, List.append_assoc]

/-- The next thing that a relay does is a read, if it does anything more. -/
theorem head_steps (r : Relay) (reads : List (List UInt8)) (ending : Ending) {step : Step}
    (h : step ∈ (r.steps reads ending).1.head?) : ∃ count, step = .read count := by
  cases reads with
  | nil =>
    cases ending with
    | endOfFile => exact ⟨0, (Option.some.inj h).symm⟩
    | failed cause => cases h
    | silent => cases h
  | cons chunk reads => exact ⟨chunk.length, (Option.some.inj h).symm⟩

theorem edit_through (r : Relay) (reads : List (List UInt8)) :
    (through r reads).2.edit = r.edit := by
  induction reads generalizing r with
  | nil => rfl
  | cons chunk reads ih => exact ih (r.receive chunk).1

theorem buffer_through (r : Relay) (reads : List (List UInt8)) :
    (through r reads).2.buffer = (feed r.buffer reads).2 := by
  induction reads generalizing r with
  | nil => rfl
  | cons chunk reads ih => exact ih (r.receive chunk).1

theorem written_through (r : Relay) (reads : List (List UInt8)) :
    Step.written (through r reads).1 =
      (ofAnswers (feed r.buffer reads).1).flatMap (Part.output r.edit) := by
  induction reads generalizing r with
  | nil => rfl
  | cons chunk reads ih =>
    have hnow := (receive_parts r chunk).2
    have hedit : (r.receive chunk).1.edit = r.edit := rfl
    have hbuffer : (r.receive chunk).1.buffer = (r.buffer.extend chunk).drain.rest := rfl
    simp only [through, feed, written_append, hnow, ih, hedit, hbuffer, ofAnswers_append,
      List.flatMap_append]

theorem flushed_concat (steps : List Step) : Flushed (steps ++ [.flush]) := by
  intro bytes after h
  rcases List.suffix_concat_iff.mp h with h | ⟨before, h, -⟩
  · cases h
  · cases before with
    | nil => cases h
    | cons step before =>
      rw [(List.cons.inj h).2]
      exact List.mem_append_right _ List.mem_cons_self

/-- What is done about a read ends with a flush. -/
theorem receive_flush (r : Relay) (chunk : List UInt8) :
    ∃ before, (r.receive chunk).2 = before ++ [.flush] :=
  ⟨.read chunk.length :: _, by rw [Relay.receive, List.cons_append]⟩

theorem through_flush (r : Relay) (reads : List (List UInt8)) :
    (through r reads).1 = [] ∨ ∃ before, (through r reads).1 = before ++ [.flush] := by
  induction reads generalizing r with
  | nil => exact .inl rfl
  | cons chunk reads ih =>
    right
    obtain ⟨now, hnow⟩ := receive_flush r chunk
    simp only [through]
    rcases ih (r.receive chunk).1 with hlater | ⟨later, hlater⟩
    · exact ⟨now, by rw [hlater, List.append_nil, hnow]⟩
    · exact ⟨(r.receive chunk).2 ++ later, by rw [hlater, List.append_assoc]⟩

theorem flushed_through (r : Relay) (reads : List (List UInt8)) : Flushed (through r reads).1 := by
  rcases through_flush r reads with h | ⟨before, h⟩
  · intro bytes after hs
    rw [h] at hs
    exact nomatch List.suffix_nil.mp hs
  · rw [h]
    exact flushed_concat before

theorem ready_through {r : Relay} (h : Idle r.buffer) (hempty : r.buffer.bytes = [])
    (reads : List (List UInt8)) : Ready (through r reads).2 reads (through r reads).1 := by
  obtain ⟨hwhole, hdecided, hidle⟩ := divides_feed h reads
  refine ⟨?_, flushed_through r reads, ofAnswers (feed r.buffer reads).1, ?_, ?_, ?_⟩
  · rw [buffer_through]
    exact hidle.waiting
  · exact fun part hp => ⟨hdecided part hp, not_remainder_of_answers hp⟩
  · rw [buffer_through, hwhole, hempty, List.nil_append]
  · rw [written_through, edit_through]

theorem mem_pieces {chunk piece : List UInt8} (hc : chunk ≠ []) (h : piece ∈ pieces chunk) :
    piece ≠ [] ∧ piece.length ≤ readLimit := by
  induction chunk using pieces.induct with
  | case1 chunk hlong ih =>
    rw [pieces, if_pos hlong] at h
    have hlimit : 0 < readLimit := by decide
    rcases List.mem_cons.mp h with rfl | h
    · have hlen : (chunk.take readLimit).length = readLimit :=
        List.length_take_of_le (Nat.le_of_lt hlong)
      exact ⟨List.ne_nil_of_length_pos (by rw [hlen]; exact hlimit), Nat.le_of_eq hlen⟩
    · refine ih (List.ne_nil_of_length_pos ?_) h
      rw [List.length_drop]
      omega
  | case2 chunk hshort =>
    rw [pieces, if_neg hshort] at h
    rw [List.mem_singleton.mp h]
    exact ⟨hc, Nat.le_of_not_lt hshort⟩

/-- No read is empty, and none takes more than it may. -/
theorem mem_reads {source : Source} {read : List UInt8} (h : read ∈ source.reads.1) :
    read ≠ [] ∧ read.length ≤ readLimit := by
  obtain ⟨chunk, hc, hp⟩ := List.mem_flatMap.mp h
  have hne := List.mem_takeWhile_imp hc
  exact mem_pieces (by simpa using hne) hp

theorem not_mem_writes (edit : Edit) (front : List Frame × Leftover) :
    .shutdown ∉ writes edit front := by
  obtain ⟨frames, rest | raw⟩ := front <;> simp [writes]

theorem Ended.append {before steps : List Step} {ending : Ending} {outcome : Outcome}
    (h : Ended steps ending outcome) (hb : .shutdown ∉ before) :
    Ended (before ++ steps) ending outcome := by
  cases h with
  | endOfFile rest last once late =>
    subst last
    refine .endOfFile (before ++ rest) (List.append_assoc ..).symm ?_ ?_
    · exact fun hs => (List.mem_append.mp hs).elim hb once
    · exact List.mem_append_right _ late
  | failed never => exact .failed fun hs => (List.mem_append.mp hs).elim hb never
  | silent never => exact .silent fun hs => (List.mem_append.mp hs).elim hb never

theorem ended_lastSteps (r : Relay) (held : List UInt8) (ending : Ending) :
    Ended (lastSteps held ending) ending (r.steps [] ending).2 := by
  cases ending with
  | endOfFile =>
    refine .endOfFile (.read 0 :: ((if held = [] then [] else [.write held]) ++ [.flush]))
      (by simp [lastSteps]) ?_ List.mem_cons_self
    split <;> simp
  | failed cause => exact .failed List.not_mem_nil
  | silent => exact .silent List.not_mem_nil

/-- The end of writing is seen once the source has ended, as the last thing, and else never. -/
theorem ended_timeline (r : Relay) (edit : Edit) (held : List UInt8) (reads : List (List UInt8))
    (ending : Ending) :
    Ended (timeline edit held reads ending) ending (r.steps reads ending).2 := by
  induction reads generalizing r held with
  | nil => exact ended_lastSteps r held ending
  | cons chunk reads ih =>
    have hlater := ih (r.receive chunk).1 (kept (stream (held ++ chunk)).2)
    have hb : .shutdown ∉ .read chunk.length ::
        (writes edit (stream (held ++ chunk)) ++ [.flush]) := by
      simp [not_mem_writes]
    simpa [timeline, Relay.steps] using hlater.append hb

/-- However a source gives its octets and ends, a relay makes each read's writes and one flush
before the next read. At the end of the source it writes what it holds, flushes and ends its
writing, once and as the last thing; after a failed read it does nothing more, and fails. Whenever
it starts a read, it holds nothing that it could send, has flushed what it wrote, and has written
all that it read but for what it holds. What it did by then does not depend on the reads that
follow. -/
theorem run_timeline (direction : Direction) (edit : Edit) (source : Source) {sink : Sink}
    (hsink : Unfailing sink) :
    let new := Relay.new direction edit
    let reads := source.reads.1
    let ending := source.reads.2
    let delivery := new.run source sink
    (∀ read ∈ reads, read ≠ [] ∧ read.length ≤ readLimit) ∧
      delivery.steps.filter seen = timeline edit [] reads ending ∧
      Ended (delivery.steps.filter seen) ending delivery.outcome ∧
      ∀ early late, reads = early ++ late →
        let (done, relay) := through new early
        let later := (relay.steps late ending).1
        delivery.steps = done ++ later ∧ (∀ step ∈ later.head?, ∃ count, step = .read count) ∧
          Ready relay early done := by
  intro new reads ending delivery
  have hdelivery : delivery = ⟨(new.steps reads ending).1, (new.steps reads ending).2⟩ :=
    run_of_unfailing new source hsink
  have hseen : delivery.steps.filter seen = timeline edit [] reads ending := by
    rw [hdelivery]
    exact filter_steps idle_empty reads ending
  refine ⟨fun read h => mem_reads h, hseen, ?_, ?_⟩
  · rw [hseen, hdelivery]
    exact ended_timeline new edit [] reads ending
  · intro early late hsplit
    refine ⟨?_, fun step h => head_steps _ late ending h, ready_through idle_empty rfl early⟩
    rw [hdelivery, hsplit, steps_append]

theorem pieces_of_le {chunk : List UInt8} (h : chunk.length ≤ readLimit) :
    pieces chunk = [chunk] := by
  rw [pieces, if_neg (Nat.not_lt_of_le h)]

/-- A frame with the beginning of a faulty header behind it, the end of that header in the next
read, one octet more, and a read that fails. -/
theorem run_timeline_failed :
    let header : List UInt8 :=
      [67, 111, 110, 116, 101, 110, 116, 45, 76, 101, 110, 103, 116, 104, 58, 49]
    let reads : List (List UInt8) :=
      [header ++ [13, 10, 13, 10, 65, 88, 13, 10, 13], [10, 66], [67]]
    let edit : Edit := fun body => ⟨[body, []], []⟩
    let cause : IoError := .named "reset"
    let new := Relay.new .toClient edit
    let delivery := new.run ⟨reads, .failed cause⟩ .unlimited
    delivery.steps.filter seen =
        [.read 25, .write (Frame.encode [65]), .write (Frame.encode []), .flush,
          .read 2, .write [88, 13, 10, 13, 10, 66], .flush, .read 1, .flush] ∧
      Ended (delivery.steps.filter seen) (.failed cause) delivery.outcome ∧
      Ready (through new reads).2 reads (through new reads).1 := by
  intro header reads edit cause new delivery
  have hreads : Source.reads ⟨reads, .failed cause⟩ = (reads, .failed cause) := by
    have hlive : reads.takeWhile (· ≠ []) = reads := by decide
    have hshort : ∀ read ∈ reads, pieces read = [read] := fun read h =>
      pieces_of_le ((by decide : ∀ read ∈ reads, read.length ≤ readLimit) read h)
    simp only [Source.reads, hlive, List.flatMap_def, List.map_congr_left hshort, Nat.lt_irrefl,
      if_false]
    rfl
  have hframe : Frame.decode (header ++ [13, 10, 13, 10, 65, 88, 13, 10, 13]) =
      .frame ⟨header, [65]⟩ 21 := by decide
  have hdrop : (header ++ [13, 10, 13, 10, 65, 88, 13, 10, 13]).drop 21 = [88, 13, 10, 13] := by
    decide
  have hfirst : stream (header ++ [13, 10, 13, 10, 65, 88, 13, 10, 13]) =
      ([⟨header, [65]⟩], .incomplete [88, 13, 10, 13]) := by
    rw [stream_of_frame hframe, hdrop, stream_of_needMore (by decide)]
  have hsecond : stream [88, 13, 10, 13, 10, 66] = ([], .faulty [88, 13, 10, 13, 10, 66]) :=
    stream_of_fault (by decide)
  have hthird : stream [67] = ([], .incomplete [67]) := stream_of_needMore (by decide)
  obtain ⟨-, hseen, hended, hready⟩ :=
    run_timeline .toClient edit ⟨reads, .failed cause⟩ unfailing_unlimited
  simp only [hreads] at hseen hended hready
  refine ⟨hseen.trans ?_, hended, (hready reads [] (List.append_nil _).symm).2.2⟩
  simp only [reads, timeline, List.nil_append, hfirst, kept, List.cons_append, hsecond, hthird]
  rfl

end LspRelay.Proofs.Timeline
