import LspRelay.Proofs.Streaming
import LspRelay.Relay.Sink
import Mathlib.Data.List.TakeWhile

namespace LspRelay.Proofs.Relaying
open FirstFrame Buffering Streaming

/-- The bodies that go out for some frames, in order. -/
def sent (edit : Edit) (frames : List Frame) : List (List UInt8) :=
  frames.flatMap fun f => (edit f.body).bodies

/-- A sink that takes whatever it is given, in pieces of whatever size. -/
structure Unfailing (s : Sink) : Prop where
  limit : s.limit = none
  piece : s.maxWrite ≠ some 0
  flush : s.flushError = none
  shutdown : s.shutdownError = none

theorem unfailing_unlimited : Unfailing .unlimited := ⟨rfl, by decide, rfl, rfl⟩

theorem Unfailing.accept {s : Sink} (h : Unfailing s) (used : Nat) (bytes : List UInt8) :
    s.accept used bytes = (bytes, none) := by
  unfold Sink.accept
  rw [h.limit]
  by_cases hb : bytes = []
  · simp [hb]
  · simp [hb, h.piece]

theorem Unfailing.perform {s : Sink} (h : Unfailing s) (used : Nat) (steps : List Step) :
    s.perform used steps = (steps, none) := by
  induction steps generalizing used with
  | nil => rfl
  | cons step steps ih =>
    cases step with
    | write bytes => simp only [Sink.perform, h.accept, ih, Sink.perform.after]
    | flush => simp only [Sink.perform, h.flush, ih, Sink.perform.after]
    | shutdown => simp only [Sink.perform, h.shutdown, ih, Sink.perform.after]
    | read count => simp only [Sink.perform, ih, Sink.perform.after]
    | note r => simp only [Sink.perform, ih, Sink.perform.after]

/-- Nothing stops a run whose destination never fails. -/
theorem run_of_unfailing (r : Relay) (source : Source) {sink : Sink} (hsink : Unfailing sink) :
    r.run source sink =
      ⟨(r.steps source.reads.1 source.reads.2).1, (r.steps source.reads.1 source.reads.2).2⟩ := by
  simp only [Relay.run, hsink.perform]

theorem flatten_pieces (chunk : List UInt8) : (pieces chunk).flatten = chunk := by
  induction chunk using pieces.induct with
  | case1 chunk h ih =>
    rw [pieces, if_pos h, List.flatten_cons, ih, List.take_append_drop]
  | case2 chunk h =>
    rw [pieces, if_neg h]
    simp

/-- Chunks that are not empty arrive whole, and the end of the stream after them. -/
theorem reads_of_nonempty {chunks : List (List UInt8)} (h : ∀ chunk ∈ chunks, chunk ≠ []) :
    Source.reads ⟨chunks, .endOfFile⟩ = (chunks.flatMap pieces, .endOfFile) := by
  have ht : chunks.takeWhile (· ≠ []) = chunks :=
    List.takeWhile_eq_self_iff.mpr (fun chunk hc => by simpa using h chunk hc)
  simp only [Source.reads, ht, ite_self]

theorem run_of_nonempty (r : Relay) {reads : List (List UInt8)} (hne : ∀ read ∈ reads, read ≠ [])
    {sink : Sink} (hsink : Unfailing sink) :
    r.run ⟨reads, .endOfFile⟩ sink =
      ⟨(r.steps (reads.flatMap pieces) .endOfFile).1,
        (r.steps (reads.flatMap pieces) .endOfFile).2⟩ := by
  rw [run_of_unfailing r _ hsink, reads_of_nonempty hne]

theorem flatten_flatMap_pieces (chunks : List (List UInt8)) :
    (chunks.flatMap pieces).flatten = chunks.flatten := by
  induction chunks with
  | nil => rfl
  | cons chunk chunks ih =>
    rw [List.flatMap_cons, List.flatten_append, flatten_pieces, ih, List.flatten_cons]

theorem written_append (a b : List Step) :
    Step.written (a ++ b) = Step.written a ++ Step.written b := by
  induction a with
  | nil => rfl
  | cons step a ih => cases step <;> simp [Step.written, ih]

theorem written_notes (records : List Log.Record) : Step.written (records.map .note) = [] := by
  induction records with
  | nil => rfl
  | cons r records ih => simpa [Step.written] using ih

theorem written_writes (bodies : List (List UInt8)) :
    Step.written (bodies.map fun body => .write (Frame.encode body)) =
      bodies.flatMap Frame.encode := by
  induction bodies with
  | nil => rfl
  | cons body bodies ih => simp [Step.written, ih]

theorem written_frameSteps (r : Relay) (frames : List Frame) :
    Step.written (frames.flatMap r.frameSteps) = (sent r.edit frames).flatMap Frame.encode := by
  induction frames with
  | nil => rfl
  | cons f frames ih =>
    rw [List.flatMap_cons, written_append, ih]
    simp [Relay.frameSteps, Relay.note, Step.written, written_append, written_notes,
      written_writes, sent]

theorem written_closeSteps (r : Relay) : Step.written r.closeSteps = r.buffer.bytes := by
  by_cases he : r.buffer.bytes = []
  · simp [Relay.closeSteps, Relay.note, Step.written, he]
  · simp [Relay.closeSteps, Relay.note, Step.written, he]

/-- A relay that has sent on all it could: its buffer goes on where it stopped, and holds too little
for a frame. -/
structure Settled (r : Relay) : Prop where
  resumable : Resumable r.buffer
  waiting : Frame.decode r.buffer.bytes = .needMore

theorem settled_new (direction : Direction) (edit : Edit) : Settled (.new direction edit) :=
  ⟨resumable_of_zero [], rfl⟩

/-- The counts after some frames that came in so many octets. -/
def counted (s : Stats) (edit : Edit) (count : Nat) (frames : List Frame) : Stats :=
  ⟨s.bytesIn + count, s.framesIn + frames.length, s.framesOut + (sent edit frames).length,
    s.faults⟩

theorem sent_append (edit : Edit) (a b : List Frame) :
    sent edit (a ++ b) = sent edit a ++ sent edit b := List.flatMap_append

theorem counted_counted (s : Stats) (edit : Edit) (m n : Nat) (a b : List Frame) :
    counted (counted s edit m a) edit n b = counted s edit (m + n) (a ++ b) := by
  simp [counted, sent_append, Nat.add_assoc]

/-- One read, when what is there so far has no fault. -/
theorem receive_of_stream {r : Relay} (hr : Settled r) {chunk rest : List UInt8}
    {frames : List Frame} (hs : stream (r.buffer.bytes ++ chunk) = (frames, .incomplete rest)) :
    Settled (r.receive chunk).1 ∧ (r.receive chunk).1.edit = r.edit ∧
    (r.receive chunk).1.buffer.bytes = rest ∧
    (r.receive chunk).1.stats = counted r.stats r.edit chunk.length frames ∧
    Step.written (r.receive chunk).2 = (sent r.edit frames).flatMap Frame.encode := by
  have hd := drain_spec (hr.resumable.extend chunk)
  rw [show (r.buffer.extend chunk).bytes = r.buffer.bytes ++ chunk from rfl, hs] at hd
  obtain ⟨hd, hrest⟩ := hd
  obtain ⟨hframes, hleft⟩ := Prod.mk.inj hd
  cases hf : (r.buffer.extend chunk).drain.fault with
  | some raw => simp [leftover, hf] at hleft
  | none =>
    simp only [leftover, hf, Leftover.incomplete.injEq] at hleft
    refine ⟨⟨hrest, ?_⟩, rfl, ?_, ?_, ?_⟩
    · simp only [Relay.receive, ← hleft]
      exact decode_of_incomplete hs
    · simp only [Relay.receive, hleft]
    · simp only [Relay.receive, counted, sent, hf, ← hframes, Option.toList_none,
        List.length_nil, Nat.add_zero]
    · simp only [Relay.receive, hf, ← hframes, Option.toList_none, List.flatMap_nil,
        List.append_nil, Step.written, written_append, written_frameSteps]

/-- All reads up to the end of the stream, when the whole stream has no fault. -/
theorem steps_of_stream {r : Relay} (hr : Settled r) (reads : List (List UInt8))
    {frames : List Frame} {rest : List UInt8}
    (hs : stream (r.buffer.bytes ++ reads.flatten) = (frames, .incomplete rest)) :
    (r.steps reads .endOfFile).2 =
        .finished (counted r.stats r.edit reads.flatten.length frames) ∧
      Step.written (r.steps reads .endOfFile).1 =
        (sent r.edit frames).flatMap Frame.encode ++ rest := by
  induction reads generalizing r frames with
  | nil =>
    rw [List.flatten_nil, List.append_nil, stream_of_needMore hr.waiting] at hs
    cases hs
    exact ⟨rfl, written_closeSteps r⟩
  | cons chunk reads ih =>
    rw [List.flatten_cons, ← List.append_assoc, stream_append] at hs
    rcases hc : stream (r.buffer.bytes ++ chunk) with ⟨now, waiting | raw⟩
    · rw [hc] at hs
      obtain ⟨hf, hl⟩ := Prod.mk.inj hs
      obtain ⟨hnext, hedit, hbytes, hstats, hwritten⟩ := receive_of_stream hr hc
      rw [← hbytes] at hf hl
      obtain ⟨hout, hlater⟩ := ih hnext (Prod.ext rfl hl)
      subst hf
      simp only [Relay.steps, written_append, hout, hlater, hwritten, hedit, hstats,
        counted_counted, List.flatten_cons, List.length_append, sent_append,
        List.flatMap_append, List.append_assoc, and_self]
    · rw [hc] at hs
      cases hs

/-- The reads that some bytes come in, none of them empty. -/
structure CutInto (reads : List (List UInt8)) (bytes : List UInt8) : Prop where
  whole : reads.flatten = bytes
  nonempty : ∀ read ∈ reads, read ≠ []

/-- A run of a relay that has sent on all it could, when what is still to come has no fault. -/
theorem run_of_settled {r : Relay} (hr : Settled r) {bytes rest : List UInt8}
    {frames : List Frame} (hs : stream (r.buffer.bytes ++ bytes) = (frames, .incomplete rest))
    {reads : List (List UInt8)} (hcut : CutInto reads bytes) {sink : Sink}
    (hsink : Unfailing sink) :
    (r.run ⟨reads, .endOfFile⟩ sink).outcome =
        .finished (counted r.stats r.edit bytes.length frames) ∧
      Step.written (r.run ⟨reads, .endOfFile⟩ sink).steps =
        (sent r.edit frames).flatMap Frame.encode ++ rest := by
  have hall : (reads.flatMap pieces).flatten = bytes := by
    rw [flatten_flatMap_pieces, hcut.whole]
  rw [← hall] at hs ⊢
  rw [run_of_nonempty r hcut.nonempty hsink]
  exact steps_of_stream hr _ hs

/-- A stream that breaks off without a fault is sent on frame by frame with its end behind, whatever
reads it came in. -/
theorem run_of_stream (direction : Direction) (edit : Edit) {bytes rest : List UInt8}
    {frames : List Frame} (hs : stream bytes = (frames, .incomplete rest))
    {reads : List (List UInt8)} (hcut : reads.flatten = bytes)
    (hne : ∀ read ∈ reads, read ≠ []) {sink : Sink} (hsink : Unfailing sink) :
    let delivery := (Relay.new direction edit).run ⟨reads, .endOfFile⟩ sink
    delivery.outcome = .finished
        ⟨bytes.length, frames.length, (sent edit frames).length, 0⟩ ∧
      Step.written delivery.steps = (sent edit frames).flatMap Frame.encode ++ rest := by
  simpa [counted, Relay.new, Stats.zero] using
    run_of_settled (settled_new direction edit) hs ⟨hcut, hne⟩ hsink

/-- A frame whose delimiter comes in two reads, a body that is sent twice, and one octet more. -/
theorem run_of_parted_delimiter :
    let header : List UInt8 :=
      [67, 111, 110, 116, 101, 110, 116, 45, 76, 101, 110, 103, 116, 104, 58, 32, 50]
    let reads : List (List UInt8) := [header ++ [13], [10, 13], [10, 65, 66, 67]]
    let edit : Edit := fun body => ⟨[body, body.reverse], []⟩
    let sink : Sink := ⟨none, .writeZero, some 1, none, none⟩
    let delivery := (Relay.new .toServer edit).run ⟨reads, .endOfFile⟩ sink
    delivery.outcome = .finished ⟨24, 1, 2, 0⟩ ∧
      Step.written delivery.steps = [[65, 66], [66, 65]].flatMap Frame.encode ++ [67] := by
  intro header reads edit sink delivery
  have hframe : Frame.decode (header ++ [13, 10, 13, 10, 65, 66, 67]) =
      .frame ⟨header, [65, 66]⟩ 23 := by decide
  have hdrop : List.drop 23 (header ++ [13, 10, 13, 10, 65, 66, 67]) = [67] := by decide
  have hs : stream (header ++ [13, 10, 13, 10, 65, 66, 67]) =
      ([⟨header, [65, 66]⟩], .incomplete [67]) := by
    rw [stream_of_frame hframe, hdrop, stream_of_needMore (by decide)]
  have hcut : reads.flatten = header ++ [13, 10, 13, 10, 65, 66, 67] := by decide
  have hsink : Unfailing sink := ⟨rfl, by decide, rfl, rfl⟩
  exact run_of_stream .toServer edit hs hcut (by decide) hsink

end LspRelay.Proofs.Relaying
