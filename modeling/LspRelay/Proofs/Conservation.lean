import LspRelay.Proofs.CanonicalFrames
import LspRelay.Proofs.Recovery
import LspRelay.Proofs.Relaying

namespace LspRelay.Proofs.Conservation
open FirstFrame Buffering Streaming Recovery CanonicalFrames Relaying

/-- A stretch of a stream that is sent on as one: a frame, what a fault flushed, or what the end of
the stream cut short. -/
inductive Part where
  | frame (f : Frame)
  | flushed (raw : List UInt8)
  | remainder (bytes : List UInt8)
  deriving Repr, DecidableEq

namespace Part

def bytes : Part → List UInt8
  | frame f => f.bytes
  | flushed raw => raw
  | remainder bytes => bytes

def frame? : Part → Option Frame
  | frame f => some f
  | _ => none

def isFlushed : Part → Bool
  | flushed _ => true
  | _ => false

/-- What one look at a part alone decides. -/
def Decided : Part → Prop
  | frame f =>
    Frame.decode f.bytes = .frame f f.size ∧ contentLength? f.header = some f.body.length
  | flushed raw => Frame.decode raw = .fault
  | remainder bytes => bytes ≠ [] ∧ Frame.decode bytes = .needMore

def output (edit : Edit) : Part → List UInt8
  | frame f => (edit f.body).bodies.flatMap Frame.encode
  | part => part.bytes

def reframed : Part → Part
  | frame f => .frame (Frame.ofBody f.body)
  | part => part

def ofAnswer? : Pulled → Option Part
  | .frame f => some (.frame f)
  | .needMore => none
  | .fault raw => some (.flushed raw)

end Part

def ofAnswers (answers : List Pulled) : List Part := answers.filterMap Part.ofAnswer?

def cutShort (bytes : List UInt8) : List Part :=
  if bytes = [] then [] else [.remainder bytes]

/-- The parts of a stream that ends after some reads: what a buffer answers that is drained after
each of them, and what it still holds at the end. -/
def parts (b : Buffer) (reads : List (List UInt8)) : List Part :=
  ofAnswers (feed b reads).1 ++ cutShort (feed b reads).2.bytes

/-- Some bytes divided into parts, of which only the last can be one that was cut short. -/
structure Divides (parts : List Part) (bytes : List UInt8) : Prop where
  whole : parts.flatMap Part.bytes = bytes
  decided : ∀ part ∈ parts, part.Decided
  last : ∀ part ∈ parts.dropLast, ∀ bytes, part ≠ .remainder bytes

/-- The counts after so many octets more, of which some parts were made. -/
def tallied (s : Stats) (edit : Edit) (count : Nat) (parts : List Part) : Stats :=
  ⟨s.bytesIn + count, s.framesIn + (parts.filterMap Part.frame?).length,
    s.framesOut + (sent edit (parts.filterMap Part.frame?)).length,
    s.faults + parts.countP Part.isFlushed⟩

variable {b : Buffer} {edit : Edit}

theorem tallied_tallied (s : Stats) (edit : Edit) (m n : Nat) (early late : List Part) :
    tallied (tallied s edit m early) edit n late = tallied s edit (m + n) (early ++ late) := by
  simp [tallied, sent_append, Nat.add_assoc]

theorem ofAnswers_append (early late : List Pulled) :
    ofAnswers (early ++ late) = ofAnswers early ++ ofAnswers late := List.filterMap_append

theorem ofAnswers_frames (frames : List Frame) :
    ofAnswers (frames.map .frame) = frames.map .frame := by
  simp [ofAnswers, List.filterMap_map, Function.comp_def, Part.ofAnswer?]

theorem ofAnswers_answers (d : Buffer.Drained) :
    ofAnswers (answers d) = d.frames.map .frame ++ d.fault.toList.map .flushed := by
  rw [answers, ofAnswers_append, ofAnswers_frames]
  cases d.fault <;> rfl

theorem parts_cons (b : Buffer) (chunk : List UInt8) (reads : List (List UInt8)) :
    parts b (chunk :: reads) =
      ofAnswers (answers (b.extend chunk).drain) ++ parts (b.extend chunk).drain.rest reads := by
  simp only [parts, feed, ofAnswers_append, List.append_assoc]

theorem bytes_frames (frames : List Frame) :
    (frames.map Part.frame).flatMap Part.bytes = frames.flatMap Frame.bytes := by
  rw [List.flatMap_map]
  rfl

theorem frames_decided {bs : List UInt8} {part : Part}
    (h : part ∈ (stream bs).1.map Part.frame) : part.Decided := by
  obtain ⟨f, hf, rfl⟩ := List.mem_map.mp h
  have hd := decode_of_mem_stream hf
  exact ⟨hd, (front_of_decode hd).2.1⟩

/-- Draining a buffer divides its bytes, up to those that it holds back. -/
theorem divides_drain (h : Resumable b) :
    (ofAnswers (answers b.drain)).flatMap Part.bytes ++ b.drain.rest.bytes = b.bytes ∧
      ∀ part ∈ ofAnswers (answers b.drain), part.Decided := by
  have hbytes := bytes_of_stream b.bytes
  have hleft := decode_leftover b.bytes
  have hrest := rest_drain h
  rw [answers_drain h, ofAnswers_append, ofAnswers_frames, List.flatMap_append, bytes_frames]
  cases hl : (stream b.bytes).2 with
  | incomplete rest =>
    have hnone : ofAnswers [lastAnswer (.incomplete rest)] = [] := rfl
    rw [hl] at hbytes hrest
    rw [hnone, List.flatMap_nil, List.append_nil, List.append_nil, hrest]
    exact ⟨hbytes, fun part hp => frames_decided hp⟩
  | faulty raw =>
    have hone : ofAnswers [lastAnswer (.faulty raw)] = [.flushed raw] := rfl
    rw [hl] at hbytes hleft hrest
    rw [hone, List.flatMap_singleton, hrest]
    refine ⟨(List.append_nil _).trans hbytes, ?_⟩
    intro part hp
    rcases List.mem_append.mp hp with hp | hp
    · exact frames_decided hp
    · rw [List.mem_singleton.mp hp]
      exact hleft

/-- Nothing is lost between the reads: what a buffer has answered and what it holds is what came. -/
theorem divides_feed (h : Idle b) (reads : List (List UInt8)) :
    (ofAnswers (feed b reads).1).flatMap Part.bytes ++ (feed b reads).2.bytes =
        b.bytes ++ reads.flatten ∧
      (∀ part ∈ ofAnswers (feed b reads).1, part.Decided) ∧ Idle (feed b reads).2 := by
  induction reads generalizing b with
  | nil => exact ⟨by simp [feed, ofAnswers], by simp [feed, ofAnswers], h⟩
  | cons chunk reads ih =>
    have hr := h.resumable.extend chunk
    obtain ⟨hnow, hdecided⟩ := divides_drain hr
    obtain ⟨hlater, hdecided', hidle⟩ := ih (idle_drain hr)
    refine ⟨?_, ?_, hidle⟩
    · rw [feed, ofAnswers_append, List.flatMap_append, List.append_assoc, hlater,
        ← List.append_assoc, hnow, List.flatten_cons, ← List.append_assoc]
      rfl
    · intro part hp
      rw [feed, ofAnswers_append] at hp
      rcases List.mem_append.mp hp with hp | hp
      · exact hdecided part hp
      · exact hdecided' part hp

theorem not_remainder_of_answers {ps : List Pulled} {part : Part} (h : part ∈ ofAnswers ps)
    (bytes : List UInt8) : part ≠ .remainder bytes := by
  rintro rfl
  obtain ⟨p, -, hp⟩ := List.mem_filterMap.mp h
  cases p <;> simp [Part.ofAnswer?] at hp

theorem divides_parts (h : Idle b) (reads : List (List UInt8)) :
    Divides (parts b reads) (b.bytes ++ reads.flatten) := by
  obtain ⟨hwhole, hdecided, hidle⟩ := divides_feed h reads
  by_cases he : (feed b reads).2.bytes = []
  · have hp : parts b reads = ofAnswers (feed b reads).1 := by simp [parts, cutShort, he]
    rw [hp]
    refine ⟨by simpa [he] using hwhole, hdecided, ?_⟩
    intro part hpart
    exact not_remainder_of_answers ((List.dropLast_sublist _).subset hpart)
  · have hp : parts b reads =
        ofAnswers (feed b reads).1 ++ [.remainder (feed b reads).2.bytes] := by
      simp [parts, cutShort, he]
    rw [hp]
    refine ⟨by simpa [Part.bytes] using hwhole, ?_, ?_⟩
    · intro part hpart
      rcases List.mem_append.mp hpart with hpart | hpart
      · exact hdecided part hpart
      · rw [List.mem_singleton.mp hpart]
        exact ⟨he, hidle.waiting⟩
    · intro part hpart
      rw [List.dropLast_concat] at hpart
      exact not_remainder_of_answers hpart

theorem frame?_frames (frames : List Frame) :
    (frames.map Part.frame).filterMap Part.frame? = frames := by
  simp [List.filterMap_map, Function.comp_def, Part.frame?]

theorem isFlushed_frames (frames : List Frame) :
    (frames.map Part.frame).countP Part.isFlushed = 0 := by
  simp [List.countP_map, Function.comp_def, Part.isFlushed]

theorem written_frames (r : Relay) (frames : List Frame) :
    Step.written (frames.flatMap r.frameSteps) =
      (frames.map Part.frame).flatMap (Part.output r.edit) := by
  rw [written_frameSteps, sent, List.flatMap_assoc, List.flatMap_map]
  rfl

/-- One read: the parts that it completes are counted and written. -/
theorem receive_parts (r : Relay) (chunk : List UInt8) :
    let now := ofAnswers (answers (r.buffer.extend chunk).drain)
    (r.receive chunk).1.stats = tallied r.stats r.edit chunk.length now ∧
      Step.written (r.receive chunk).2 = now.flatMap (Part.output r.edit) := by
  simp only [ofAnswers_answers, Relay.receive, tallied, Step.written, written_append,
    written_frames, List.filterMap_append, frame?_frames, List.countP_append, isFlushed_frames,
    List.flatMap_append]
  cases (r.buffer.extend chunk).drain.fault with
  | none => simp [sent, Step.written]
  | some raw =>
    simp [sent, List.filterMap_cons, Part.frame?, Part.isFlushed, Part.output, Part.bytes,
      Relay.faultSteps, Relay.note, Step.written]

theorem output_cutShort (edit : Edit) (bytes : List UInt8) :
    (cutShort bytes).flatMap (Part.output edit) = bytes := by
  unfold cutShort
  split
  · rename_i he
    rw [he]
    rfl
  · exact List.flatMap_singleton ..

theorem tallied_cutShort (s : Stats) (edit : Edit) (bytes : List UInt8) :
    tallied s edit 0 (cutShort bytes) = s := by
  unfold cutShort
  split <;> simp [tallied, sent, List.filterMap_cons, Part.frame?, Part.isFlushed]

/-- All reads up to the end of the stream: its parts are counted and written. -/
theorem steps_parts (r : Relay) (reads : List (List UInt8)) :
    (r.steps reads .endOfFile).2 =
        .finished (tallied r.stats r.edit reads.flatten.length (parts r.buffer reads)) ∧
      Step.written (r.steps reads .endOfFile).1 =
        (parts r.buffer reads).flatMap (Part.output r.edit) := by
  induction reads generalizing r with
  | nil =>
    refine ⟨?_, ?_⟩
    · exact congrArg Outcome.finished (tallied_cutShort ..).symm
    · exact (written_closeSteps r).trans (output_cutShort ..).symm
  | cons chunk reads ih =>
    obtain ⟨hstats, hwritten⟩ := receive_parts r chunk
    obtain ⟨hout, hlater⟩ := ih (r.receive chunk).1
    have hbuffer : (r.receive chunk).1.buffer = (r.buffer.extend chunk).drain.rest := rfl
    have hedit : (r.receive chunk).1.edit = r.edit := rfl
    simp only [Relay.steps, hout, hstats, hbuffer, hedit, tallied_tallied, parts_cons,
      written_append, hwritten, hlater, List.flatten_cons, List.length_append,
      List.flatMap_append, and_self]

/-- A stream of parts is the same with all bodies framed anew only if each part is. -/
theorem reframed_of_bytes_eq {ps : List Part} (h : ∀ part ∈ ps, part.Decided)
    (he : (ps.map Part.reframed).flatMap Part.bytes = ps.flatMap Part.bytes) :
    ∀ part ∈ ps, part.reframed = part := by
  induction ps with
  | nil => simp
  | cons part ps ih =>
    have hlater := fun p hp => h p (List.mem_cons_of_mem _ hp)
    simp only [List.map_cons, List.flatMap_cons] at he
    refine List.forall_mem_cons.mpr ?_
    cases part with
    | frame f =>
      -- Both streams begin with a header that their first delimiter ends, and so with the same one.
      have hfirst := (front_of_decode (h _ List.mem_cons_self).1).1
      have hheader : Frame.canonicalHeader f.body = f.header :=
        header_unique he (firstDelimiter_encode f.body _) hfirst.append
      have hsame : Frame.ofBody f.body = f := by rw [Frame.ofBody, hheader]
      have hpart : (Part.frame f).reframed = .frame f := congrArg Part.frame hsame
      rw [hpart] at he
      exact ⟨hpart, ih hlater (List.append_cancel_left he)⟩
    | flushed raw => exact ⟨rfl, ih hlater (List.append_cancel_left he)⟩
    | remainder bytes => exact ⟨rfl, ih hlater (List.append_cancel_left he)⟩

theorem output_of_identity {ps : List Part} (hid : ∀ body, (edit body).bodies = [body]) :
    ps.flatMap (Part.output edit) = (ps.map Part.reframed).flatMap Part.bytes := by
  rw [List.flatMap_map]
  refine congrArg (ps.flatMap ·) (funext fun part => ?_)
  cases part with
  | frame f =>
    rw [Part.output, hid, List.flatMap_singleton]
    rfl
  | flushed raw => rfl
  | remainder bytes => rfl

/-- Whatever a relay reads up to the end of a stream, it writes part by part: for a frame the bodies
made of its body, and all other bytes as they came. Bodies that are left alone come out framed anew,
so that the stream comes out as it came exactly when it had no other headers than those. -/
theorem run_of_parts (direction : Direction) (edit : Edit) {reads : List (List UInt8)}
    (hne : ∀ read ∈ reads, read ≠ []) {sink : Sink} (hsink : Unfailing sink) :
    let source : Source := ⟨reads, .endOfFile⟩
    let divided := parts .empty source.reads.1
    let delivery := (Relay.new direction edit).run source sink
    Divides divided reads.flatten ∧
      delivery.outcome =
        .finished (tallied .zero edit (divided.flatMap Part.bytes).length divided) ∧
      Step.written delivery.steps = divided.flatMap (Part.output edit) ∧
      ((∀ body, (edit body).bodies = [body]) →
        Step.written delivery.steps = (divided.map Part.reframed).flatMap Part.bytes ∧
        (Step.written delivery.steps = reads.flatten ↔
          ∀ part ∈ divided, part.reframed = part)) := by
  intro source divided delivery
  have hdivided : divided = parts .empty (reads.flatMap pieces) :=
    congrArg (fun taken => parts .empty taken.1) (reads_of_nonempty hne)
  have hdivides : Divides divided reads.flatten := by
    rw [hdivided, ← flatten_flatMap_pieces]
    exact divides_parts idle_empty _
  obtain ⟨hout, hwritten⟩ := steps_parts (Relay.new direction edit) (reads.flatMap pieces)
  have hdelivery := run_of_nonempty (Relay.new direction edit) hne hsink
  have hstats : delivery.outcome =
      .finished (tallied .zero edit (divided.flatMap Part.bytes).length divided) := by
    rw [hdivides.whole, hdivided, ← flatten_flatMap_pieces]
    exact (congrArg Delivery.outcome hdelivery).trans hout
  have hbytes : Step.written delivery.steps = divided.flatMap (Part.output edit) := by
    rw [hdivided]
    exact (congrArg (fun d => Step.written d.steps) hdelivery).trans hwritten
  refine ⟨hdivides, hstats, hbytes, fun hid => ?_⟩
  rw [hbytes, output_of_identity hid, ← hdivides.whole]
  refine ⟨rfl, reframed_of_bytes_eq hdivides.decided, fun hsame => ?_⟩
  rw [List.map_congr_left hsame, List.map_id']

/-- A header without a length, a frame whose header is its own, and one octet more. -/
theorem run_of_parts_unchanged :
    let header : List UInt8 :=
      [99, 111, 110, 116, 101, 110, 116, 45, 108, 101, 110, 103, 116, 104, 58, 49]
    let reads : List (List UInt8) :=
      [[88, 13, 10, 13], [10, 66], header ++ [13, 10, 13, 10, 65, 67]]
    let sink : Sink := ⟨none, .writeZero, some 1, none, none⟩
    let divided : List Part :=
      [.flushed [88, 13, 10, 13, 10, 66], .frame ⟨header, [65]⟩, .remainder [67]]
    let delivery := (Relay.new .toClient Edit.unchanged).run ⟨reads, .endOfFile⟩ sink
    Divides divided reads.flatten ∧ delivery.outcome = .finished ⟨28, 1, 1, 1⟩ ∧
      Step.written delivery.steps = [88, 13, 10, 13, 10, 66] ++ Frame.encode [65] ++ [67] ∧
      Step.written delivery.steps ≠ reads.flatten := by
  intro header reads sink divided delivery
  have hsink : Unfailing sink := ⟨rfl, by decide, rfl, rfl⟩
  have hparts : parts .empty (Source.reads ⟨reads, .endOfFile⟩).1 = divided := by decide +kernel
  have hne : ∀ read ∈ reads, read ≠ [] := by decide
  have hrun := run_of_parts .toClient Edit.unchanged hne hsink
  simp only [hparts] at hrun
  obtain ⟨hdivides, hout, hwritten, hidentity⟩ := hrun
  obtain ⟨-, hsame⟩ := hidentity fun _ => rfl
  refine ⟨hdivides, hout, hwritten.trans (by decide +kernel), fun he => ?_⟩
  have hframe := hsame.mp he (.frame ⟨header, [65]⟩) (by decide)
  revert hframe
  decide

end LspRelay.Proofs.Conservation
