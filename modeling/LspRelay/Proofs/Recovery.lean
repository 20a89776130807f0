import LspRelay.Proofs.Streaming

namespace LspRelay.Proofs.Recovery
open FirstFrame Buffering Streaming

/-- What a buffer answers until it has no frame, that last answer included. -/
def answers (d : Buffer.Drained) : List Pulled :=
  d.frames.map .frame ++ [match d.fault with | none => .needMore | some raw => .fault raw]

/-- The answers of a buffer that is drained after each of some chunks, and the buffer after them. -/
def feed (b : Buffer) : List (List UInt8) → List Pulled × Buffer
  | [] => ([], b)
  | chunk :: chunks =>
    let d := (b.extend chunk).drain
    let later := feed d.rest chunks
    (answers d ++ later.1, later.2)

theorem feed_append (b : Buffer) (early late : List (List UInt8)) :
    feed b (early ++ late) =
      ((feed b early).1 ++ (feed (feed b early).2 late).1, (feed (feed b early).2 late).2) := by
  induction early generalizing b with
  | nil => rfl
  | cons chunk early ih => simp only [List.cons_append, feed, ih, List.append_assoc]

def yielded (ps : List Pulled) : List Pulled := ps.filter (· ≠ .needMore)

theorem yielded_append (early late : List Pulled) :
    yielded (early ++ late) = yielded early ++ yielded late := by
  simp only [yielded, List.filter_append]

theorem yielded_frames (frames : List Frame) :
    yielded (frames.map .frame) = frames.map .frame := by
  refine List.filter_eq_self.mpr ?_
  intro p hp
  obtain ⟨f, -, rfl⟩ := List.mem_map.mp hp
  simp

/-- The answer after the frames of a stream. -/
def lastAnswer : Leftover → Pulled
  | .incomplete _ => .needMore
  | .faulty raw => .fault raw

theorem yielded_incomplete (rest : List UInt8) : yielded [lastAnswer (.incomplete rest)] = [] := rfl

theorem yielded_faulty (raw : List UInt8) :
    yielded [lastAnswer (.faulty raw)] = [.fault raw] := by
  simp [yielded, lastAnswer]

variable {b : Buffer} {chunk raw rest : List UInt8} {frames : List Frame}

theorem answers_drain (h : Resumable b) :
    answers b.drain = (stream b.bytes).1.map .frame ++ [lastAnswer (stream b.bytes).2] := by
  rw [(drain_spec h).1, answers, leftover]
  cases b.drain.fault <;> rfl

theorem rest_drain (h : Resumable b) :
    match (stream b.bytes).2 with
    | .incomplete rest => b.drain.rest.bytes = rest
    | .faulty _ => b.drain.rest = .empty := by
  rw [(drain_spec h).1, leftover]
  cases hf : b.drain.fault with
  | none => rfl
  | some raw => exact drain_rest_of_fault hf

/-- What a chunk brings is told by one look at what was held and the chunk behind it. -/
theorem extend_drain (h : Idle b) (chunk : List UInt8) :
    yielded (answers (b.extend chunk).drain) =
        (stream (b.bytes ++ chunk)).1.map .frame ++
          yielded [lastAnswer (stream (b.bytes ++ chunk)).2] ∧
      match (stream (b.bytes ++ chunk)).2 with
      | .incomplete rest => (b.extend chunk).drain.rest.bytes = rest
      | .faulty _ => (b.extend chunk).drain.rest = .empty := by
  have hr := h.resumable.extend chunk
  refine ⟨?_, rest_drain hr⟩
  rw [answers_drain hr, yielded_append, yielded_frames]
  rfl

/-- Of a stream that waited for more, a fault came only with the end of a header block. -/
theorem header_ends_in_chunk {bs : List UInt8} (hw : Frame.decode bs = .needMore)
    (hs : stream (bs ++ chunk) = (frames, .faulty raw)) :
    ∃ i, FirstDelimiter raw i ∧
      bs.length < (frames.flatMap Frame.bytes).length + i + delimiter.length := by
  obtain ⟨i, hi⟩ := firstDelimiter_of_fault (decode_of_faulty hs)
  refine ⟨i, hi, Nat.lt_of_not_le fun hle => ?_⟩
  -- Had the header block been whole before, what came first would have been decided before.
  cases hd : Frame.decode (bs ++ chunk) with
  | needMore =>
    rw [stream_of_needMore hd] at hs
    cases hs
  | fault =>
    rw [stream_of_fault hd] at hs
    cases hs
    have hfault := decode_of_append_fault hd hi (by simpa using hle)
    rw [hw] at hfault
    cases hfault
  | frame f n =>
    rw [stream_of_frame hd] at hs
    obtain ⟨rfl, -⟩ := Prod.mk.inj hs
    obtain ⟨-, -, rfl, -, -⟩ := front_of_decode hd
    rw [List.flatMap_cons, List.length_append, f.length_bytes] at hle
    have hframe := decode_of_append_frame hd (by omega)
    rw [hw] at hframe
    cases hframe

/-- Chunks without a fault give the frames of the whole stream. -/
theorem feed_of_incomplete (h : Idle b) {chunks : List (List UInt8)}
    (hs : stream (b.bytes ++ chunks.flatten) = (frames, .incomplete rest)) :
    yielded (feed b chunks).1 = frames.map .frame ∧ Idle (feed b chunks).2 ∧
      (feed b chunks).2.bytes = rest := by
  induction chunks generalizing b frames with
  | nil =>
    rw [List.flatten_nil, List.append_nil, stream_of_needMore h.waiting] at hs
    cases hs
    exact ⟨rfl, h, rfl⟩
  | cons chunk chunks ih =>
    rw [List.flatten_cons, ← List.append_assoc, stream_append] at hs
    rcases hc : stream (b.bytes ++ chunk) with ⟨now, waiting | raw⟩
    · rw [hc] at hs
      obtain ⟨rfl, hl⟩ := Prod.mk.inj hs
      have hnow := extend_drain h chunk
      simp only [hc, yielded_incomplete, List.append_nil] at hnow
      obtain ⟨hnow, hbytes⟩ := hnow
      rw [← hbytes] at hl
      obtain ⟨hlater, hend⟩ := ih (idle_drain (h.resumable.extend chunk)) (Prod.ext rfl hl)
      refine ⟨?_, hend⟩
      rw [feed, yielded_append, hnow, hlater, hbytes, List.map_append]
    · rw [hc] at hs
      cases hs

/-- The chunk that brings the fault of a stream, and the stream before it. -/
theorem faulty_chunk {held tail : List UInt8} (hw : Frame.decode held = .needMore)
    {chunks : List (List UInt8)} (hs : stream (held ++ chunks.flatten) = (frames, .faulty tail)) :
    ∃ before chunk after early late rest raw, chunks = before ++ chunk :: after ∧
      stream (held ++ before.flatten) = (early, .incomplete rest) ∧
      stream (rest ++ chunk) = (late, .faulty raw) ∧
      frames = early ++ late ∧ tail = raw ++ after.flatten := by
  induction chunks generalizing held frames with
  | nil =>
    rw [List.flatten_nil, List.append_nil, stream_of_needMore hw] at hs
    cases hs
  | cons chunk chunks ih =>
    rw [List.flatten_cons, ← List.append_assoc, stream_append] at hs
    rcases hc : stream (held ++ chunk) with ⟨now, waiting | raw⟩
    · rw [hc] at hs
      obtain ⟨rfl, hl⟩ := Prod.mk.inj hs
      have hlater : stream (waiting ++ chunks.flatten) =
          ((stream (waiting ++ chunks.flatten)).1, .faulty tail) := Prod.ext rfl hl
      obtain ⟨before, last, after, early, late, rest, raw, rfl, hearly, hlate, hframes, htail⟩ :=
        ih (decode_of_incomplete hc) hlater
      refine ⟨chunk :: before, last, after, now ++ early, late, rest, raw, rfl, ?_, hlate, ?_,
        htail⟩
      · rw [List.flatten_cons, ← List.append_assoc, stream_append, hc]
        simp only [hearly]
      · rw [hframes, List.append_assoc]
    · rw [hc] at hs
      cases hs
      exact ⟨[], chunk, chunks, [], frames, held, raw, rfl, by simpa using stream_of_needMore hw,
        hc, rfl, rfl⟩

/-- Where a stream of some frames and a faulty rest is cut in chunks: the first chunk with which the
header block of that rest is whole, and what of the rest had come by the end of that chunk. -/
structure FaultIn (chunks : List (List UInt8)) (frames : List Frame) (tail : List UInt8)
    (before : List (List UInt8)) (chunk : List UInt8) (after : List (List UInt8))
    (raw : List UInt8) : Prop where
  cut : chunks = before ++ chunk :: after
  flushed : before.flatten ++ chunk = frames.flatMap Frame.bytes ++ raw
  left : raw ++ after.flatten = tail
  header : ∃ i, FirstDelimiter tail i ∧ i + delimiter.length ≤ raw.length ∧
    before.flatten.length < (frames.flatMap Frame.bytes).length + i + delimiter.length

theorem faultIn_of_streams {early late : List Frame} {before after : List (List UInt8)}
    (hearly : stream before.flatten = (early, .incomplete rest))
    (hlate : stream (rest ++ chunk) = (late, .faulty raw)) :
    FaultIn (before ++ chunk :: after) (early ++ late) (raw ++ after.flatten) before chunk after
      raw := by
  obtain ⟨i, hi, hends⟩ := header_ends_in_chunk (decode_of_incomplete hearly) hlate
  have hbefore := bytes_of_stream before.flatten
  have hchunk := bytes_of_stream (rest ++ chunk)
  rw [hearly] at hbefore
  rw [hlate] at hchunk
  simp only [Leftover.bytes] at hbefore hchunk
  refine ⟨rfl, ?_, rfl, i, hi.append, hi.here.end_le, ?_⟩
  · rw [← hbefore, List.append_assoc, ← hchunk, List.flatMap_append, List.append_assoc]
  · rw [← hbefore, List.flatMap_append, List.length_append, List.length_append]
    omega

/-- A buffer that is drained after each chunk gives the frames of the stream. Then, if the stream
has a fault, it gives once, with the chunk that ends the faulty header block, all that came from
that header on; after that it answers as a new buffer. A stream without a fault has none in any
chunks. -/
theorem feed_of_stream (chunks : List (List UInt8)) :
    (∀ frames tail, stream chunks.flatten = (frames, .faulty tail) →
      ∃ before chunk after raw, FaultIn chunks frames tail before chunk after raw ∧
        yielded (feed .empty (before ++ [chunk])).1 = frames.map .frame ++ [.fault raw] ∧
        (feed .empty (before ++ [chunk])).2 = .empty ∧
        (feed .empty chunks).1 = (feed .empty (before ++ [chunk])).1 ++ (feed .empty after).1) ∧
    (∀ frames rest, stream chunks.flatten = (frames, .incomplete rest) →
      ∀ raw, .fault raw ∉ (feed .empty chunks).1) := by
  refine ⟨?_, ?_⟩
  · intro frames tail hs
    obtain ⟨before, chunk, after, early, late, rest, raw, rfl, hearly, hlate, rfl, rfl⟩ :=
      faulty_chunk idle_empty.waiting hs
    obtain ⟨hbefore, hidle, hrest⟩ := feed_of_incomplete idle_empty hearly
    have hchunk := extend_drain hidle chunk
    simp only [hrest, hlate, yielded_faulty] at hchunk
    obtain ⟨hchunk, hempty⟩ := hchunk
    have hfed : feed .empty (before ++ [chunk]) = ((feed .empty before).1 ++
        answers ((feed .empty before).2.extend chunk).drain, .empty) := by
      rw [feed_append]
      simp only [feed, hempty, List.append_nil]
    refine ⟨before, chunk, after, raw, faultIn_of_streams hearly hlate, ?_, by rw [hfed], ?_⟩
    · rw [hfed, yielded_append, hbefore, hchunk, List.map_append, List.append_assoc]
    · rw [← List.singleton_append, ← List.append_assoc, feed_append, hfed]
  · intro frames rest hs raw hraw
    obtain ⟨hall, -⟩ := feed_of_incomplete idle_empty hs
    have hmem : Pulled.fault raw ∈ yielded (feed .empty chunks).1 :=
      List.mem_filter.mpr ⟨hraw, by simp⟩
    rw [hall] at hmem
    obtain ⟨f, -, hf⟩ := List.mem_map.mp hmem
    cases hf

/-- A frame, a header without a length whose delimiter comes in two chunks, and a chunk more; and a
frame whose delimiter comes in two chunks with one octet more. -/
theorem feed_of_parted_header :
    let header : List UInt8 :=
      [67, 111, 110, 116, 101, 110, 116, 45, 76, 101, 110, 103, 116, 104, 58, 32, 49]
    let chunks : List (List UInt8) :=
      [header ++ [13, 10, 13, 10, 65, 88, 13], [10, 13, 10, 66], [67]]
    let frames : List Frame := [⟨header, [65]⟩]
    let tail : List UInt8 := [88, 13, 10, 13, 10, 66, 67]
    let sound : List (List UInt8) := [header ++ [13, 10, 13], [10, 65, 67]]
    stream chunks.flatten = (frames, .faulty tail) ∧
      (∃ before chunk after raw, FaultIn chunks frames tail before chunk after raw ∧
        yielded (feed .empty (before ++ [chunk])).1 = frames.map .frame ++ [.fault raw] ∧
        (feed .empty (before ++ [chunk])).2 = .empty ∧
        (feed .empty chunks).1 =
          (feed .empty (before ++ [chunk])).1 ++ (feed .empty after).1) ∧
      stream sound.flatten = (frames, .incomplete [67]) ∧
      ∀ raw, .fault raw ∉ (feed .empty sound).1 := by
  intro header chunks frames tail sound
  have hframe : Frame.decode chunks.flatten = .frame ⟨header, [65]⟩ 22 := by decide
  have hdrop : chunks.flatten.drop 22 = tail := by decide
  have hs : stream chunks.flatten = (frames, .faulty tail) := by
    rw [stream_of_frame hframe, hdrop, stream_of_fault (by decide)]
  have hframe' : Frame.decode sound.flatten = .frame ⟨header, [65]⟩ 22 := by decide
  have hdrop' : sound.flatten.drop 22 = [67] := by decide
  have hs' : stream sound.flatten = (frames, .incomplete [67]) := by
    rw [stream_of_frame hframe', hdrop', stream_of_needMore (by decide)]
  exact ⟨hs, (feed_of_stream chunks).1 frames tail hs, hs',
    (feed_of_stream sound).2 frames [67] hs'⟩

end LspRelay.Proofs.Recovery
