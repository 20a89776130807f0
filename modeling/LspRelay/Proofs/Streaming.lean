import LspRelay.Proofs.Buffering

namespace LspRelay.Proofs.Streaming
open FirstFrame Buffering

/-- What a buffer holds back, or gave up, when it has no more frames. -/
def leftover (d : Buffer.Drained) : Leftover :=
  match d.fault with
  | none => .incomplete d.rest.bytes
  | some raw => .faulty raw

/-- More bytes go behind those that waited for more, or into the fault that there was; nothing
before them changes. -/
theorem stream_append (bs more : List UInt8) :
    stream (bs ++ more) = match stream bs with
      | (frames, .incomplete rest) =>
        (frames ++ (stream (rest ++ more)).1, (stream (rest ++ more)).2)
      | (frames, .faulty raw) => (frames, .faulty (raw ++ more)) := by
  induction bs using stream.induct with
  | case1 bs hd =>
    rw [stream_of_needMore hd]
    rfl
  | case2 bs hd => rw [stream_of_fault hd, stream_of_fault (decode_append_of_fault hd)]
  | case3 bs f n hd _ _ _ ih =>
    have hn := (consumed_of_decode hd).2
    rw [stream_of_frame (decode_append_of_frame hd), List.drop_append_of_le_length hn, ih,
      stream_of_frame hd]
    obtain ⟨frames, rest | raw⟩ := stream (bs.drop n) <;> rfl

/-- A stream is its frames and what is left after them. -/
theorem bytes_of_stream (bs : List UInt8) :
    (stream bs).1.flatMap Frame.bytes ++ (stream bs).2.bytes = bs := by
  induction bs using stream.induct with
  | case1 bs hd =>
    rw [stream_of_needMore hd]
    rfl
  | case2 bs hd =>
    rw [stream_of_fault hd]
    rfl
  | case3 bs f n hd _ _ _ ih =>
    rw [stream_of_frame hd, List.flatMap_cons, List.append_assoc, ih, bytes_of_decode hd,
      List.take_append_drop]

theorem decode_of_mem_stream {bs : List UInt8} {f : Frame} (h : f ∈ (stream bs).1) :
    Frame.decode f.bytes = .frame f f.size := by
  induction bs using stream.induct with
  | case1 bs hd =>
    rw [stream_of_needMore hd] at h
    cases h
  | case2 bs hd =>
    rw [stream_of_fault hd] at h
    cases h
  | case3 bs g n hd _ _ _ ih =>
    rw [stream_of_frame hd] at h
    rcases List.mem_cons.mp h with rfl | h
    · exact decode_bytes hd
    · exact ih h

/-- What is left of a stream is no frame: it waits for more, or is of no use. -/
theorem decode_leftover (bs : List UInt8) :
    Frame.decode (stream bs).2.bytes = match (stream bs).2 with
      | .incomplete _ => .needMore
      | .faulty _ => .fault := by
  induction bs using stream.induct with
  | case1 bs hd =>
    rw [stream_of_needMore hd]
    exact hd
  | case2 bs hd =>
    rw [stream_of_fault hd]
    exact hd
  | case3 bs f n hd _ _ _ ih =>
    rw [stream_of_frame hd]
    exact ih

theorem decode_of_incomplete {bs rest : List UInt8} {frames : List Frame}
    (h : stream bs = (frames, .incomplete rest)) : Frame.decode rest = .needMore := by
  have hl := decode_leftover bs
  rwa [h] at hl

theorem decode_of_faulty {bs raw : List UInt8} {frames : List Frame}
    (h : stream bs = (frames, .faulty raw)) : Frame.decode raw = .fault := by
  have hl := decode_leftover bs
  rwa [h] at hl

/-- A pull takes from the front what one look at all the bytes finds there. -/
theorem next_of_decode {b : Buffer} (h : Resumable b) :
    match Frame.decode b.bytes with
    | .needMore => ∃ b', b.next = (.needMore, b') ∧ b'.bytes = b.bytes
    | .frame f n => ∃ b', b.next = (.frame f, b') ∧ b'.bytes = b.bytes.drop n
    | .fault => b.next = (.fault b.bytes, .empty) := by
  unfold Frame.decode
  rw [h.next_eq]
  cases extent b.bytes 0 with
  | needMore resume => exact ⟨_, rfl, rfl⟩
  | complete headerEnd total => exact ⟨_, rfl, rfl⟩
  | fault => rfl

theorem drain_spec {b : Buffer} (h : Resumable b) :
    stream b.bytes = (b.drain.frames, leftover b.drain) ∧ Resumable b.drain.rest := by
  induction hb : b.bytes using stream.induct generalizing b with
  | case1 bs hd =>
    subst hb
    have hn := next_of_decode h
    rw [hd] at hn
    obtain ⟨b', hn, hbytes⟩ := hn
    have hr := h.next
    rw [hn] at hr
    rw [stream_of_needMore hd, Buffer.drain_of_needMore hn]
    exact ⟨by simp only [leftover, hbytes], hr⟩
  | case2 bs hd =>
    subst hb
    have hn := next_of_decode h
    rw [hd] at hn
    rw [stream_of_fault hd, Buffer.drain_of_fault hn]
    exact ⟨rfl, resumable_of_zero []⟩
  | case3 bs f n hd _ _ _ ih =>
    subst hb
    have hn := next_of_decode h
    rw [hd] at hn
    obtain ⟨b', hn, hbytes⟩ := hn
    have hr := h.next
    rw [hn] at hr
    obtain ⟨hs, hrest⟩ := ih hr hbytes
    rw [stream_of_frame hd, Buffer.drain_of_frame hn, hs]
    exact ⟨rfl, hrest⟩

theorem next_fault_empty {b b' : Buffer} {raw : List UInt8} (h : b.next = (.fault raw, b')) :
    b' = .empty := by
  unfold Buffer.next at h
  split at h
  · cases h
  · cases h
  · exact (Prod.mk.inj h).2.symm

/-- A fault takes the whole buffer with it. -/
theorem drain_rest_of_fault {b : Buffer} {raw : List UInt8} (h : b.drain.fault = some raw) :
    b.drain.rest = .empty := by
  induction b using Buffer.drain.induct with
  | case1 b f rest hn ih =>
    rw [Buffer.drain_of_frame hn] at h ⊢
    exact ih h
  | case2 b rest hn =>
    rw [Buffer.drain_of_needMore hn] at h
    cases h
  | case3 b flushed rest hn =>
    rw [Buffer.drain_of_fault hn]
    exact next_fault_empty hn

/-- A buffer that has given all that it could: it goes on where it stopped, and holds too little for
a frame. -/
structure Idle (b : Buffer) : Prop where
  resumable : Resumable b
  waiting : Frame.decode b.bytes = .needMore

theorem idle_empty : Idle .empty := ⟨resumable_of_zero [], rfl⟩

theorem idle_drain {b : Buffer} (h : Resumable b) : Idle b.drain.rest := by
  obtain ⟨hs, hr⟩ := drain_spec h
  cases hf : b.drain.fault with
  | none =>
    simp only [leftover, hf] at hs
    exact ⟨hr, decode_of_incomplete hs⟩
  | some raw =>
    rw [drain_rest_of_fault hf]
    exact idle_empty

end LspRelay.Proofs.Streaming
