import LspRelay.Proofs.HeaderLines
import LspRelay.Proofs.Streaming
import LspRelay.Relay.Basic

namespace LspRelay.Proofs.Draining
open FirstFrame Buffering Streaming HeaderLines

variable {b b' : Buffer} {f : Frame} {line : List UInt8} {n : Nat}

/-- The pulls one after another, so many at most. Nothing comes of them if the last one gives a
frame. -/
def drainWithin : Nat → Buffer → Option Buffer.Drained
  | 0, _ => none
  | pulls + 1, b =>
    match b.next with
    | (.frame f, rest) => (drainWithin pulls rest).map fun d => ⟨f :: d.frames, d.fault, d.rest⟩
    | (.needMore, rest) => some ⟨[], none, rest⟩
    | (.fault raw, rest) => some ⟨[], some raw, rest⟩

/-- What is left when there are no more frames: octets that wait for more, or nothing, because a
fault took all of them. -/
inductive Exhausted : Buffer.Drained → Prop where
  | waiting {frames : List Frame} {rest : Buffer} (more : Frame.decode rest.bytes = .needMore) :
      Exhausted ⟨frames, none, rest⟩
  | faulty {frames : List Frame} {raw : List UInt8} (unusable : Frame.decode raw = .fault) :
      Exhausted ⟨frames, some raw, .empty⟩

/-- One pull more than there are frames is enough, and no fewer are. -/
theorem drainWithin_eq (pulls : Nat) (b : Buffer) :
    drainWithin pulls b = if b.drain.frames.length < pulls then some b.drain else none := by
  induction pulls generalizing b with
  | zero => rfl
  | succ pulls ih =>
    unfold drainWithin
    cases hn : b.next with
    | mk pulled rest =>
      cases pulled with
      | frame f =>
        simp only [Buffer.drain_of_frame hn, ih rest, List.length_cons, Nat.add_lt_add_iff_right]
        split <;> rfl
      | needMore => simp [Buffer.drain_of_needMore hn]
      | fault raw => simp [Buffer.drain_of_fault hn]

/-- The field's name has fourteen octets; the colon and a digit come to it. -/
theorem length_of_lengthLine (h : LengthLine line n) : 16 ≤ line.length := by
  cases h with
  | @field name value _ first named number =>
    have hname : name.length = 14 := by
      calc name.length = (name.map lowerOctet).length := (List.length_map _).symm
        _ = ((Utf8.ofString "Content-Length").map lowerOctet).length := by rw [named]
        _ = 14 := by decide +kernel
    have hvalue : value ≠ [] := by
      rintro rfl
      have hnone : leadingNumber? (Utf8.decodeLossy []) = none := by decide
      rw [leadingNumber?_eq_some_iff.mpr number] at hnone
      cases hnone
    have := List.length_pos_iff.mpr hvalue
    simp only [List.length_append, List.length_cons]
    omega

/-- A header that gives a length has a line that does. -/
theorem length_of_contentLength? {header : List UInt8} (h : contentLength? header = some n) :
    16 ≤ header.length := by
  by_cases hfeed : lineFeed ∈ header
  · obtain ⟨line, late, rfl, hline⟩ := List.eq_append_cons_of_mem hfeed
    have hlen : (line ++ lineFeed :: late).length = line.length + late.length + 1 := by
      rw [List.length_append, List.length_cons, Nat.add_assoc]
    rw [contentLength?_append, Option.or_eq_some_iff] at h
    rcases h with h | ⟨-, h⟩
    · have := length_of_lengthLine ((contentLength?_eq_some_iff hline).mp h)
      omega
    · have := length_of_contentLength? h
      omega
  · exact length_of_lengthLine ((contentLength?_eq_some_iff hfeed).mp h)
termination_by header.length

/-- A pull takes the first frame out and leaves what is behind it. -/
theorem decode_of_next (h : Resumable b) (hn : b.next = (.frame f, b')) :
    Frame.decode b.bytes = .frame f f.size ∧ b'.bytes = b.bytes.drop f.size := by
  have hd := next_of_decode h
  cases hc : Frame.decode b.bytes with
  | needMore =>
    rw [hc, hn] at hd
    obtain ⟨_, he, -⟩ := hd
    cases he
  | frame g n =>
    rw [hc, hn] at hd
    obtain ⟨_, he, hbytes⟩ := hd
    cases he
    obtain ⟨-, -, rfl, -, -⟩ := front_of_decode hc
    exact ⟨rfl, hbytes⟩
  | fault =>
    rw [hc, hn] at hd
    cases hd

/-- One pull: a frame takes its own octets out, and these are never fewer than twenty. -/
theorem length_of_next (h : Resumable b) (hn : b.next = (.frame f, b')) :
    16 ≤ f.header.length ∧ 20 ≤ f.size ∧ b'.length + f.size = b.length := by
  obtain ⟨hd, hbytes⟩ := decode_of_next h hn
  obtain ⟨-, hlength, -, -, hfits⟩ := front_of_decode hd
  have hheader := length_of_contentLength? hlength
  refine ⟨hheader, ?_, ?_⟩
  · simp only [Frame.size, delimiter, List.length_cons, List.length_nil]
    omega
  · rw [Buffer.length, hbytes, List.length_drop, Buffer.length]
    omega

/-- No pull brings octets in. -/
theorem length_next_le (b : Buffer) : b.next.2.length ≤ b.length := by
  unfold Buffer.next
  cases extent b.bytes b.scanFrom with
  | needMore resume => exact Nat.le_refl _
  | complete headerEnd total =>
    simp only [Buffer.length, List.length_drop]
    exact Nat.sub_le _ _
  | fault => exact Nat.zero_le _

/-- All pulls: each frame is paid for with twenty octets of those that there were. -/
theorem length_drain (h : Resumable b) :
    20 * b.drain.frames.length + b.drain.rest.length ≤ b.length := by
  induction b using Buffer.drain.induct with
  | case1 b f rest hn ih =>
    obtain ⟨-, hsize, hlen⟩ := length_of_next h hn
    have hrest : Resumable rest := by simpa only [hn] using h.next
    have hlater := ih hrest
    simp only [Buffer.drain_of_frame hn, List.length_cons]
    omega
  | case2 b rest hn =>
    have hlen : rest.length ≤ b.length := by simpa only [hn] using length_next_le b
    simpa [Buffer.drain_of_needMore hn] using hlen
  | case3 b raw rest hn =>
    have hlen : rest.length ≤ b.length := by simpa only [hn] using length_next_le b
    simpa [Buffer.drain_of_fault hn] using hlen

theorem length_frames_drain (h : Resumable b) : b.drain.frames.length ≤ b.length / 20 := by
  have := length_drain h
  omega

theorem exhausted_drain (h : Resumable b) : Exhausted b.drain := by
  have hs := (drain_spec h).1
  cases hd : b.drain with
  | mk frames fault rest =>
    rw [hd] at hs
    cases fault with
    | none => exact .waiting (decode_of_incomplete hs)
    | some raw =>
      have hrest := drain_rest_of_fault (congrArg Buffer.Drained.fault hd)
      rw [hd] at hrest
      subst hrest
      exact .faulty (decode_of_faulty hs)

/-- One read: what a relay counts for it has been paid for, and what it keeps is no frame. -/
theorem receive_bounds {r : Relay} {chunk : List UInt8} (h : Resumable (r.buffer.extend chunk)) :
    let next := (r.receive chunk).1
    next.stats.framesIn ≤ r.stats.framesIn + (r.buffer.extend chunk).length / 20 ∧
      next.stats.faults ≤ r.stats.faults + 1 ∧ Frame.decode next.buffer.bytes = .needMore :=
  ⟨Nat.add_le_add_left (length_frames_drain h) _, Nat.add_le_add_left Option.length_toList_le _,
    (idle_drain h).waiting⟩

/-- The shortest frame that there is: no blank before the digit, and no body. -/
def shortest : Frame := ⟨Utf8.ofString "content-length:0", []⟩

theorem stream_shortest (count : Nat) :
    stream ((List.replicate count shortest).flatMap Frame.bytes) =
      (List.replicate count shortest, .incomplete []) := by
  induction count with
  | zero => exact stream_of_needMore rfl
  | succ count ih =>
    have hd : Frame.decode shortest.bytes = .frame shortest 20 := by decide +kernel
    have hlen : shortest.bytes.length = 20 := by decide +kernel
    rw [List.replicate_succ, List.flatMap_cons, stream_of_frame (decode_append_of_frame hd),
      List.drop_left' hlen, ih]

/-- Frames of twenty octets are as many as a buffer can hold. -/
theorem drain_shortest (count : Nat) :
    let b := Buffer.empty.extend ((List.replicate count shortest).flatMap Frame.bytes)
    b.length = 20 * count ∧ b.drain.frames = List.replicate count shortest := by
  intro b
  have hlen : shortest.bytes.length = 20 := by decide +kernel
  have hs := (drain_spec ((resumable_of_zero []).extend
    ((List.replicate count shortest).flatMap Frame.bytes))).1
  refine ⟨?_, ?_⟩
  · simp [b, Buffer.extend, Buffer.empty, Buffer.length, List.length_flatMap, hlen, Nat.mul_comm]
  · exact congrArg Prod.fst (hs.symm.trans (stream_shortest count))

/-- Whatever was done to a new buffer, the pulls for its frames come to an end: each frame takes
twenty octets out or more, sixteen of them its header's, so that after one frame for every twenty
octets at most a pull gives none. Then the buffer waits for more, or is empty after one fault. A
relay whose read left the buffer so does no more than that before its next read. -/
theorem drain_of_actions (actions : List BufferAction) :
    let b := after perform .empty actions
    (∀ header n, contentLength? header = some n → 16 ≤ header.length) ∧
      (∀ f b', b.next = (.frame f, b') →
        16 ≤ f.header.length ∧ 20 ≤ f.size ∧ b'.length + f.size = b.length) ∧
      b.drain.frames.length ≤ b.length / 20 ∧
      drainWithin (b.length / 20 + 1) b = some b.drain ∧ Exhausted b.drain ∧
      ∀ (r : Relay) (chunk : List UInt8), r.buffer.extend chunk = b →
        let next := (r.receive chunk).1
        next.stats.framesIn ≤ r.stats.framesIn + b.length / 20 ∧
          next.stats.faults ≤ r.stats.faults + 1 ∧ Frame.decode next.buffer.bytes = .needMore := by
  intro b
  have h : Resumable b := (resumable_of_zero []).after actions
  have hframes := length_frames_drain h
  refine ⟨fun header n => length_of_contentLength?, fun f b' => length_of_next h, hframes, ?_,
    exhausted_drain h, ?_⟩
  · rw [drainWithin_eq, if_pos (Nat.lt_succ_of_le hframes)]
  · intro r chunk hr
    rw [← hr] at h ⊢
    exact receive_bounds h

/-- Two frames without a body before a header that is not whole, and the same when its last octet
has come and it is of no use: in both the third pull is the first that gives no frame. -/
theorem drain_of_actions_crammed :
    let held := shortest.bytes ++ shortest.bytes ++ [88, 13, 10, 13]
    let waiting := after perform .empty [.extend held]
    let faulty := after perform .empty [.extend held, .extend [10]]
    let next := (Relay.receive ⟨.toClient, Edit.unchanged, waiting, .zero⟩ [10]).1
    (contentLength? shortest.header = some 0 ∧ 16 ≤ shortest.header.length) ∧
      (waiting.next.1 = .frame shortest ∧
        waiting.next.2.length + shortest.size = waiting.length) ∧
      drainWithin 2 waiting = none ∧
      waiting.drain = ⟨[shortest, shortest], none, ⟨[88, 13, 10, 13], 1⟩⟩ ∧
      Exhausted waiting.drain ∧
      faulty.drain = ⟨[shortest, shortest], some [88, 13, 10, 13, 10], .empty⟩ ∧
      Exhausted faulty.drain ∧
      next.stats = ⟨1, 2, 2, 1⟩ ∧ next.stats.framesIn ≤ faulty.length / 20 := by
  intro held waiting faulty next
  obtain ⟨hheader, hframe, -, hwaiting, hexhausted, -⟩ := drain_of_actions [.extend held]
  obtain ⟨-, -, -, hfaulty, hflushed, hrelay⟩ := drain_of_actions [.extend held, .extend [10]]
  have hlength : contentLength? shortest.header = some 0 := by decide +kernel
  have hnext : waiting.next = (.frame shortest, waiting.next.2) := by decide +kernel
  have hthree : waiting.length / 20 + 1 = 3 ∧ faulty.length / 20 + 1 = 3 := by decide +kernel
  rw [hthree.1] at hwaiting
  rw [hthree.2] at hfaulty
  have hcounted : next.stats = ⟨1, 2, 2, 1⟩ := by decide +kernel
  refine ⟨⟨hlength, hheader _ _ hlength⟩, ⟨congrArg Prod.fst hnext, (hframe _ _ hnext).2.2⟩,
    by decide +kernel, ?_, hexhausted, ?_, hflushed, hcounted, ?_⟩
  · exact Option.some.inj (hwaiting.symm.trans (by decide +kernel))
  · exact Option.some.inj (hfaulty.symm.trans (by decide +kernel))
  · have hbound := (hrelay ⟨.toClient, Edit.unchanged, waiting, .zero⟩ [10] rfl).1
    rwa [show (Stats.zero).framesIn = 0 from rfl, Nat.zero_add] at hbound

end LspRelay.Proofs.Draining
