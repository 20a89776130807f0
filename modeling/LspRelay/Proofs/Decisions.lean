import LspRelay.Proofs.FirstFrame

namespace LspRelay.Proofs.Decisions
open FirstFrame

variable {bs p more : List UInt8} {f : Frame} {d d' : Frame.Decoded} {n t t' : Nat}

/-- No prefix decides anything. -/
def Undecided (bs : List UInt8) : Prop := ∀ p, p <+: bs → Frame.decode p = .needMore

/-- A prefix of this length is the first that decides, and longer ones do not change it. -/
structure DecidedAt (bs : List UInt8) (t : Nat) (d : Frame.Decoded) : Prop where
  decided : d ≠ .needMore
  reached : t ≤ bs.length
  waiting : ∀ p, p <+: bs → p.length < t → Frame.decode p = .needMore
  settled : ∀ p, p <+: bs → t ≤ p.length → Frame.decode p = d

/-- The front is a frame, and the frame's last octet decides it. -/
def Whole (bs : List UInt8) : Prop := ∃ t f, DecidedAt bs t (.frame f t)

def Faulty (bs : List UInt8) : Prop := ∃ t, DecidedAt bs t .fault

/-- What a prefix decides stays decided. -/
theorem decode_of_decided (hp : p <+: bs) (hd : Frame.decode p ≠ .needMore) :
    Frame.decode bs = Frame.decode p := by
  obtain ⟨more, rfl⟩ := hp
  cases h : Frame.decode p with
  | needMore => exact absurd h hd
  | frame f n => exact decode_append_of_frame h
  | fault => exact decode_append_of_fault h

theorem undecided_of_needMore (h : Frame.decode bs = .needMore) : Undecided bs := by
  intro p hp
  refine Classical.byContradiction fun hd => hd ?_
  rw [← decode_of_decided hp hd, h]

/-- A frame is decided by its last octet. -/
theorem decidedAt_of_frame (h : Frame.decode bs = .frame f n) : DecidedAt bs n (.frame f n) := by
  refine ⟨nofun, (consumed_of_decode h).2, ?_, ?_⟩
  · intro p hp hshort
    refine Classical.byContradiction fun hd => ?_
    have hframe := (decode_of_decided hp hd).symm.trans h
    have hlen := (consumed_of_decode hframe).2
    omega
  · rintro p ⟨more, rfl⟩ hlen
    exact decode_of_append_frame h hlen

/-- A header block of no use is decided by the last octet of the first delimiter. -/
theorem decidedAt_of_fault {i : Nat} (h : Frame.decode bs = .fault) (hi : FirstDelimiter bs i) :
    DecidedAt bs (i + delimiter.length) .fault := by
  refine ⟨nofun, hi.here.end_le, ?_, ?_⟩
  · intro p hp hshort
    refine Classical.byContradiction fun hd => ?_
    obtain ⟨j, hj⟩ := firstDelimiter_of_fault ((decode_of_decided hp hd).symm.trans h)
    have hlen := hj.here.end_le
    obtain ⟨more, rfl⟩ := hp
    cases hi.unique hj.append
    omega
  · rintro p ⟨more, rfl⟩ hlen
    exact decode_of_append_fault h hi hlen

theorem DecidedAt.decode (h : DecidedAt bs t d) : Frame.decode bs = d :=
  h.settled bs List.prefix_rfl h.reached

theorem DecidedAt.not_undecided (h : DecidedAt bs t d) : ¬ Undecided bs := fun hu =>
  h.decided (h.decode.symm.trans (hu bs List.prefix_rfl))

theorem DecidedAt.le (h : DecidedAt bs t d) (h' : DecidedAt bs t' d') : t ≤ t' := by
  refine Nat.le_of_not_lt fun hlt => h'.decided ?_
  have hlen : (bs.take t').length = t' := List.length_take_of_le h'.reached
  have hp := List.take_prefix t' bs
  rw [← h'.settled _ hp (Nat.le_of_eq hlen.symm), h.waiting _ hp (by rwa [hlen])]

/-- There is one point of decision and one thing that is decided there. -/
theorem DecidedAt.unique (h : DecidedAt bs t d) (h' : DecidedAt bs t' d') : t = t' ∧ d = d' :=
  ⟨Nat.le_antisymm (h.le h') (h'.le h), h.decode.symm.trans h'.decode⟩

/-- Octets that come later change neither the point nor what was decided. -/
theorem DecidedAt.append (h : DecidedAt bs t d) (more : List UInt8) :
    DecidedAt (bs ++ more) t d := by
  refine ⟨h.decided, by simpa using Nat.le_add_right_of_le h.reached, ?_, ?_⟩
  · intro p hp hshort
    have hlen : p.length ≤ bs.length := Nat.le_trans (Nat.le_of_lt hshort) h.reached
    exact h.waiting p (List.prefix_of_prefix_length_le hp (List.prefix_append _ _) hlen) hshort
  · intro p hp hlong
    rcases Nat.le_total p.length bs.length with hlen | hlen
    · exact h.settled p (List.prefix_of_prefix_length_le hp (List.prefix_append _ _) hlen) hlong
    · have hbs := List.prefix_of_prefix_length_le (List.prefix_append bs more) hp hlen
      rw [← h.decode]
      exact decode_of_decided hbs (h.decode ▸ h.decided)

/-- The offsets by which a frame is cut out are the end of its header and its own end. -/
theorem extent_of_decode (h : Frame.decode bs = .frame f n) :
    extent bs 0 = .complete f.header.length n := by
  obtain ⟨i, he, rfl⟩ := decode_eq_frame_iff.mp h
  obtain ⟨hi, hn⟩ := total_of_extent he
  have hheader : (Frame.slice bs i n).header.length = i := by
    simp only [Frame.slice, List.length_take]
    omega
  rw [hheader, he]

theorem DecidedAt.extent (h : DecidedAt bs t (.frame f t)) (hp : p <+: bs) (hlen : t ≤ p.length) :
    extent p 0 = .complete f.header.length t ∧ f.header.length + delimiter.length ≤ t := by
  have he := extent_of_decode (h.settled p hp hlen)
  exact ⟨he, (total_of_extent he).1⟩

/-- What makes a frame of the front: its header ends where the first delimiter begins and gives the
length of its body, and all of it is there. -/
theorem decidedAt_frame_iff :
    DecidedAt bs t (.frame f t) ↔
      bs.take t = f.header ++ delimiter ++ f.body ∧ f.size = t ∧ t < lengthLimit ∧
        Searched bs f.header.length ∧ contentLength? f.header = some f.body.length := by
  constructor
  · intro h
    obtain ⟨first, length, hsize, fits, -⟩ := front_of_decode h.decode
    exact ⟨(bytes_of_decode h.decode).symm, hsize, fits, first.before, length⟩
  · rintro ⟨hbytes, rfl, fits, before, length⟩
    have hsplit : bs = f.bytes ++ bs.drop f.size := by
      rw [Frame.bytes, ← hbytes, List.take_append_drop]
    have hhere : DelimiterAt bs f.header.length := by
      rw [DelimiterAt, hsplit, Frame.bytes, List.append_assoc, List.append_assoc, List.drop_left]
      exact List.prefix_append _ _
    have first : FirstDelimiter bs f.header.length := ⟨hhere, before⟩
    rw [hsplit] at first
    refine decidedAt_of_frame ?_
    rw [hsplit]
    exact decode_bytes_append first length fits

/-- What makes a fault of the front: its header block is whole, and gives no length or too great a
one. -/
theorem decidedAt_fault_iff :
    DecidedAt bs t .fault ↔
      ∃ i, FirstDelimiter bs i ∧ t = i + delimiter.length ∧
        (contentLength? (bs.take i) = none ∨
          ∃ n, contentLength? (bs.take i) = some n ∧ lengthLimit ≤ i + delimiter.length + n) := by
  constructor
  · intro h
    have hf := front_extent bs
    rw [decode_eq_fault_iff.mp h.decode] at hf
    cases hf with
    | unusable first length =>
      exact ⟨_, first, (h.unique (decidedAt_of_fault h.decode first)).1, .inl length⟩
    | tooLong first length long =>
      exact ⟨_, first, (h.unique (decidedAt_of_fault h.decode first)).1, .inr ⟨_, length, long⟩⟩
  · rintro ⟨i, first, rfl, length | ⟨n, length, long⟩⟩
    · have he := (Front.unusable first length).extent_eq
      exact decidedAt_of_fault (decode_eq_fault_iff.mpr he) first
    · have he := (Front.tooLong first length long).extent_eq
      exact decidedAt_of_fault (decode_eq_fault_iff.mpr he) first

theorem not_faulty_of_whole (h : Whole bs) : ¬ Faulty bs := by
  rintro ⟨t', h'⟩
  obtain ⟨t, f, h⟩ := h
  exact nomatch (h.unique h').2

theorem undecided_or_whole_or_faulty (bs : List UInt8) :
    Undecided bs ∧ ¬ Whole bs ∧ ¬ Faulty bs ∨ ¬ Undecided bs ∧ Whole bs ∧ ¬ Faulty bs ∨
      ¬ Undecided bs ∧ ¬ Whole bs ∧ Faulty bs := by
  cases hd : Frame.decode bs with
  | needMore =>
    have hu := undecided_of_needMore hd
    exact .inl ⟨hu, fun ⟨_, _, h⟩ => h.not_undecided hu, fun ⟨_, h⟩ => h.not_undecided hu⟩
  | frame f n =>
    have h := decidedAt_of_frame hd
    exact .inr (.inl ⟨h.not_undecided, ⟨n, f, h⟩, not_faulty_of_whole ⟨n, f, h⟩⟩)
  | fault =>
    obtain ⟨i, hi⟩ := firstDelimiter_of_fault hd
    have h := decidedAt_of_fault hd hi
    exact .inr (.inr ⟨h.not_undecided, fun hw => not_faulty_of_whole hw ⟨_, h⟩, _, h⟩)

/-- Of any bytes exactly one is true: nothing is decided about their front, or a frame is decided by
its last octet, or a fault is by the end of the first delimiter. A frame is the octets up to that
point, cut within the bounds of every prefix that has them; and whatever comes later, nothing else
is decided and nowhere else. -/
theorem front_decided_once (bs : List UInt8) :
    (Undecided bs ∧ ¬ Whole bs ∧ ¬ Faulty bs ∨ ¬ Undecided bs ∧ Whole bs ∧ ¬ Faulty bs ∨
      ¬ Undecided bs ∧ ¬ Whole bs ∧ Faulty bs) ∧
    (∀ t f, DecidedAt bs t (.frame f t) ↔
      bs.take t = f.header ++ delimiter ++ f.body ∧ f.size = t ∧ t < lengthLimit ∧
        Searched bs f.header.length ∧ contentLength? f.header = some f.body.length) ∧
    (∀ t f, DecidedAt bs t (.frame f t) → ∀ p, p <+: bs → t ≤ p.length →
      extent p 0 = .complete f.header.length t ∧ f.header.length + delimiter.length ≤ t) ∧
    (∀ t, DecidedAt bs t .fault ↔
      ∃ i, FirstDelimiter bs i ∧ t = i + delimiter.length ∧
        (contentLength? (bs.take i) = none ∨
          ∃ n, contentLength? (bs.take i) = some n ∧ lengthLimit ≤ i + delimiter.length + n)) ∧
    ∀ t d, DecidedAt bs t d →
      (∀ t' d', DecidedAt bs t' d' → t' = t ∧ d' = d) ∧ ∀ more, DecidedAt (bs ++ more) t d := by
  refine ⟨undecided_or_whole_or_faulty bs, fun t f => decidedAt_frame_iff, ?_,
    fun t => decidedAt_fault_iff, ?_⟩
  · intro t f h p hp hlen
    exact h.extent hp hlen
  · intro t d h
    exact ⟨fun t' d' h' => h'.unique h, h.append⟩

/-- A body that goes on with the second half of its delimiter, and a length that would end the frame
at the limit. -/
theorem front_decided_once_overlap :
    let header := Utf8.ofString "Content-Length:2"
    let bytes := header ++ delimiter ++ [13, 10]
    let large := Utf8.ofString "Content-Length:18446744073709551577" ++ delimiter
    DecidedAt bytes 22 (.frame ⟨header, [13, 10]⟩ 22) ∧ ¬ Faulty bytes ∧
      (∀ more, DecidedAt (bytes ++ more) 22 (.frame ⟨header, [13, 10]⟩ 22)) ∧
      Faulty large ∧ ∀ t, DecidedAt large t .fault → t = 39 := by
  intro header bytes large
  have hframe : DecidedAt bytes 22 (.frame ⟨header, [13, 10]⟩ 22) :=
    decidedAt_of_frame (by decide +kernel)
  have hfault : DecidedAt large 39 .fault :=
    decidedAt_of_fault (i := 35) (by decide +kernel)
      (firstDelimiter?_eq_some_iff.mp (by decide +kernel))
  obtain ⟨-, -, -, -, honce⟩ := front_decided_once bytes
  obtain ⟨-, -, -, -, honce'⟩ := front_decided_once large
  refine ⟨hframe, not_faulty_of_whole ⟨_, _, hframe⟩, (honce 22 _ hframe).2, ⟨_, hfault⟩, ?_⟩
  intro t h
  exact ((honce' 39 _ hfault).1 t _ h).1

end LspRelay.Proofs.Decisions
