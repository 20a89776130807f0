import LspRelay.Frame.Stream

namespace LspRelay.Proofs.FirstFrame

variable {bs more : List UInt8}

def DelimiterAt (bs : List UInt8) (i : Nat) : Prop := delimiter <+: bs.drop i

theorem DelimiterAt.end_le {i : Nat} (h : DelimiterAt bs i) :
    i + delimiter.length ≤ bs.length := by
  have hl := h.length_le
  simp only [List.length_drop, delimiter, List.length_cons, List.length_nil] at hl ⊢
  omega

/-- A delimiter that ends within the old bytes does not depend on the new ones. -/
theorem delimiterAt_append {i : Nat} (hi : i + delimiter.length ≤ bs.length) :
    DelimiterAt (bs ++ more) i ↔ DelimiterAt bs i := by
  have hd : i ≤ bs.length := by omega
  unfold DelimiterAt
  rw [List.drop_append_of_le_length hd]
  constructor
  · intro h
    refine List.prefix_of_prefix_length_le h (List.prefix_append _ _) ?_
    simp only [List.length_drop]
    omega
  · intro h
    exact h.trans (List.prefix_append _ _)

theorem delimiterAt_zero_iff : DelimiterAt bs 0 ↔ delimiter.isPrefixOf bs = true := by
  simp [DelimiterAt]

theorem delimiterAt_drop {start i : Nat} :
    DelimiterAt (bs.drop start) i ↔ DelimiterAt bs (start + i) := by
  simp [DelimiterAt, List.drop_drop]

def Searched (bs : List UInt8) (start : Nat) : Prop := ∀ i < start, ¬ DelimiterAt bs i

/-- The first delimiter begins at this offset. -/
structure FirstDelimiter (bs : List UInt8) (i : Nat) : Prop where
  here : DelimiterAt bs i
  before : Searched bs i

theorem FirstDelimiter.unique {i j : Nat} (hi : FirstDelimiter bs i) (hj : FirstDelimiter bs j) :
    i = j := by
  rcases Nat.lt_trichotomy i j with h | h | h
  · exact absurd hi.here (hj.before i h)
  · exact h
  · exact absurd hj.here (hi.before j h)

theorem FirstDelimiter.append {i : Nat} (h : FirstDelimiter bs i) :
    FirstDelimiter (bs ++ more) i := by
  have hi := h.here.end_le
  refine ⟨(delimiterAt_append hi).mpr h.here, ?_⟩
  intro j hj hd
  exact h.before j hj ((delimiterAt_append (by omega)).mp hd)

/-- A delimiter that ends within the old bytes was there before the new ones came. -/
theorem FirstDelimiter.of_append {i : Nat} (h : FirstDelimiter (bs ++ more) i)
    (hi : i + delimiter.length ≤ bs.length) : FirstDelimiter bs i := by
  refine ⟨(delimiterAt_append hi).mp h.here, ?_⟩
  intro j hj hd
  exact h.before j hj ((delimiterAt_append (by omega)).mpr hd)

/-- The search finds the first delimiter, and nothing only where there is none. -/
theorem firstDelimiter?_spec (bs : List UInt8) :
    match firstDelimiter? bs with
    | some i => FirstDelimiter bs i
    | none => ∀ i, ¬ DelimiterAt bs i := by
  induction bs with
  | nil =>
    intro i h
    have := h.end_le
    simp [delimiter] at this
  | cons b bs ih =>
    unfold firstDelimiter?
    split
    · rename_i i hs
      split at hs
      · rename_i hp
        cases hs
        exact ⟨delimiterAt_zero_iff.mpr hp, by intro j hj; omega⟩
      · rename_i hp
        obtain ⟨k, hk, rfl⟩ := Option.map_eq_some_iff.mp hs
        rw [hk] at ih
        refine ⟨ih.here, ?_⟩
        intro j hj hd
        cases j with
        | zero => exact hp (delimiterAt_zero_iff.mp hd)
        | succ j => exact ih.before j (by omega) hd
    · rename_i hs
      split at hs
      · cases hs
      · rename_i hp
        rw [Option.map_eq_none_iff.mp hs] at ih
        intro j hd
        cases j with
        | zero => exact hp (delimiterAt_zero_iff.mp hd)
        | succ j => exact ih j hd

theorem firstDelimiter?_eq_some_iff {i : Nat} :
    firstDelimiter? bs = some i ↔ FirstDelimiter bs i := by
  have hs := firstDelimiter?_spec bs
  constructor
  · intro h
    rwa [h] at hs
  · intro h
    cases he : firstDelimiter? bs with
    | none =>
      rw [he] at hs
      exact absurd h.here (hs i)
    | some j =>
      rw [he] at hs
      rw [hs.unique h]

theorem firstDelimiter?_eq_none_iff :
    firstDelimiter? bs = none ↔ ∀ i, ¬ DelimiterAt bs i := by
  have hs := firstDelimiter?_spec bs
  constructor
  · intro h
    rwa [h] at hs
  · intro h
    cases he : firstDelimiter? bs with
    | none => rfl
    | some i =>
      rw [he] at hs
      exact absurd hs.here (h i)

/-- A search may leave out what was searched before. -/
theorem firstDelimiter?_of_searched {start : Nat} (h : Searched bs start) :
    firstDelimiter? bs = (firstDelimiter? (bs.drop start)).map (start + ·) := by
  cases he : firstDelimiter? (bs.drop start) with
  | none =>
    have hn := firstDelimiter?_eq_none_iff.mp he
    refine firstDelimiter?_eq_none_iff.mpr ?_
    intro i hd
    rcases Nat.lt_or_ge i start with hi | hi
    · exact h i hi hd
    · refine hn (i - start) (delimiterAt_drop.mpr ?_)
      rwa [Nat.add_sub_cancel' hi]
  | some i =>
    have hf := firstDelimiter?_eq_some_iff.mp he
    refine firstDelimiter?_eq_some_iff.mpr ⟨delimiterAt_drop.mp hf.here, ?_⟩
    intro j hj hd
    rcases Nat.lt_or_ge j start with hi | hi
    · exact h j hi hd
    · have hlt : j < start + i := hj
      refine hf.before (j - start) (by omega) (delimiterAt_drop.mpr ?_)
      rwa [Nat.add_sub_cancel' hi]

/-- Where a search starts is not seen in what it finds. -/
theorem extent_of_searched {start : Nat} (h : Searched bs start) :
    extent bs start = extent bs 0 := by
  unfold extent
  rw [List.drop_zero, firstDelimiter?_of_searched h]
  cases firstDelimiter? (bs.drop start) with
  | none => rfl
  | some i => simp only [Option.map_some, Nat.zero_add]

/-- What a byte string begins with, by its first delimiter and the length its header gives. -/
inductive Front (bs : List UInt8) : Extent → Prop where
  | unended (never : ∀ i, ¬ DelimiterAt bs i) :
      Front bs (.needMore (bs.length - (delimiter.length - 1)))
  | unusable {i : Nat} (first : FirstDelimiter bs i) (length : contentLength? (bs.take i) = none) :
      Front bs .fault
  | tooLong {i n : Nat} (first : FirstDelimiter bs i)
      (length : contentLength? (bs.take i) = some n)
      (long : lengthLimit ≤ i + delimiter.length + n) : Front bs .fault
  | short {i n : Nat} (first : FirstDelimiter bs i)
      (length : contentLength? (bs.take i) = some n)
      (fits : i + delimiter.length + n < lengthLimit)
      (missing : bs.length < i + delimiter.length + n) : Front bs (.needMore i)
  | whole {i n : Nat} (first : FirstDelimiter bs i)
      (length : contentLength? (bs.take i) = some n)
      (fits : i + delimiter.length + n < lengthLimit)
      (there : i + delimiter.length + n ≤ bs.length) :
      Front bs (.complete i (i + delimiter.length + n))

theorem front_extent (bs : List UInt8) : Front bs (extent bs 0) := by
  unfold extent
  rw [List.drop_zero]
  cases hd : firstDelimiter? bs with
  | none => exact .unended (firstDelimiter?_eq_none_iff.mp hd)
  | some i =>
    have hf := firstDelimiter?_eq_some_iff.mp hd
    simp only [Nat.zero_add]
    cases hn : contentLength? (bs.take i) with
    | none => exact .unusable hf hn
    | some n =>
      simp only
      split
      · rename_i hl
        exact .tooLong hf hn hl
      · rename_i hl
        split
        · rename_i hs
          exact .short hf hn (by omega) hs
        · rename_i hs
          exact .whole hf hn (by omega) (by omega)

theorem Front.extent_eq {x : Extent} (h : Front bs x) : extent bs 0 = x := by
  unfold extent
  rw [List.drop_zero]
  cases h with
  | unended never => rw [firstDelimiter?_eq_none_iff.mpr never]
  | unusable first length =>
    rw [firstDelimiter?_eq_some_iff.mpr first]
    simp [length]
  | tooLong first length long =>
    rw [firstDelimiter?_eq_some_iff.mpr first]
    simp [length, long]
  | short first length fits missing =>
    rw [firstDelimiter?_eq_some_iff.mpr first]
    simp [length, Nat.not_le.mpr fits, missing]
  | whole first length fits there =>
    rw [firstDelimiter?_eq_some_iff.mpr first]
    simp [length, Nat.not_le.mpr fits, Nat.not_lt.mpr there]

theorem FirstDelimiter.take_append {i : Nat} (h : FirstDelimiter bs i) :
    (bs ++ more).take i = bs.take i := by
  have hi := h.here.end_le
  exact List.take_append_of_le_length (by omega)

/-- A frame that is there stays there when more bytes come. -/
theorem extent_append_of_complete {i total : Nat} (h : extent bs 0 = .complete i total) :
    extent (bs ++ more) 0 = .complete i total := by
  have hf := front_extent bs
  rw [h] at hf
  cases hf with
  | whole first length fits there =>
    refine Front.extent_eq (.whole first.append ?_ fits ?_)
    · rwa [first.take_append]
    · rw [List.length_append]
      omega

/-- A header that is of no use stays of no use. -/
theorem extent_append_of_fault (h : extent bs 0 = .fault) : extent (bs ++ more) 0 = .fault := by
  have hf := front_extent bs
  rw [h] at hf
  cases hf with
  | unusable first length =>
    refine Front.extent_eq (.unusable first.append ?_)
    rwa [first.take_append]
  | tooLong first length long =>
    refine Front.extent_eq (.tooLong first.append ?_ long)
    rwa [first.take_append]

theorem decode_eq_frame_iff {f : Frame} {n : Nat} :
    Frame.decode bs = .frame f n ↔ ∃ i, extent bs 0 = .complete i n ∧ f = Frame.slice bs i n := by
  unfold Frame.decode
  cases extent bs 0 with
  | needMore resume => simp
  | fault => simp
  | complete i total =>
    simp only [Frame.Decoded.frame.injEq, Extent.complete.injEq]
    constructor
    · rintro ⟨rfl, rfl⟩
      exact ⟨i, ⟨rfl, rfl⟩, rfl⟩
    · rintro ⟨j, ⟨rfl, rfl⟩, rfl⟩
      exact ⟨rfl, rfl⟩

theorem decode_eq_fault_iff : Frame.decode bs = .fault ↔ extent bs 0 = .fault := by
  unfold Frame.decode
  cases extent bs 0 <;> simp

theorem slice_append {i total : Nat} (hi : i ≤ bs.length) (ht : total ≤ bs.length) :
    Frame.slice (bs ++ more) i total = Frame.slice bs i total := by
  simp only [Frame.slice, List.take_append_of_le_length hi, List.take_append_of_le_length ht]

theorem decode_append_of_frame {f : Frame} {n : Nat} (h : Frame.decode bs = .frame f n) :
    Frame.decode (bs ++ more) = .frame f n := by
  obtain ⟨i, he, rfl⟩ := decode_eq_frame_iff.mp h
  obtain ⟨hi, hn⟩ := total_of_extent he
  refine decode_eq_frame_iff.mpr ⟨i, extent_append_of_complete he, ?_⟩
  rw [slice_append (by omega) hn]

theorem decode_append_of_fault (h : Frame.decode bs = .fault) :
    Frame.decode (bs ++ more) = .fault :=
  decode_eq_fault_iff.mpr (extent_append_of_fault (decode_eq_fault_iff.mp h))

/-- A frame is made of the very bytes that it takes. -/
theorem bytes_of_decode {f : Frame} {n : Nat} (h : Frame.decode bs = .frame f n) :
    f.bytes = bs.take n := by
  obtain ⟨i, he, rfl⟩ := decode_eq_frame_iff.mp h
  have hf := front_extent bs
  rw [he] at hf
  cases hf with
  | whole first length fits there =>
    rename_i k
    have hd : delimiter = (bs.drop i).take delimiter.length :=
      List.prefix_iff_eq_take.mp first.here
    calc (Frame.slice bs i (i + delimiter.length + k)).bytes
        = bs.take i ++ (bs.drop i).take delimiter.length ++
            (bs.drop (i + delimiter.length)).take k := by
          rw [← hd]
          simp only [Frame.bytes, Frame.slice, List.drop_take, Nat.add_sub_cancel_left]
      _ = bs.take (i + delimiter.length + k) := by rw [← List.take_add, ← List.take_add]

/-- What makes the front of a byte string a frame. -/
theorem front_of_decode {f : Frame} {n : Nat} (h : Frame.decode bs = .frame f n) :
    FirstDelimiter bs f.header.length ∧ contentLength? f.header = some f.body.length ∧
      f.size = n ∧ n < lengthLimit ∧ n ≤ bs.length := by
  obtain ⟨i, he, rfl⟩ := decode_eq_frame_iff.mp h
  have hf := front_extent bs
  rw [he] at hf
  cases hf with
  | whole first length fits there =>
    rename_i k
    have hi := first.here.end_le
    have hheader : (bs.take i).length = i := by
      rw [List.length_take]
      omega
    have hbody : ((bs.take (i + delimiter.length + k)).drop (i + delimiter.length)).length = k := by
      rw [List.length_drop, List.length_take]
      omega
    simp only [Frame.slice, Frame.size, hheader, hbody]
    exact ⟨first, length, trivial, fits, there⟩

/-- A frame is found in front of any bytes if its header ends with the first delimiter and gives the
length of its body. -/
theorem decode_bytes_append {f : Frame} (first : FirstDelimiter (f.bytes ++ more) f.header.length)
    (length : contentLength? f.header = some f.body.length) (fits : f.size < lengthLimit) :
    Frame.decode (f.bytes ++ more) = .frame f f.size := by
  have hheader : (f.bytes ++ more).take f.header.length = f.header := by
    simp only [Frame.bytes, List.append_assoc, List.take_left]
  have hslice : f = Frame.slice (f.bytes ++ more) f.header.length f.size := by
    rw [Frame.slice, hheader, ← f.length_bytes, List.take_left, Frame.bytes, ← List.length_append,
      List.drop_left]
  have hthere : f.size ≤ (f.bytes ++ more).length := by
    rw [List.length_append, f.length_bytes]
    exact Nat.le_add_right _ _
  refine decode_eq_frame_iff.mpr ⟨f.header.length, ?_, hslice⟩
  exact Front.extent_eq (.whole first (by rw [hheader, length]) fits hthere)

/-- A frame takes all its bytes, so it is there as soon as they are. -/
theorem decode_of_append_frame {f : Frame} {n : Nat} (h : Frame.decode (bs ++ more) = .frame f n)
    (hn : n ≤ bs.length) : Frame.decode bs = .frame f n := by
  obtain ⟨i, he, rfl⟩ := decode_eq_frame_iff.mp h
  have hf := front_extent (bs ++ more)
  rw [he] at hf
  cases hf with
  | whole first length fits there =>
    have hfirst := first.of_append (Nat.le_trans (Nat.le_add_right _ _) hn)
    rw [hfirst.take_append] at length
    have hi := hfirst.here.end_le
    rw [slice_append (by omega) hn]
    exact decode_eq_frame_iff.mpr ⟨i, Front.extent_eq (.whole hfirst length fits hn), rfl⟩

/-- A header block that is of no use is so as soon as it is whole. -/
theorem decode_of_append_fault {i : Nat} (h : Frame.decode (bs ++ more) = .fault)
    (hd : FirstDelimiter (bs ++ more) i) (hi : i + delimiter.length ≤ bs.length) :
    Frame.decode bs = .fault := by
  have hfirst := hd.of_append hi
  have hf := front_extent (bs ++ more)
  rw [decode_eq_fault_iff.mp h] at hf
  refine decode_eq_fault_iff.mpr (Front.extent_eq ?_)
  cases hf with
  | unusable first length =>
    cases first.unique hd
    rw [hfirst.take_append] at length
    exact .unusable hfirst length
  | tooLong first length long =>
    cases first.unique hd
    rw [hfirst.take_append] at length
    exact .tooLong hfirst length long

theorem firstDelimiter_of_fault (h : Frame.decode bs = .fault) : ∃ i, FirstDelimiter bs i := by
  have hf := front_extent bs
  rw [decode_eq_fault_iff.mp h] at hf
  cases hf with
  | unusable first length => exact ⟨_, first⟩
  | tooLong first length long => exact ⟨_, first⟩

/-- A frame that was found among other bytes is found in its own. -/
theorem decode_bytes {f : Frame} {n : Nat} (h : Frame.decode bs = .frame f n) :
    Frame.decode f.bytes = .frame f f.size := by
  have hb := bytes_of_decode h
  obtain ⟨-, -, rfl, -, -⟩ := front_of_decode h
  rw [← List.take_append_drop f.size bs, ← hb] at h
  exact decode_of_append_frame h (Nat.le_of_eq f.length_bytes.symm)

/-- Two frames at the front of the same bytes have the same header, whatever lengths they give. -/
theorem header_unique {f g : Frame} {more' : List UInt8} (he : f.bytes ++ more = g.bytes ++ more')
    (hf : FirstDelimiter (f.bytes ++ more) f.header.length)
    (hg : FirstDelimiter (g.bytes ++ more') g.header.length) : f.header = g.header := by
  rw [he] at hf
  have hlen := hf.unique hg
  simp only [Frame.bytes, List.append_assoc] at he
  exact List.append_inj_left he hlen

end LspRelay.Proofs.FirstFrame
