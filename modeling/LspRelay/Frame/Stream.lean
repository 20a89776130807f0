import LspRelay.Frame.Decode

namespace LspRelay

/-- What a stream ends with: bytes that wait for more, or bytes from a faulty header on. -/
inductive Leftover where
  | incomplete (bytes : List UInt8)
  | faulty (bytes : List UInt8)
  deriving Repr, DecidableEq

def Leftover.bytes : Leftover → List UInt8
  | .incomplete bytes => bytes
  | .faulty bytes => bytes

theorem consumed_of_decode {bs : List UInt8} {f : Frame} {n : Nat}
    (h : Frame.decode bs = .frame f n) : 0 < n ∧ n ≤ bs.length := by
  unfold Frame.decode at h
  split at h
  · simp at h
  · rename_i headerEnd total hl
    obtain ⟨hd, ht⟩ := total_of_extent hl
    simp only [Frame.Decoded.frame.injEq] at h
    simp only [delimiter, List.length_cons, List.length_nil] at hd
    omega
  · simp at h

/-- Decodes again and again from the front. -/
def stream (bs : List UInt8) : List Frame × Leftover :=
  match _h : Frame.decode bs with
  | .needMore => ([], .incomplete bs)
  | .fault => ([], .faulty bs)
  | .frame f n =>
    let (fs, leftover) := stream (bs.drop n)
    (f :: fs, leftover)
termination_by bs.length
decreasing_by
  obtain ⟨hp, hl⟩ := consumed_of_decode _h
  simp only [List.length_drop]
  omega

theorem stream_of_needMore {bs : List UInt8} (h : Frame.decode bs = .needMore) :
    stream bs = ([], .incomplete bs) := by
  rw [stream]
  split <;> simp_all

theorem stream_of_fault {bs : List UInt8} (h : Frame.decode bs = .fault) :
    stream bs = ([], .faulty bs) := by
  rw [stream]
  split <;> simp_all

theorem stream_of_frame {bs : List UInt8} {f : Frame} {n : Nat}
    (h : Frame.decode bs = .frame f n) :
    stream bs = (f :: (stream (bs.drop n)).1, (stream (bs.drop n)).2) := by
  rw [stream]
  split <;> simp_all

end LspRelay
