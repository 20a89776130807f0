import LspRelay.Frame.Decode

namespace LspRelay

structure Buffer where
  bytes : List UInt8
  scanFrom : Nat
  deriving Repr, DecidableEq

/-- What a buffer gives. A fault carries everything that was buffered. -/
inductive Pulled where
  | frame (f : Frame)
  | needMore
  | fault (raw : List UInt8)
  deriving Repr, DecidableEq

namespace Buffer

def empty : Buffer := ⟨[], 0⟩

def length (b : Buffer) : Nat := b.bytes.length

def isEmpty (b : Buffer) : Bool := b.bytes.isEmpty

def extend (b : Buffer) (chunk : List UInt8) : Buffer :=
  ⟨b.bytes ++ chunk, b.scanFrom⟩

/-- All that is buffered, whole or not. -/
def take (b : Buffer) : List UInt8 × Buffer :=
  (b.bytes, empty)

def next (b : Buffer) : Pulled × Buffer :=
  match extent b.bytes b.scanFrom with
  | .needMore resume => (.needMore, ⟨b.bytes, resume⟩)
  | .complete headerEnd total =>
    (.frame (Frame.slice b.bytes headerEnd total), ⟨b.bytes.drop total, 0⟩)
  | .fault => (.fault b.bytes, empty)

/-- A frame leaves less in the buffer. -/
theorem length_next_lt {b b' : Buffer} {f : Frame} (h : b.next = (.frame f, b')) :
    b'.length < b.length := by
  unfold next at h
  split at h
  · simp at h
  · rename_i headerEnd total hl
    obtain ⟨hd, ht⟩ := total_of_extent hl
    simp only [Prod.mk.injEq] at h
    rw [← h.2]
    simp only [length, List.length_drop]
    simp only [delimiter, List.length_cons, List.length_nil] at hd
    omega
  · simp at h

/-- The frames of a buffer until there is none, and the raw bytes of a fault if one ended them. -/
structure Drained where
  frames : List Frame
  fault : Option (List UInt8)
  rest : Buffer
  deriving Repr, DecidableEq

def drain (b : Buffer) : Drained :=
  match _h : b.next with
  | (.frame f, rest) =>
    let d := drain rest
    ⟨f :: d.frames, d.fault, d.rest⟩
  | (.needMore, rest) => ⟨[], none, rest⟩
  | (.fault raw, rest) => ⟨[], some raw, rest⟩
termination_by b.length
decreasing_by exact length_next_lt _h

theorem drain_of_frame {b b' : Buffer} {f : Frame} (h : b.next = (.frame f, b')) :
    b.drain = ⟨f :: b'.drain.frames, b'.drain.fault, b'.drain.rest⟩ := by
  rw [drain]
  split <;> simp_all

theorem drain_of_needMore {b b' : Buffer} (h : b.next = (.needMore, b')) :
    b.drain = ⟨[], none, b'⟩ := by
  rw [drain]
  split <;> simp_all

theorem drain_of_fault {b b' : Buffer} {raw : List UInt8} (h : b.next = (.fault raw, b')) :
    b.drain = ⟨[], some raw, b'⟩ := by
  rw [drain]
  split <;> simp_all

end Buffer

end LspRelay
