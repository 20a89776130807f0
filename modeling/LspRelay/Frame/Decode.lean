import LspRelay.Frame.Header

namespace LspRelay

def firstDelimiter? : List UInt8 → Option Nat
  | [] => none
  | b :: bs => if delimiter.isPrefixOf (b :: bs) then some 0 else (firstDelimiter? bs).map (· + 1)

/-- What the front of a byte string holds, as offsets: too little, with the offset from which a
later search may start; a frame; or a header block without a usable length. -/
inductive Extent where
  | needMore (resume : Nat)
  | complete (headerEnd total : Nat)
  | fault
  deriving Repr, DecidableEq

/-- Looks for the delimiter from `start` on. The last three octets may begin a delimiter, so the
next search starts there; a header that waits for its body is found again at once. -/
def extent (bs : List UInt8) (start : Nat) : Extent :=
  match firstDelimiter? (bs.drop start) with
  | none => .needMore (bs.length - (delimiter.length - 1))
  | some offset =>
    let headerEnd := start + offset
    match contentLength? (bs.take headerEnd) with
    | none => .fault
    | some n =>
      let total := headerEnd + delimiter.length + n
      if lengthLimit ≤ total then .fault
      else if bs.length < total then .needMore headerEnd
      else .complete headerEnd total

namespace Frame

def slice (bs : List UInt8) (headerEnd total : Nat) : Frame :=
  ⟨bs.take headerEnd, (bs.take total).drop (headerEnd + delimiter.length)⟩

/-- What a byte string begins with. A fault is a header block without a usable length. -/
inductive Decoded where
  | needMore
  | frame (f : Frame) (consumed : Nat)
  | fault
  deriving Repr, DecidableEq

def decode (bs : List UInt8) : Decoded :=
  match extent bs 0 with
  | .needMore _ => .needMore
  | .complete headerEnd total => .frame (slice bs headerEnd total) total
  | .fault => .fault

end Frame

/-- A located frame lies within the bytes and holds at least its delimiter. -/
theorem total_of_extent {bs : List UInt8} {start headerEnd total : Nat}
    (h : extent bs start = .complete headerEnd total) :
    headerEnd + delimiter.length ≤ total ∧ total ≤ bs.length := by
  unfold extent at h
  split at h
  · simp at h
  · dsimp only at h
    split at h
    · simp at h
    · split at h
      · simp at h
      · split at h
        · simp at h
        · simp only [Extent.complete.injEq] at h
          omega

end LspRelay
