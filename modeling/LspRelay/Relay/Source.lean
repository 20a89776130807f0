import LspRelay.Fault.Basic

namespace LspRelay

/-- How a stream ends after its chunks. A silent stream stays open and gives nothing more. -/
inductive Ending where
  | endOfFile
  | failed (cause : IoError)
  | silent
  deriving Repr, DecidableEq

structure Source where
  chunks : List (List UInt8)
  ending : Ending
  deriving Repr, DecidableEq

def readLimit : Nat := 16384

/-- A chunk in reads of at most `readLimit` octets. -/
def pieces (chunk : List UInt8) : List (List UInt8) :=
  if readLimit < chunk.length then chunk.take readLimit :: pieces (chunk.drop readLimit)
  else [chunk]
termination_by chunk.length
decreasing_by
  have : readLimit = 16384 := rfl
  simp only [List.length_drop]
  omega

namespace Source

/-- An empty chunk reads as the end of the stream, whatever comes after it. -/
def reads (s : Source) : List (List UInt8) × Ending :=
  let live := s.chunks.takeWhile (· ≠ [])
  (live.flatMap pieces, if live.length < s.chunks.length then .endOfFile else s.ending)

def ofBytes (bs : List UInt8) : Source :=
  ⟨if bs = [] then [] else [bs], .endOfFile⟩

end Source

end LspRelay
