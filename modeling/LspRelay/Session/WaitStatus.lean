namespace LspRelay

/-- The code to pass on for the one that a process ended with. A process without one was killed,
which counts as a success; a code that no portable status has becomes a general failure. -/
def portableCode : Option Int → Nat
  | none => 0
  | some code => if 0 ≤ code ∧ code ≤ 255 then code.toNat else 1

/-- The report of a wait, a signed word. The low seven bits are zero for an exit, and then the
second octet holds the exit code; otherwise they name a signal. -/
structure WaitStatus where
  word : Int
  deriving Repr, DecidableEq

namespace WaitStatus

def exited (code : Nat) : WaitStatus := ⟨code % 256 * 256⟩

def killed (signal : Nat) : WaitStatus := ⟨signal % 128⟩

def code? (s : WaitStatus) : Option Int :=
  if s.word % 128 = 0 then some (s.word / 256 % 256) else none

def exitCode (s : WaitStatus) : Nat := portableCode s.code?

end WaitStatus

end LspRelay
