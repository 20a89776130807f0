import LspRelay.Proofs.Buffering

namespace LspRelay.Proofs.Resumption
open Buffering FirstFrame

variable {b b' : Buffer}

/-- Why a buffer has to wait, told by its offset: no delimiter is there, and one may begin in the
last octets at the earliest; or the header that ends at the offset is whole and its body is not. -/
inductive Waits (b : Buffer) : Prop where
  | header (never : ∀ i, ¬ DelimiterAt b.bytes i)
      (offset : b.scanFrom = b.length - (delimiter.length - 1))
  | body {n : Nat} (first : FirstDelimiter b.bytes b.scanFrom)
      (length : contentLength? (b.bytes.take b.scanFrom) = some n)
      (missing : b.length < b.scanFrom + delimiter.length + n)

theorem waits_of_next (h : Resumable b) (hn : b.next = (.needMore, b')) : Waits b' := by
  rw [h.next_eq] at hn
  have hf := front_extent b.bytes
  cases hx : extent b.bytes 0 with
  | needMore resume =>
    rw [hx] at hn hf
    cases hn
    cases hf with
    | unended never => exact .header never rfl
    | short first length fits missing => exact .body first length missing
  | complete headerEnd total =>
    rw [hx] at hn
    cases hn
  | fault =>
    rw [hx] at hn
    cases hn

/-- What takes bytes out leaves nothing searched of those that stay. -/
theorem scanFrom_of_pulled {p : Pulled} (h : b.next = (p, b')) (hp : p ≠ .needMore) :
    b'.scanFrom = 0 := by
  unfold Buffer.next at h
  cases hx : extent b.bytes b.scanFrom with
  | needMore resume =>
    rw [hx] at h
    cases h
    exact absurd rfl hp
  | complete headerEnd total =>
    rw [hx] at h
    cases h
    rfl
  | fault =>
    rw [hx] at h
    cases h
    rfl

/-- Whatever was done to a new buffer: its offset lies within its bytes and no delimiter begins
before it. A search that finds no frame leaves it where a delimiter can begin at the earliest, or at
the end of the header whose body is awaited; a frame, a fault or taking all puts it back to the
front. -/
theorem offset_after_actions (actions : List BufferAction) :
    let b := after perform .empty actions
    b.scanFrom ≤ b.length ∧ (∀ i < b.scanFrom, ¬ DelimiterAt b.bytes i) ∧
      (∀ b', b.next = (.needMore, b') → Waits b') ∧
      (∀ p b', b.next = (p, b') → p ≠ .needMore → b'.scanFrom = 0) ∧
      b.take.2.scanFrom = 0 := by
  intro b
  have h : Resumable b := (resumable_of_zero []).after actions
  refine ⟨h.scanFrom_le, h.searched, ?_, ?_, rfl⟩
  · intro b' hn
    exact waits_of_next h hn
  · intro p b' hn hp
    exact scanFrom_of_pulled hn hp

/-- A delimiter in two chunks: the search goes on three octets before the end of the first, and
after the second the header waits for its body. With the rest of the body there is a frame. -/
theorem offset_after_actions_parted :
    let front := Utf8.ofString "Content-Length: 5\r\n\r"
    let more := Utf8.ofString "\nab"
    let searching := after perform .empty [.extend front]
    let waiting := after perform .empty [.extend front, .next, .extend more]
    let whole := waiting.extend (Utf8.ofString "cde")
    searching.next = (.needMore, ⟨front, 17⟩) ∧ Waits ⟨front, 17⟩ ∧
      waiting.next = (.needMore, ⟨front ++ more, 17⟩) ∧ Waits ⟨front ++ more, 17⟩ ∧
      whole.next.1 ≠ .needMore ∧ whole.next.2.scanFrom = 0 := by
  intro front more searching waiting whole
  have hsearching : searching.next = (.needMore, ⟨front, 17⟩) := by decide +kernel
  have hwaiting : waiting.next = (.needMore, ⟨front ++ more, 17⟩) := by decide +kernel
  have hwhole : whole.next.1 ≠ .needMore := by decide +kernel
  obtain ⟨-, -, hheader, -⟩ := offset_after_actions [.extend front]
  obtain ⟨-, -, hbody, -⟩ := offset_after_actions [.extend front, .next, .extend more]
  obtain ⟨-, -, -, hframe, -⟩ := offset_after_actions
    [.extend front, .next, .extend more, .extend (Utf8.ofString "cde")]
  exact ⟨hsearching, hheader _ hsearching, hwaiting, hbody _ hwaiting, hwhole,
    hframe _ _ rfl hwhole⟩

end LspRelay.Proofs.Resumption
