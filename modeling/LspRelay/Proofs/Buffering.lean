import LspRelay.Frame.Buffer
import LspRelay.Proofs.FirstFrame

namespace LspRelay.Proofs.Buffering
open FirstFrame

/-- What is done to a buffer from outside. -/
inductive BufferAction where
  | extend (chunk : List UInt8)
  | next
  | take
  deriving Repr, DecidableEq

inductive BufferAnswer where
  | nothing
  | pulled (p : Pulled)
  | taken (bytes : List UInt8)
  deriving Repr, DecidableEq

def perform (b : Buffer) : BufferAction → BufferAnswer × Buffer
  | .extend chunk => (.nothing, b.extend chunk)
  | .next => (.pulled b.next.1, b.next.2)
  | .take => (.taken b.take.1, b.take.2)

/-- What an action does to bytes alone, and what it answers there. -/
def performPlain (bytes : List UInt8) : BufferAction → BufferAnswer × List UInt8
  | .extend chunk => (.nothing, bytes ++ chunk)
  | .next =>
    match Frame.decode bytes with
    | .needMore => (.pulled .needMore, bytes)
    | .frame f n => (.pulled (.frame f), bytes.drop n)
    | .fault => (.pulled (.fault bytes), [])
  | .take => (.taken bytes, [])

variable {σ : Type}

/-- The answers to some actions, each with the state that it leaves. -/
def history (step : σ → BufferAction → BufferAnswer × σ) :
    σ → List BufferAction → List (BufferAnswer × σ)
  | _, [] => []
  | s, a :: as => step s a :: history step (step s a).2 as

def after (step : σ → BufferAction → BufferAnswer × σ) (s : σ) (as : List BufferAction) : σ :=
  as.foldl (fun s a => (step s a).2) s

def received : BufferAction → List UInt8
  | .extend chunk => chunk
  | _ => []

def given : BufferAnswer → List UInt8
  | .pulled (.frame f) => f.bytes
  | .pulled (.fault raw) => raw
  | .taken bytes => bytes
  | _ => []

/-- No delimiter begins before the offset where the search goes on, nor can one come to begin there:
the last octets, which a later chunk may complete to a delimiter, lie behind it. -/
structure Resumable (b : Buffer) : Prop where
  searched : Searched b.bytes b.scanFrom
  within : b.scanFrom ≤ b.bytes.length - (delimiter.length - 1)

theorem resumable_of_zero (bytes : List UInt8) : Resumable ⟨bytes, 0⟩ :=
  ⟨by intro i hi; exact absurd hi (Nat.not_lt_zero i), Nat.zero_le _⟩

theorem Resumable.extend {b : Buffer} (h : Resumable b) (chunk : List UInt8) :
    Resumable (b.extend chunk) := by
  have hw := h.within
  refine ⟨?_, ?_⟩
  · intro i hi hd
    change i < b.scanFrom at hi
    refine h.searched i hi ((delimiterAt_append ?_).mp hd)
    simp only [delimiter, List.length_cons, List.length_nil] at hw ⊢
    omega
  · simp only [Buffer.extend, List.length_append]
    omega

/-- A whole search and one that goes on find the same. -/
theorem Resumable.next_eq {b : Buffer} (h : Resumable b) :
    b.next = match extent b.bytes 0 with
      | .needMore resume => (.needMore, ⟨b.bytes, resume⟩)
      | .complete headerEnd total =>
        (.frame (Frame.slice b.bytes headerEnd total), ⟨b.bytes.drop total, 0⟩)
      | .fault => (.fault b.bytes, .empty) := by
  have hsame := extent_of_searched h.searched
  unfold Buffer.next
  cases hx : extent b.bytes 0 <;> simp only [hsame, hx]

theorem Resumable.next {b : Buffer} (h : Resumable b) : Resumable b.next.2 := by
  rw [h.next_eq]
  have hf := front_extent b.bytes
  cases hx : extent b.bytes 0 with
  | needMore resume =>
    rw [hx] at hf
    cases hf with
    | unended never => exact ⟨fun i _ => never i, Nat.le_refl _⟩
    | short first length fits missing =>
      refine ⟨first.before, ?_⟩
      have := first.here.end_le
      simp only
      omega
  | complete headerEnd total => exact resumable_of_zero _
  | fault => exact resumable_of_zero _

theorem Resumable.perform {b : Buffer} (h : Resumable b) (a : BufferAction) :
    Resumable (perform b a).2 := by
  cases a with
  | extend chunk => exact h.extend chunk
  | next => exact h.next
  | take => exact resumable_of_zero _

theorem Resumable.after {b : Buffer} (h : Resumable b) (actions : List BufferAction) :
    Resumable (after Buffering.perform b actions) := by
  induction actions generalizing b with
  | nil => exact h
  | cons a as ih => exact ih (h.perform a)

theorem Resumable.scanFrom_le {b : Buffer} (h : Resumable b) : b.scanFrom ≤ b.length :=
  Nat.le_trans h.within (Nat.sub_le _ _)

/-- One action answers the same and leaves the same bytes. -/
theorem performPlain_bytes {b : Buffer} (h : Resumable b) (a : BufferAction) :
    performPlain b.bytes a = ((perform b a).1, (perform b a).2.bytes) := by
  cases a with
  | extend chunk => rfl
  | take => rfl
  | next =>
    simp only [performPlain, Buffering.perform, Frame.decode]
    rw [h.next_eq]
    cases extent b.bytes 0 <;> rfl

theorem history_bytes {b : Buffer} (h : Resumable b) (actions : List BufferAction) :
    history performPlain b.bytes actions =
      (history perform b actions).map (fun (answer, b) => (answer, b.bytes)) := by
  induction actions generalizing b with
  | nil => rfl
  | cons a as ih =>
    simp only [history, List.map_cons, performPlain_bytes h a]
    rw [ih (h.perform a)]

/-- What comes in goes out or stays, in its order. -/
theorem given_performPlain (bytes : List UInt8) (a : BufferAction) :
    given (performPlain bytes a).1 ++ (performPlain bytes a).2 = bytes ++ received a := by
  cases a with
  | extend chunk => rfl
  | take => simp [performPlain, given, received]
  | next =>
    simp only [performPlain, received]
    cases hd : Frame.decode bytes with
    | needMore => simp [given]
    | frame f n => simp [given, bytes_of_decode hd]
    | fault => simp [given]

theorem given_history {b : Buffer} (h : Resumable b) (actions : List BufferAction) :
    (history perform b actions).flatMap (given ·.1) ++ (after perform b actions).bytes =
      b.bytes ++ actions.flatMap received := by
  induction actions generalizing b with
  | nil => simp [history, after]
  | cons a as ih =>
    have hstep := given_performPlain b.bytes a
    rw [performPlain_bytes h a] at hstep
    calc (history perform b (a :: as)).flatMap (given ·.1) ++ (after perform b (a :: as)).bytes
        = given (perform b a).1 ++ ((history perform (perform b a).2 as).flatMap (given ·.1) ++
            (after perform (perform b a).2 as).bytes) := by
          simp [history, after]
      _ = given (perform b a).1 ++ (perform b a).2.bytes ++ as.flatMap received := by
          rw [ih (h.perform a), List.append_assoc]
      _ = b.bytes ++ (a :: as).flatMap received := by
          rw [hstep]
          simp

/-- Whatever is done to a new buffer, in whatever order: each action answers as it would on the
bytes alone and leaves the same bytes, and these are what is left of all that came in. -/
theorem buffer_history_eq_plain (actions : List BufferAction) :
    (history perform .empty actions).map
        (fun (answer, b) => (answer, b.bytes, b.length, b.isEmpty)) =
      (history performPlain [] actions).map
        (fun (answer, bytes) => (answer, bytes, bytes.length, bytes.isEmpty)) ∧
    actions.flatMap received =
      (history perform .empty actions).flatMap (given ·.1) ++
        (after perform .empty actions).bytes := by
  have h : Resumable .empty := resumable_of_zero []
  refine ⟨?_, ?_⟩
  · have hh := history_bytes h actions
    rw [show Buffer.empty.bytes = [] from rfl] at hh
    rw [hh, List.map_map]
    rfl
  · rw [given_history h]
    rfl

end LspRelay.Proofs.Buffering
