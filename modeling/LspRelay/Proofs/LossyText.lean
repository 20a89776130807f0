import LspRelay.Proofs.Utf8Codec

namespace LspRelay.Proofs.LossyText
open Utf8 Utf8Codec

variable {s : State} {b : UInt8} {bs : List UInt8} {c : Char}

/-- Bits that become a character outside ASCII, whatever bits so many octets add. -/
def Begins : Nat → Nat → Prop
  | 0, bits => 0x80 ≤ bits ∧ bits.isValidChar
  | n + 1, bits => ∀ x < 64, Begins n (bits * 64 + x)

/-- What holds of every state that a scan comes to: no ASCII octet goes on with a sequence, and no
sequence becomes an ASCII character. -/
inductive Reached : State → Prop where
  | start : Reached .start
  | within {after bits : Nat} {low high : UInt8} (wide : 0x80 ≤ low.toNat)
      (begins : ∀ x, low.toNat ≤ x → x ≤ high.toNat → Begins after (bits * 64 + (x - 0x80))) :
      Reached (.within after low high bits)

/-- A character as it is shown, or the sign for a broken sequence, is outside ASCII. -/
def Wide (x : Option Char) : Prop := 0x80 ≤ (x.getD '\uFFFD').toNat

/-- A property of all octets, checked value by value. -/
theorem octet_forall {P : UInt8 → Prop} (h : ∀ n < 256, P (UInt8.ofNat n)) (b : UInt8) : P b := by
  have hb := h b.toNat b.toNat_lt
  rwa [UInt8.ofNat_toNat] at hb

theorem lead_ascii (hb : b.toNat < 0x80) : lead b = ([some (Char.ofNat b.toNat)], .start) := by
  rw [lead, if_pos (UInt8.lt_iff_toNat_lt.mpr hb)]

theorem reached_lead (b : UInt8) : Reached (lead b).2 := by
  refine octet_forall (P := fun b => Reached (lead b).2) (fun n hn => ?_) b
  simp only [lead_ofNat hn]
  -- One case for each line of the table of first octets.
  repeat' split
  all_goals first
    | exact .start
    | refine .within (by decide) fun x hlow hhigh => ?_
      simp only [UInt8.reduceToNat] at hlow hhigh
      simp only [Begins, Nat.isValidChar]
      omega

theorem toNat_ofNat {n : Nat} (h : n.isValidChar) : (Char.ofNat n).toNat = n := by
  rw [Char.ofNat, dif_pos h]
  rfl

theorem toNat_ofNat_octet (b : UInt8) : (Char.ofNat b.toNat).toNat = b.toNat :=
  toNat_ofNat (.inl (Nat.lt_trans b.toNat_lt (by decide)))

theorem wide_none : Wide none := by
  change 0x80 ≤ '\uFFFD'.toNat
  decide

theorem wide_of_begins {n : Nat} (h : Begins 0 n) : Wide (some (Char.ofNat n)) := by
  rw [Wide, Option.getD_some, toNat_ofNat h.2]
  exact h.1

/-- A first octet outside ASCII makes the sign for a broken sequence, or begins one. -/
theorem lead_wide (hb : 0x80 ≤ b.toNat) :
    (∀ x ∈ (lead b).1, Wide x) ∧ ((lead b).2 = .start → (lead b).1 ≠ []) := by
  have hwide : ¬ b < 0x80 := by simpa [UInt8.lt_iff_toNat_lt] using hb
  unfold lead
  rw [if_neg hwide]
  repeat' split
  all_goals simp [wide_none]

/-- An octet that is no sequence's continuation breaks off what was begun. -/
theorem step_ascii (hs : Reached s) (hb : b.toNat < 0x80) :
    step s b = (scan s [] ++ [some (Char.ofNat b.toNat)], .start) := by
  cases hs with
  | start => exact lead_ascii hb
  | @within after bits low high wide begins =>
    have hout : ¬ (low ≤ b ∧ b ≤ high) := by
      rw [UInt8.le_iff_toNat_le]
      omega
    cases after <;> simp only [step, hout, if_false, lead_ascii hb] <;> rfl

/-- Any other octet makes nothing that is ASCII, and nothing at all only where a sequence goes
on. -/
theorem step_wide (hs : Reached s) (hb : 0x80 ≤ b.toNat) :
    (∀ x ∈ (step s b).1, Wide x) ∧ ((step s b).2 = .start → (step s b).1 ≠ []) := by
  cases hs with
  | start => exact lead_wide hb
  | @within after bits low high wide begins =>
    by_cases hin : low ≤ b ∧ b ≤ high
    · have hbegins : Begins after (bits * 64 + (b.toNat - 0x80)) :=
        begins _ (UInt8.le_iff_toNat_le.mp hin.1) (UInt8.le_iff_toNat_le.mp hin.2)
      cases after with
      | zero =>
        simp only [step, hin, and_self, if_true]
        exact ⟨by simpa using wide_of_begins hbegins, by simp⟩
      | succ n => simp [step, hin]
    · simp only [step, hin, if_false]
      exact ⟨List.forall_mem_cons.mpr ⟨wide_none, (lead_wide hb).1⟩, by simp⟩

theorem reached_step (hs : Reached s) (b : UInt8) : Reached (step s b).2 := by
  cases hs with
  | start => exact reached_lead b
  | @within after bits low high wide begins =>
    by_cases hin : low ≤ b ∧ b ≤ high
    · have hbegins : Begins after (bits * 64 + (b.toNat - 0x80)) :=
        begins _ (UInt8.le_iff_toNat_le.mp hin.1) (UInt8.le_iff_toNat_le.mp hin.2)
      cases after with
      | zero =>
        simp only [step, hin, and_self, if_true]
        exact .start
      | succ n =>
        simp only [step, hin, and_self, if_true]
        refine .within (by decide) fun x hlow hhigh => hbegins (x - 0x80) ?_
        simp only [UInt8.reduceToNat] at hlow hhigh
        omega
    · simp only [step, hin, if_false]
      exact reached_lead b

theorem scan_append_ascii (hs : Reached s) (early : List UInt8) (hb : b.toNat < 0x80)
    (late : List UInt8) :
    scan s (early ++ b :: late) =
      scan s early ++ some (Char.ofNat b.toNat) :: scan .start late := by
  induction early generalizing s with
  | nil =>
    rw [List.nil_append, scan_cons, step_ascii hs hb, List.append_assoc]
    rfl
  | cons x early ih =>
    rw [List.cons_append, scan_cons, ih (reached_step hs x), scan_cons, List.append_assoc]

/-- An ASCII octet is a character, and what stands before it and after it is text on its own. -/
theorem decodeLossy_append_ascii (early : List UInt8) (hb : b.toNat < 0x80) (late : List UInt8) :
    decodeLossy (early ++ b :: late) =
      decodeLossy early ++ Char.ofNat b.toNat :: decodeLossy late := by
  simp [decodeLossy, scan_append_ascii .start early hb late]

/-- Text of ASCII octets is made of them one by one. -/
theorem decodeLossy_of_ascii (h : ∀ b ∈ bs, b.toNat < 0x80) :
    decodeLossy bs = bs.map fun b => Char.ofNat b.toNat := by
  induction bs with
  | nil => rfl
  | cons b bs ih =>
    obtain ⟨hb, hbs⟩ := List.forall_mem_cons.mp h
    rw [← List.nil_append (b :: bs), decodeLossy_append_ascii [] hb, ih hbs]
    rfl

theorem wide_of_mem_scan_nil {x : Option Char} (hx : x ∈ scan s []) : Wide x := by
  cases s with
  | start => cases hx
  | within =>
    cases List.mem_singleton.mp hx
    exact wide_none

theorem mem_of_mem_scan (hs : Reached s) {x : Option Char} (hx : x ∈ scan s bs) (hnot : ¬ Wide x) :
    ∃ b ∈ bs, b.toNat < 0x80 ∧ x = some (Char.ofNat b.toNat) := by
  induction bs generalizing s with
  | nil => exact absurd (wide_of_mem_scan_nil hx) hnot
  | cons b bs ih =>
    rw [scan_cons] at hx
    rcases List.mem_append.mp hx with hx | hx
    · rcases Nat.lt_or_ge b.toNat 0x80 with hb | hb
      · rw [step_ascii hs hb] at hx
        rcases List.mem_append.mp hx with hx | hx
        · exact absurd (wide_of_mem_scan_nil hx) hnot
        · exact ⟨b, List.mem_cons_self, hb, List.mem_singleton.mp hx⟩
      · exact absurd ((step_wide hs hb).1 x hx) hnot
    · obtain ⟨b', hb', h⟩ := ih (reached_step hs b) hx
      exact ⟨b', List.mem_cons_of_mem _ hb', h⟩

/-- An ASCII character of the text is one of the octets. -/
theorem mem_of_mem_decodeLossy (hc : c.toNat < 0x80) (h : c ∈ decodeLossy bs) :
    UInt8.ofNat c.toNat ∈ bs := by
  obtain ⟨x, hx, rfl⟩ := List.mem_map.mp h
  obtain ⟨b, hb, hascii, rfl⟩ := mem_of_mem_scan .start hx (Nat.not_le.mpr hc)
  rwa [Option.getD_some, toNat_ofNat_octet, UInt8.ofNat_toNat]

theorem ascii_of_scan (hs : Reached s) (h : ∀ x ∈ scan s bs, ¬ Wide x) :
    s = .start ∧ ∀ b ∈ bs, b.toNat < 0x80 := by
  induction bs generalizing s with
  | nil =>
    cases s with
    | start => simp
    | within => exact absurd wide_none (h none (List.mem_singleton.mpr rfl))
  | cons b bs ih =>
    rw [scan_cons] at h
    obtain ⟨hhead, htail⟩ := List.forall_mem_append.mp h
    obtain ⟨hnext, hbs⟩ := ih (reached_step hs b) htail
    rcases Nat.lt_or_ge b.toNat 0x80 with hb | hb
    · refine ⟨?_, List.forall_mem_cons.mpr ⟨hb, hbs⟩⟩
      rw [step_ascii hs hb] at hhead
      cases s with
      | start => rfl
      | within => exact absurd wide_none (hhead none (by simp [scan]))
    · obtain ⟨hwide, hsome⟩ := step_wide hs hb
      obtain ⟨x, hx⟩ := List.exists_mem_of_ne_nil _ (hsome hnext)
      exact absurd (hwide x hx) (hhead x hx)

/-- Text without another character than ASCII has no other octet. -/
theorem ascii_of_decodeLossy (h : ∀ c ∈ decodeLossy bs, c.toNat < 0x80) :
    ∀ b ∈ bs, b.toNat < 0x80 := by
  refine (ascii_of_scan .start fun x hx hwide => ?_).2
  have hshown := h _ (List.mem_map_of_mem hx)
  exact absurd hwide (Nat.not_le.mpr hshown)

end LspRelay.Proofs.LossyText
