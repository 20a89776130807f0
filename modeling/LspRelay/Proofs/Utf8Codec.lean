import LspRelay.Text.Utf8

namespace LspRelay.Proofs.Utf8Codec
open Utf8

theorem lead_ofNat {n : Nat} (h : n < 256) :
    lead (UInt8.ofNat n) =
      if n < 0x80 then ([some (Char.ofNat n)], .start)
      else if n < 0xC2 then ([none], .start)
      else if n < 0xE0 then ([], .within 0 0x80 0xBF (n - 0xC0))
      else if n = 0xE0 then ([], .within 1 0xA0 0xBF 0x0)
      else if n = 0xED then ([], .within 1 0x80 0x9F 0xD)
      else if n < 0xF0 then ([], .within 1 0x80 0xBF (n - 0xE0))
      else if n = 0xF0 then ([], .within 2 0x90 0xBF 0x0)
      else if n < 0xF4 then ([], .within 2 0x80 0xBF (n - 0xF0))
      else if n = 0xF4 then ([], .within 2 0x80 0x8F 0x4)
      else ([none], .start) := by
  have hn : (UInt8.ofNat n).toNat = n := UInt8.toNat_ofNat_of_lt' h
  simp only [lead, UInt8.lt_iff_toNat_lt, ← UInt8.toNat_inj, hn, UInt8.reduceToNat]

/-- A sequence of three octets begins so that its second octet lies within the bounds: of what the
bounds keep out, overlong forms and surrogates, there is nothing. -/
theorem lead_three {v : Nat} (hl : 0x800 ≤ v) (hh : v < 0x10000) (hs : v < 0xD800 ∨ 0xDFFF < v) :
    ∃ low high, lead (UInt8.ofNat (v / 4096 % 0x10 + 0xe0)) = ([], .within 1 low high (v / 4096)) ∧
      low.toNat ≤ v / 64 % 64 + 0x80 ∧ v / 64 % 64 + 0x80 ≤ high.toNat := by
  rw [lead_ofNat (by omega)]
  by_cases h0 : v / 4096 = 0
  · exact ⟨0xA0, 0xBF, by simp [h0], by simp only [UInt8.reduceToNat]; omega,
      by simp only [UInt8.reduceToNat]; omega⟩
  · by_cases hd : v / 4096 = 13
    · exact ⟨0x80, 0x9F, by simp [hd], by simp only [UInt8.reduceToNat]; omega,
        by simp only [UInt8.reduceToNat]; omega⟩
    · refine ⟨0x80, 0xBF, ?_, by simp only [UInt8.reduceToNat]; omega,
        by simp only [UInt8.reduceToNat]; omega⟩
      rw [if_neg (by omega), if_neg (by omega), if_neg (by omega), if_neg (by omega),
        if_neg (by omega), if_pos (by omega),
        show v / 4096 % 0x10 + 0xe0 - 0xE0 = v / 4096 by omega]

theorem lead_four {v : Nat} (hl : 0x10000 ≤ v) (hh : v < 0x110000) :
    ∃ low high, lead (UInt8.ofNat (v / 262144 % 0x08 + 0xf0)) =
        ([], .within 2 low high (v / 262144)) ∧
      low.toNat ≤ v / 4096 % 64 + 0x80 ∧ v / 4096 % 64 + 0x80 ≤ high.toNat := by
  rw [lead_ofNat (by omega)]
  by_cases h0 : v / 262144 = 0
  · exact ⟨0x90, 0xBF, by simp [h0], by simp only [UInt8.reduceToNat]; omega,
      by simp only [UInt8.reduceToNat]; omega⟩
  · by_cases hf : v / 262144 = 4
    · exact ⟨0x80, 0x8F, by simp [hf], by simp only [UInt8.reduceToNat]; omega,
        by simp only [UInt8.reduceToNat]; omega⟩
    · refine ⟨0x80, 0xBF, ?_, by simp only [UInt8.reduceToNat]; omega,
        by simp only [UInt8.reduceToNat]; omega⟩
      rw [if_neg (by omega), if_neg (by omega), if_neg (by omega), if_neg (by omega),
        if_neg (by omega), if_neg (by omega), if_neg (by omega), if_pos (by omega),
        show v / 262144 % 0x08 + 0xf0 - 0xF0 = v / 262144 by omega]

/-- An octet within its bounds adds six bits. -/
theorem step_within {after bits n : Nat} {low high : UInt8} (hn : n < 64)
    (hl : low.toNat ≤ n + 0x80) (hh : n + 0x80 ≤ high.toNat) :
    step (.within after low high bits) (UInt8.ofNat (n + 0x80)) =
      match after with
      | 0 => ([some (Char.ofNat (bits * 64 + n))], .start)
      | more + 1 => ([], .within more 0x80 0xBF (bits * 64 + n)) := by
  have ht : (UInt8.ofNat (n + 0x80)).toNat = n + 0x80 :=
    UInt8.toNat_ofNat_of_lt' (by change _ < 256; omega)
  have hin : low ≤ UInt8.ofNat (n + 0x80) ∧ UInt8.ofNat (n + 0x80) ≤ high := by
    rw [UInt8.le_iff_toNat_le, UInt8.le_iff_toNat_le, ht]
    exact ⟨hl, hh⟩
  cases after <;> simp only [step, hin, and_self, if_true, ht, Nat.add_sub_cancel]

theorem step_last {bits n : Nat} (hn : n < 64) :
    step (.within 0 0x80 0xBF bits) (UInt8.ofNat (n + 0x80)) =
      ([some (Char.ofNat (bits * 64 + n))], .start) :=
  step_within hn (by simp only [UInt8.reduceToNat]; omega) (by simp only [UInt8.reduceToNat]; omega)

theorem step_more {more bits n : Nat} (hn : n < 64) :
    step (.within (more + 1) 0x80 0xBF bits) (UInt8.ofNat (n + 0x80)) =
      ([], .within more 0x80 0xBF (bits * 64 + n)) :=
  step_within hn (by simp only [UInt8.reduceToNat]; omega) (by simp only [UInt8.reduceToNat]; omega)

theorem scan_cons (s : State) (b : UInt8) (bs : List UInt8) :
    scan s (b :: bs) = (step s b).1 ++ scan (step s b).2 bs := by
  cases s <;> rfl

theorem step_start (b : UInt8) : step .start b = lead b := rfl

/-- One character after another comes out of the scan. -/
theorem scan_utf8EncodeChar (c : Char) (bs : List UInt8) :
    scan .start (String.utf8EncodeChar c ++ bs) = some c :: scan .start bs := by
  have hc : Char.ofNat c.val.toNat = c := Char.ofNat_toNat c
  have hv : c.val.toNat < 0xD800 ∨ 0xDFFF < c.val.toNat ∧ c.val.toNat < 0x110000 := c.valid
  unfold String.utf8EncodeChar
  generalize c.val.toNat = v at hc hv
  dsimp only
  -- From here on, one case for each number of octets.
  split
  · simp only [List.cons_append, List.nil_append, scan_cons, step_start]
    rw [lead_ofNat (by omega), if_pos (by omega), hc]
    rfl
  · split
    · simp only [List.cons_append, List.nil_append, scan_cons, step_start]
      rw [lead_ofNat (by omega), if_neg (by omega), if_neg (by omega), if_pos (by omega),
        step_last (by omega), ← hc]
      have he : v / 64 % 0x20 * 64 + v % 0x40 = v := by omega
      simp [he]
    · split
      · obtain ⟨low, high, hlead, hlow, hhigh⟩ :=
          lead_three (v := v) (by omega) (by omega) (by omega)
        have he : (v / 4096 * 64 + v / 64 % 64) * 64 + v % 0x40 = v := by omega
        simp only [List.cons_append, List.nil_append, scan_cons, step_start, hlead]
        rw [step_within (by omega) hlow hhigh]
        simp only [step_last (Nat.mod_lt v (show 0 < 64 by omega)), he, hc, List.nil_append,
          List.cons_append]
      · obtain ⟨low, high, hlead, hlow, hhigh⟩ := lead_four (v := v) (by omega) (by omega)
        have he : ((v / 262144 * 64 + v / 4096 % 64) * 64 + v / 64 % 64) * 64 + v % 0x40 = v := by
          omega
        simp only [List.cons_append, List.nil_append, scan_cons, step_start, hlead]
        rw [step_within (by omega) hlow hhigh]
        simp only [step_more (Nat.mod_lt (v / 64) (show 0 < 64 by omega)),
          step_last (Nat.mod_lt v (show 0 < 64 by omega)), he, hc, List.nil_append,
          List.cons_append]

theorem scan_encode (cs : List Char) : scan .start (encode cs) = cs.map some := by
  induction cs with
  | nil => rfl
  | cons c cs ih => rw [encode, List.flatMap_cons, scan_utf8EncodeChar, ← encode, ih, List.map_cons]

theorem decode?_encode (cs : List Char) : decode? (encode cs) = some cs := by
  rw [decode?, scan_encode]
  induction cs with
  | nil => rfl
  | cons c cs ih => simp [ih]

theorem decodeLossy_encode (cs : List Char) : decodeLossy (encode cs) = cs := by
  simp [decodeLossy, scan_encode, Function.comp_def]

end LspRelay.Proofs.Utf8Codec
