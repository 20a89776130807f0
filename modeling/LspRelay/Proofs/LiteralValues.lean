import LspRelay.Proofs.JsonNumerals
import LspRelay.Proofs.ShortestDigits

namespace LspRelay.Json.Literals
open Decimal Decimal.Arithmetic Decimal.ShortestDigits Numbers Numerals

def digits (l : Literal) : ℕ := Nat.ofDigitChars 10 (l.whole ++ l.fraction) 0

def explicitExponent : Option (Bool × List Char) → ℤ
  | none => 0
  | some (negative, ds) => if negative then -Nat.ofDigitChars 10 ds 0 else Nat.ofDigitChars 10 ds 0

def scale (l : Literal) : ℤ := explicitExponent l.exponent - l.fraction.length

def sign (negative : Bool) : ℚ := if negative then -1 else 1

def denoted (l : Literal) : ℚ := sign l.negative * (digits l * 10 ^ scale l)

theorem denoted_written (n : ℤ) : denoted (written n) = n := by
  have hn : ((n.natAbs : ℕ) : ℚ) = |n| := by
    rw [Nat.cast_natAbs, Int.cast_abs]
  simp only [denoted, digits, scale, written, List.append_nil, Nat.ofDigitChars_ten_toDigits,
    explicitExponent, List.length_nil, hn, sign, decide_eq_true_eq]
  split
  · rename_i hneg
    rw [abs_of_neg (by exact_mod_cast hneg)]
    simp
  · rename_i hpos
    rw [abs_of_nonneg (by exact_mod_cast not_lt.mp hpos)]
    simp

theorem ofDigitChars_zeros_append (ds : List Char) (n : ℕ) :
    Nat.ofDigitChars 10 (List.replicate n '0' ++ ds) 0 = Nat.ofDigitChars 10 ds 0 := by
  rw [Nat.ofDigitChars_append, Nat.ofDigitChars_replicate_zero, Nat.mul_zero]

theorem denoted_eq {l : Literal} {n : ℕ} {e f : ℤ} (hdigits : (digits l : ℚ) = n * 10 ^ f)
    (hscale : scale l = e - f) : denoted l = sign l.negative * (n * 10 ^ e) := by
  rw [denoted, hdigits, hscale, mul_assoc, ← zpow_add₀ (by norm_num), add_sub_cancel]

/-- However digits are laid out, what is printed denotes what they stand for. -/
theorem denoted_literalOfDigits (negative : Bool) (d : Digits) :
    denoted (literalOfDigits negative d) = sign negative * digitsValue d := by
  obtain ⟨first, rest, place⟩ := d
  unfold literalOfDigits digitsValue
  dsimp only
  generalize hds : first :: rest = ds
  have hlength : ds.length = rest.length + 1 := by rw [← hds, List.length_cons]
  split
  · rename_i hplace
    by_cases hshort : ds.length ≤ place.toNat + 1
    · rw [List.take_of_length_le hshort, List.drop_eq_nil_of_le hshort, if_pos rfl]
      refine denoted_eq (l := ⟨negative, _, _, none⟩)
        (f := (place.toNat + 1 - ds.length + 1 : ℕ)) ?_ ?_
      · rw [zpow_natCast]
        have hzeros : ds ++ List.replicate (place.toNat + 1 - ds.length) '0' ++ ['0'] =
            ds ++ List.replicate (place.toNat + 1 - ds.length + 1) '0' := by
          rw [List.append_assoc, List.replicate_succ']
        rw [digits, hzeros, ofDigitChars_append_zeros]
        push_cast
        rfl
      · simp only [scale, explicitExponent, List.length_singleton]
        omega
    · rw [if_neg (by simpa using hshort)]
      refine denoted_eq (l := ⟨negative, _, _, none⟩) (f := 0) ?_ ?_
      · have hnone : place.toNat + 1 - ds.length = 0 := by omega
        rw [zpow_zero, mul_one, digits, hnone, List.replicate_zero, List.append_nil,
          List.take_append_drop]
      · simp only [scale, explicitExponent, List.length_drop]
        omega
  · split
    · rename_i hplace
      refine denoted_eq (l := ⟨negative, ['0'], _, none⟩) (f := 0) ?_ ?_
      · rw [zpow_zero, mul_one, digits, ← List.append_assoc]
        exact congrArg _ (ofDigitChars_zeros_append ds ((-place).toNat - 1 + 1))
      · simp only [scale, explicitExponent, List.length_append, List.length_replicate]
        omega
    · refine denoted_eq (l := ⟨negative, [first], rest, some _⟩) (f := 0) ?_ ?_
      · rw [zpow_zero, mul_one, ← hds]
        rfl
      · simp only [scale, explicitExponent, Nat.ofDigitChars_ten_toDigits, decide_eq_true_eq]
        split <;> omega

theorem le_ofDigitChars (cs : List Char) (s : ℕ) : s ≤ Nat.ofDigitChars 10 cs s := by
  rw [Nat.ofDigitChars_eq_ofDigitChars_zero]
  exact Nat.le_add_right_of_le (Nat.le_mul_of_pos_left s (Nat.pow_pos (by decide)))

/-- Digits that fit are all taken. -/
theorem accumulate_of_lt {cs : List Char} {s : ℕ} (h : Nat.ofDigitChars 10 cs s < 2 ^ 64) :
    accumulate s cs = (Nat.ofDigitChars 10 cs s, []) := by
  induction cs generalizing s with
  | nil => rfl
  | cons c cs ih =>
    rw [Nat.ofDigitChars_cons] at h ⊢
    have hfits := (le_ofDigitChars cs _).trans_lt h
    rw [accumulate, Nat.pow_eq, if_pos hfits, ih h]

/-- A decimal of up to 15 digits and with a power of ten that binary64 numbers can be. -/
structure IsShort (l : Literal) : Prop where
  few : digits l < 10 ^ 15
  near : -22 ≤ scale l ∧ scale l ≤ 22
  small : ∀ e ∈ l.exponent, Nat.ofDigitChars 10 e.2 0 < 2 ^ 31

variable {l : Literal}

theorem IsShort.scientific (h : IsShort l) :
    l.scientific = (digits l, -(l.fraction.length : ℤ)) := by
  have hfew := h.few
  rw [digits, Nat.ofDigitChars_append] at hfew
  have hwhole := le_ofDigitChars l.fraction (Nat.ofDigitChars 10 l.whole 0)
  have hall : Nat.ofDigitChars 10 l.fraction (Nat.ofDigitChars 10 l.whole 0) < 2 ^ 64 := by omega
  simp only [Literal.scientific, accumulate_of_lt (hwhole.trans_lt hall), accumulate_of_lt hall]
  simp [digits, Nat.ofDigitChars_append]

theorem IsShort.magnitude? (h : IsShort l) :
    l.magnitude? = scaled? (digits l) (scale l) := by
  have hsmall := h.small
  unfold Literal.magnitude? scale explicitExponent
  rw [h.scientific]
  dsimp only
  generalize l.exponent = exponent at *
  match exponent with
  | none => simp
  | some (negative, ds) =>
    have hfits : Nat.ofDigitChars 10 ds 0 < 2 ^ 31 := hsmall _ rfl
    simp only [Nat.pow_eq, if_pos hfits]
    cases negative <;> simp <;> congr 1 <;> omega

/-- The literal that another one is read and printed as, if it stands for a number. -/
def reprinted? (l : Literal) : Option Literal := l.number?.map literalOf

/-- A literal that no rounding can change: an integer of 64 bits or a short decimal. -/
def IsExact (l : Literal) : Prop := IsInteger l ∨ IsShort l

theorem denoted_of_plain (h : l.fraction = [] ∧ l.exponent = none) :
    denoted l = sign l.negative * Nat.ofDigitChars 10 l.whole 0 := by
  simp [denoted, digits, scale, explicitExponent, h.1, h.2]

/-- A number is what its literal denotes where it is whole, and else what it was scaled to. -/
theorem number?_cases {m : Number} (h : l.number? = some m) :
    (∃ n : ℤ, m = .int n ∧ denoted l = n) ∨
      ∃ b, m = .float l.negative b ∧ l.magnitude? = some b := by
  unfold Literal.number? at h
  dsimp only at h
  split at h
  · rename_i hplain
    cases h
    exact .inl ⟨_, rfl, by simp [denoted_of_plain hplain.1, hplain.2.1, sign]⟩
  · split at h
    · rename_i hplain
      cases h
      exact .inl ⟨_, rfl, by simp [denoted_of_plain hplain.1, hplain.2.1, sign]⟩
    · obtain ⟨b, hb, rfl⟩ := Option.map_eq_some_iff.mp h
      exact .inr ⟨b, rfl, hb⟩

theorem digitsValue_of_magnitude? (h : IsShort l) {b : Binary} (hb : l.magnitude? = some b) :
    digitsValue b.shortest = digits l * 10 ^ scale l := by
  rw [h.magnitude?] at hb
  rcases Nat.eq_zero_or_pos (digits l) with h0 | hpos
  · rw [h0, scaled?_zero h.near.1 h.near.2] at hb
    cases hb
    simp [Binary.shortest, digitsValue, Digits.zero, h0, Nat.ofDigitChars_cons]
  · have hlt : digits l < 2 ^ 53 := h.few.trans (by norm_num)
    obtain ⟨c, hc, hnormal, hcovers⟩ := scaled?_of_short hpos hlt h.near.1 h.near.2
    rw [hc] at hb
    cases hb
    exact digitsValue_shortest hnormal hpos h.few hcovers

/-- What an exact literal is printed as denotes the same. -/
theorem denoted_reprinted {l' : Literal} (h : IsExact l) (hl : reprinted? l = some l') :
    denoted l' = denoted l := by
  obtain ⟨m, hm, rfl⟩ := Option.map_eq_some_iff.mp hl
  rcases number?_cases hm with ⟨n, rfl, hn⟩ | ⟨b, rfl, hb⟩
  · rw [literalOf, denoted_written, hn]
  · rcases h with hinteger | hshort
    · obtain ⟨n, -, hn⟩ := hinteger.number?
      cases hm.symm.trans hn
    · rw [literalOf, denoted_literalOfDigits, digitsValue_of_magnitude? hshort hb, denoted]

end LspRelay.Json.Literals
