import LspRelay.Json.Number
import Mathlib

namespace LspRelay.Decimal.Rounding
open Float.Model Float.Model.UnpackedFloat

/-- A mantissa and its round bit in half units. -/
def halves (em : ExtendedMantissa) : ℕ := 2 * em.mantissa + em.roundBit.toNat

/-- What is known of a number whose mantissa is cut off: the half unit it is at, or the two half
units it lies between. -/
def Holds (em : ExtendedMantissa) (x : ℚ) : Prop :=
  if em.stickyBit then (halves em : ℚ) < 2 * x ∧ 2 * x < halves em + 1 else 2 * x = halves em

variable {em : ExtendedMantissa} {x : ℚ}

theorem holds_point {m : ℕ} {round : Bool} :
    Holds ⟨m, round, false⟩ x ↔ 2 * x = 2 * m + round.toNat := by
  simp [Holds, halves]

theorem holds_gap {m : ℕ} {round : Bool} :
    Holds ⟨m, round, true⟩ x ↔
      2 * m + round.toNat < 2 * x ∧ 2 * x < 2 * m + round.toNat + 1 := by
  simp [Holds, halves]

theorem Holds.halves_bounds (h : Holds em x) :
    (halves em : ℚ) ≤ 2 * x ∧ 2 * x < halves em + 1 := by
  unfold Holds at h
  split at h
  · exact ⟨h.1.le, h.2⟩
  · constructor <;> linarith

theorem Holds.bounds (h : Holds em x) : (em.mantissa : ℚ) ≤ x ∧ x < em.mantissa + 1 := by
  obtain ⟨hlow, hhigh⟩ := h.halves_bounds
  have hround : (em.roundBit.toNat : ℚ) ≤ 1 := by exact_mod_cast em.roundBit.toNat_le
  have hround0 : (0 : ℚ) ≤ em.roundBit.toNat := Nat.cast_nonneg _
  unfold halves at hlow hhigh
  push_cast at hlow hhigh
  constructor <;> linarith

theorem holds_exact (m : ℕ) : Holds (.ofMantissaAndAccuracy m .exact) m := by
  simp [Holds, halves, ExtendedMantissa.ofMantissaAndAccuracy]

/-- Where a mantissa is all there is, no bit is left over. -/
theorem Holds.eq_exact (h : Holds em em.mantissa) : em = ⟨em.mantissa, false, false⟩ := by
  obtain ⟨m, round, sticky⟩ := em
  cases sticky with
  | true =>
    have hlow := (holds_gap.mp h).1
    have hround : (0 : ℚ) ≤ round.toNat := Nat.cast_nonneg _
    dsimp only at hlow
    linarith
  | false =>
    cases round with
    | false => rfl
    | true => simp [holds_point] at h

/-- The mantissa of one step is all that is told of a half unit in the next one. -/
theorem halves_shiftRightOne (em : ExtendedMantissa) : halves em.shiftRightOne = em.mantissa := by
  rcases Nat.mod_two_eq_zero_or_one em.mantissa with hr | hr <;>
    simp [halves, ExtendedMantissa.shiftRightOne, hr] <;> omega

theorem Holds.shiftRightOne (h : Holds em x) : Holds em.shiftRightOne (x / 2) := by
  obtain ⟨hlow, hhigh⟩ := h.bounds
  rw [Holds, halves_shiftRightOne, mul_div_cancel₀ x two_ne_zero]
  split
  · rename_i hsticky
    refine ⟨lt_of_le_of_ne hlow ?_, hhigh⟩
    intro hx
    rw [← hx] at h
    rw [h.eq_exact] at hsticky
    cases hsticky
  · rename_i hsticky
    simp only [ExtendedMantissa.shiftRightOne, Bool.or_eq_true, not_or, Bool.not_eq_true]
      at hsticky
    have hx : 2 * x = (2 * em.mantissa : ℕ) := by simpa [Holds, halves, hsticky] using h
    push_cast at hx
    linarith

theorem Holds.shiftRight (h : Holds em x) (n : ℕ) : Holds (em >>> n) (x / 2 ^ n) := by
  change Holds (n.repeat ExtendedMantissa.shiftRightOne em) _
  induction n with
  | zero => simpa [Nat.repeat] using h
  | succ n ih =>
    rw [pow_succ, ← div_div]
    exact ih.shiftRightOne

theorem mantissa_shiftRight (em : ExtendedMantissa) (n : ℕ) :
    (em >>> n).mantissa = em.mantissa / 2 ^ n := by
  change (n.repeat ExtendedMantissa.shiftRightOne em).mantissa = _
  induction n with
  | zero => simp [Nat.repeat]
  | succ n ih =>
    rw [pow_succ, ← Nat.div_div_eq_div_mul, ← ih]
    rfl

/-- A number to the nearest whole one, of two equally near ones to the even one. -/
structure Nearest (x : ℚ) (r : ℕ) : Prop where
  low : 2 * r - 1 ≤ 2 * x
  high : 2 * x ≤ 2 * r + 1
  odd : r % 2 = 1 → 2 * r - 1 < 2 * x ∧ 2 * x < 2 * r + 1

theorem nearest_of_lt {r : ℕ} (hlow : 2 * r - 1 < 2 * x) (hhigh : 2 * x < 2 * r + 1) :
    Nearest x r :=
  ⟨hlow.le, hhigh.le, fun _ => ⟨hlow, hhigh⟩⟩

theorem nearest_of_even {r : ℕ} (heven : r % 2 = 0) (hlow : 2 * r - 1 ≤ 2 * x)
    (hhigh : 2 * x ≤ 2 * r + 1) : Nearest x r :=
  ⟨hlow, hhigh, by omega⟩

theorem Holds.nearest (h : Holds em x) : Nearest x em.roundedMantissa := by
  obtain ⟨m, round, sticky⟩ := em
  match round, sticky with
  | false, false =>
    have hx : 2 * x = 2 * m := by simpa using holds_point.mp h
    exact nearest_of_lt (r := m) (by linarith) (by linarith)
  | false, true =>
    have hx : 2 * m < 2 * x ∧ 2 * x < 2 * m + 1 := by simpa using holds_gap.mp h
    exact nearest_of_lt (r := m) (by linarith) hx.2
  | true, false =>
    change Nearest x (m + m % 2)
    have hx : 2 * x = 2 * m + 1 := by simpa using holds_point.mp h
    rcases Nat.mod_two_eq_zero_or_one m with hm | hm
    · rw [hm]
      exact nearest_of_even (by omega) (by push_cast; linarith) (by push_cast; linarith)
    · rw [hm]
      exact nearest_of_even (by omega) (by push_cast; linarith) (by push_cast; linarith)
  | true, true =>
    have hx : 2 * m + 1 < 2 * x ∧ 2 * x < 2 * m + 1 + 1 := by simpa using holds_gap.mp h
    exact nearest_of_lt (r := m + 1) (by push_cast; linarith) (by push_cast; linarith)

theorem roundedMantissa_bounds (em : ExtendedMantissa) :
    em.mantissa ≤ em.roundedMantissa ∧ em.roundedMantissa ≤ em.mantissa + 1 := by
  obtain ⟨m, round, sticky⟩ := em
  have := Nat.mod_lt m (show 2 > 0 by decide)
  cases round <;> cases sticky <;>
    simp [ExtendedMantissa.roundedMantissa, ExtendedMantissa.accuracy,
      Accuracy.roundToNearestEven]
  omega

/-- The numbers between the two ends, and the ends too where they belong to the interval. -/
def Covers (i : Interval) (v : ℚ) : Prop :=
  if i.closed then i.low ≤ v * i.denominator ∧ v * i.denominator ≤ i.high
  else i.low < v * i.denominator ∧ v * i.denominator < i.high

theorem contains_iff {i : Interval} {n d : ℕ} (hd : 0 < d) :
    i.contains n d = true ↔ Covers i (n / d) := by
  have hd' : (0 : ℚ) < d := by exact_mod_cast hd
  have hswap : (n / d * i.denominator : ℚ) = n * i.denominator / d := by ring
  simp only [Covers, hswap, le_div_iff₀ hd', div_le_iff₀ hd', lt_div_iff₀ hd', div_lt_iff₀ hd']
  unfold Interval.contains
  cases i.closed with
  | true => simp; norm_cast
  | false => simp; norm_cast

theorem zpow_toNat {a : ℚ} (ha : a ≠ 0) (k : ℤ) : a ^ k.toNat = a ^ k * a ^ (-k).toNat := by
  rcases Int.le_total 0 k with hk | hk
  · have h0 : (-k).toNat = 0 := by omega
    rw [h0, pow_zero, mul_one, ← zpow_natCast, Int.toNat_of_nonneg hk]
  · have h0 : k.toNat = 0 := by omega
    rw [h0, pow_zero, ← zpow_natCast, Int.toNat_of_nonneg (by omega), ← zpow_add₀ ha]
    simp

/-- How many quarters of its last unit a number covers below itself: at a power of two the numbers
below are closer together. -/
def below (b : Binary) : ℕ := if b.significand = 2 ^ 52 ∧ b.exponent > -1074 then 1 else 2

theorem below_bounds (b : Binary) : 1 ≤ below b ∧ below b ≤ 2 := by
  unfold below
  split <;> decide

theorem below_of_ne {b : Binary} (h : b.significand ≠ 2 ^ 52) : below b = 2 :=
  if_neg fun hb => h hb.1

theorem below_of_eq {b : Binary} (h : b.significand = 2 ^ 52) (he : -1074 < b.exponent) :
    below b = 1 :=
  if_pos ⟨h, he⟩

theorem covers_quarters {b : Binary} {y : ℚ} :
    Covers b.interval (y * 2 ^ (b.exponent - 2)) ↔
      if b.significand % 2 = 0 then
        ((4 * b.significand - below b : ℕ) : ℚ) ≤ y ∧ y ≤ (4 * b.significand + 2 : ℕ)
      else ((4 * b.significand - below b : ℕ) : ℚ) < y ∧ y < (4 * b.significand + 2 : ℕ) := by
  have hneg : 2 - b.exponent = -(b.exponent - 2) := by omega
  have hpos : (0 : ℚ) < 2 ^ (b.exponent - 2).toNat := by positivity
  have hy : y * 2 ^ (b.exponent - 2) * 2 ^ (-(b.exponent - 2)).toNat =
      y * 2 ^ (b.exponent - 2).toNat := by
    rw [mul_assoc, ← zpow_toNat two_ne_zero]
  simp only [Covers, Binary.interval, hneg, Nat.pow_eq, Nat.cast_mul, Nat.cast_pow, Nat.cast_ofNat,
    hy, mul_le_mul_iff_left₀ hpos, mul_lt_mul_iff_left₀ hpos, decide_eq_true_eq, below]

/-- A binary64 number with all its bits. -/
structure Normal (b : Binary) : Prop where
  low : 2 ^ 52 ≤ b.significand
  high : b.significand < 2 ^ 53
  least : -1074 ≤ b.exponent
  greatest : b.exponent ≤ 971

theorem Normal.pos {b : Binary} (h : Normal b) : 0 < b.significand :=
  Nat.lt_of_lt_of_le (Nat.two_pow_pos 52) h.low

theorem Normal.log2 {b : Binary} (h : Normal b) : b.significand.log2 = 52 :=
  (Nat.log2_eq_iff h.pos.ne').mpr ⟨h.low, h.high⟩

def unpacked {b : Binary} (h : Normal b) : UnpackedFloat :=
  .finite .positive b.significand b.exponent h.pos

theorem covers_of_nearest {r : ℕ} {e : ℤ} (hr : Nearest x r) (hx : 2 ^ 52 ≤ x) :
    Covers (Binary.interval ⟨r, e⟩) (x * 2 ^ e) := by
  have hv : x * 2 ^ e = 4 * x * 2 ^ (e - 2) := by
    rw [zpow_sub₀ (by norm_num)]
    ring
  obtain ⟨hlow, hhigh, hodd⟩ := hr
  rw [hv, covers_quarters]
  by_cases hr : r = 2 ^ 52
  · have heven : r % 2 = 0 := by omega
    rw [if_pos heven]
    refine ⟨le_trans (Nat.cast_le.mpr (Nat.sub_le _ _)) ?_, ?_⟩
    · have : (r : ℚ) = 2 ^ 52 := by exact_mod_cast hr
      push_cast
      linarith
    · push_cast
      linarith
  · have hpos : 2 ≤ 4 * r := by
      have : (0 : ℚ) < r := by linarith
      have : 0 < r := by exact_mod_cast this
      omega
    rw [below_of_ne hr, Nat.cast_sub hpos]
    push_cast
    split
    · constructor <;> linarith
    · have := hodd (by omega)
      constructor <;> linarith

/-- A mantissa that is rounded to one bit more is the smallest of the next exponent. -/
theorem covers_of_carry {e : ℤ} (he : -1074 ≤ e) (hr : Nearest x (2 ^ 53)) :
    Covers (Binary.interval ⟨2 ^ 52, e + 1⟩) (x * 2 ^ e) := by
  have hv : x * 2 ^ e = 2 * x * 2 ^ (e + 1 - 2) := by
    rw [show e + 1 - 2 = e - 1 by omega, zpow_sub₀ (by norm_num)]
    ring
  have hlow := hr.low
  have hhigh := hr.high
  push_cast at hlow hhigh
  rw [hv, covers_quarters, below_of_eq rfl (by dsimp only; omega), if_pos (by norm_num)]
  constructor
  · norm_num at hlow ⊢
    linarith
  · norm_num at hhigh ⊢
    linarith

theorem targetExponent_of_large {m : ℕ} {e : ℤ} (hm : 2 ^ 52 ≤ m) (he : -1074 ≤ e) :
    Format.binary64.targetExponent (totalExponent m e) = e + (m.log2 - 52 : ℕ) := by
  have hlog : 52 ≤ m.log2 := (Nat.le_log2 (by omega)).mpr hm
  simp only [Format.targetExponent, totalExponent, Format.minExponent, Format.mantissaBits]
  omega

theorem shiftToTargetExponent_of_large {m : ℕ} {e : ℤ} (hm : 2 ^ 52 ≤ m) (he : -1074 ≤ e)
    (a : Accuracy) :
    shiftToTargetExponent Format.binary64 m e a =
      (ExtendedMantissa.ofMantissaAndAccuracy m a >>> (m.log2 - 52), e + (m.log2 - 52 : ℕ)) := by
  have hshift : (e + (m.log2 - 52 : ℕ) - e).toNat = m.log2 - 52 := by omega
  simp only [shiftToTargetExponent, targetExponent_of_large hm he, shiftToExponent, hshift]

@[simp] theorem mantissa_ofMantissaAndAccuracy (m : ℕ) (a : Accuracy) :
    (ExtendedMantissa.ofMantissaAndAccuracy m a).mantissa = m := by
  rcases a with _ | _ | _ | _ <;> rfl

/-- A rounded mantissa stays unless it has become one bit longer. -/
theorem shiftToTargetExponent_rounded {r : ℕ} {e : ℤ} (hr : 2 ^ 52 ≤ r) (he : -1074 ≤ e) :
    (r < 2 ^ 53 → shiftToTargetExponent Format.binary64 r e .exact = (⟨r, false, false⟩, e)) ∧
      (r = 2 ^ 53 →
        shiftToTargetExponent Format.binary64 r e .exact = (⟨2 ^ 52, false, false⟩, e + 1)) := by
  rw [shiftToTargetExponent_of_large hr he]
  constructor
  · intro hlt
    rw [(Nat.log2_eq_iff (by omega)).mpr ⟨hr, hlt⟩]
    exact Prod.ext rfl (add_zero e)
  · rintro rfl
    rw [Nat.log2_two_pow]
    exact Prod.ext rfl rfl

theorem roundWithAccuracy_eq {m : ℕ} {e e₁ e₂ : ℤ} {a : Accuracy} {em₁ em₂ : ExtendedMantissa}
    (h₁ : shiftToTargetExponent Format.binary64 m e a = (em₁, e₁))
    (h₂ : shiftToTargetExponent Format.binary64 em₁.roundedMantissa e₁ .exact = (em₂, e₂))
    (hpos : 0 < em₂.mantissa) (s : Sign) :
    roundWithAccuracy Format.binary64 s m e a = .finite s em₂.mantissa e₂ hpos := by
  simp only [roundWithAccuracy, h₁, h₂, hpos.ne', dif_neg, not_false_eq_true]

/-- The bits of a mantissa in front of its first 53. -/
theorem mantissa_of_large {m n : ℕ} (hn : m.log2 = 52 + n) :
    2 ^ 52 ≤ m / 2 ^ n ∧ m / 2 ^ n < 2 ^ 53 := by
  have hm : m ≠ 0 := by
    rintro rfl
    rw [Nat.log2_zero] at hn
    omega
  have hlow : 2 ^ (52 + n) ≤ m := (Nat.le_log2 hm).mp hn.ge
  have hhigh : m < 2 ^ (53 + n) := (Nat.log2_lt hm).mp (by omega)
  rw [pow_add] at hlow hhigh
  exact ⟨(Nat.le_div_iff_mul_le (by positivity)).mpr hlow,
    Nat.div_lt_of_lt_mul (by rwa [mul_comm])⟩

/-- A number with enough bits becomes the binary64 number that stands for it. -/
theorem roundWithAccuracy_of_holds {m : ℕ} {e : ℤ} {a : Accuracy} (hm : 2 ^ 52 ≤ m)
    (hleast : -1074 ≤ e) (hgreatest : e + m.log2 ≤ 1022)
    (hx : Holds (.ofMantissaAndAccuracy m a) x) :
    ∃ b, ∃ h : Normal b, Covers b.interval (x * 2 ^ e) ∧
      roundWithAccuracy Format.binary64 .positive m e a = unpacked h := by
  have hlog : 52 ≤ m.log2 := (Nat.le_log2 (by omega)).mpr hm
  obtain ⟨n, hn⟩ : ∃ n, m.log2 = 52 + n := ⟨m.log2 - 52, by omega⟩
  have hfirst := shiftToTargetExponent_of_large hm hleast a
  rw [hn, Nat.add_sub_cancel_left] at hfirst
  have hshift := hx.shiftRight n
  have hmantissa := mantissa_shiftRight (.ofMantissaAndAccuracy m a) n
  generalize ExtendedMantissa.ofMantissaAndAccuracy m a >>> n = em at hfirst hshift hmantissa
  have hvalue : x * 2 ^ e = x / 2 ^ n * 2 ^ (e + n) := by
    rw [zpow_add₀ (by norm_num), zpow_natCast]
    field_simp
  have hcut := mantissa_of_large hn
  rw [mantissa_ofMantissaAndAccuracy] at hmantissa
  rw [← hmantissa] at hcut
  have hrounded := roundedMantissa_bounds em
  have hlarge : (2 ^ 52 : ℚ) ≤ x / 2 ^ n :=
    le_trans (by exact_mod_cast hcut.1) hshift.bounds.1
  obtain ⟨hstays, hcarries⟩ :=
    shiftToTargetExponent_rounded (r := em.roundedMantissa) (e := e + n) (by omega) (by omega)
  rw [hvalue]
  by_cases hcarry : em.roundedMantissa = 2 ^ 53
  · have hb : Normal ⟨2 ^ 52, e + n + 1⟩ := by constructor <;> dsimp only <;> omega
    exact ⟨_, hb, covers_of_carry (by omega) (hcarry ▸ hshift.nearest),
      roundWithAccuracy_eq hfirst (hcarries hcarry) hb.pos .positive⟩
  · have hb : Normal ⟨em.roundedMantissa, e + n⟩ := by constructor <;> dsimp only <;> omega
    exact ⟨_, hb, covers_of_nearest hshift.nearest hlarge,
      roundWithAccuracy_eq hfirst (hstays (by omega)) hb.pos .positive⟩

/-- A number that is binary64 already stays as it is. -/
theorem roundWithAccuracy_of_normal {b : Binary} (h : Normal b) {n : ℕ}
    (hleast : -1074 ≤ b.exponent - n) :
    roundWithAccuracy Format.binary64 .positive (b.significand * 2 ^ n) (b.exponent - n) .exact =
      unpacked h := by
  have hlow := h.low
  have hhigh := h.high
  have hlog : (b.significand * 2 ^ n).log2 = 52 + n := by
    refine (Nat.log2_eq_iff (by have := h.pos; positivity)).mpr ?_
    constructor
    · rw [pow_add]
      exact Nat.mul_le_mul_right _ hlow
    · rw [show 52 + n + 1 = 53 + n by omega, pow_add 2 53]
      exact Nat.mul_lt_mul_of_pos_right hhigh (Nat.two_pow_pos n)
  have hlarge : 2 ^ 52 ≤ b.significand * 2 ^ n :=
    hlow.trans (Nat.le_mul_of_pos_right _ (Nat.two_pow_pos n))
  have hfirst := shiftToTargetExponent_of_large hlarge hleast .exact
  rw [hlog, Nat.add_sub_cancel_left, sub_add_cancel] at hfirst
  have hshift := (holds_exact (b.significand * 2 ^ n)).shiftRight n
  have hmantissa := mantissa_shiftRight (.ofMantissaAndAccuracy (b.significand * 2 ^ n) .exact) n
  rw [mantissa_ofMantissaAndAccuracy, Nat.mul_div_cancel _ (Nat.two_pow_pos n)] at hmantissa
  generalize ExtendedMantissa.ofMantissaAndAccuracy (b.significand * 2 ^ n) .exact >>> n = em
    at hfirst hshift hmantissa
  have hx : ((b.significand * 2 ^ n : ℕ) : ℚ) / 2 ^ n = em.mantissa := by
    rw [hmantissa]
    push_cast
    field_simp
  rw [hx] at hshift
  rw [hshift.eq_exact, hmantissa] at hfirst
  exact roundWithAccuracy_eq hfirst
    ((shiftToTargetExponent_rounded hlow h.least).1 hhigh) h.pos .positive

end LspRelay.Decimal.Rounding
