import LspRelay.Proofs.FloatArithmetic

namespace LspRelay.Decimal.ShortestDigits
open Rounding Arithmetic

def digitsValue (d : Digits) : ℚ :=
  Nat.ofDigitChars 10 (d.first :: d.rest) 0 * 10 ^ (d.place - d.rest.length)

theorem ofDigitChars_append_zeros (ds : List Char) (n : ℕ) :
    Nat.ofDigitChars 10 (ds ++ List.replicate n '0') 0 = Nat.ofDigitChars 10 ds 0 * 10 ^ n := by
  rw [Nat.ofDigitChars_append, Nat.ofDigitChars_replicate_zero, Nat.mul_comm]

/-- A text of digits without the zeros at its end. -/
theorem trailing_zeros (ds : List Char) :
    ∃ n, ds = (ds.reverse.dropWhile (· = '0')).reverse ++ List.replicate n '0' := by
  have hzeros : ds.reverse.takeWhile (· = '0') =
      List.replicate (ds.reverse.takeWhile (· = '0')).length '0' := by
    rw [List.eq_replicate_iff]
    exact ⟨rfl, fun c hc => of_decide_eq_true (List.all_eq_true.mp List.all_takeWhile c hc)⟩
  refine ⟨(ds.reverse.takeWhile (· = '0')).length, ?_⟩
  rw [← List.reverse_replicate, ← hzeros, ← List.reverse_append, List.takeWhile_append_dropWhile,
    List.reverse_reverse]

theorem digitsValue_ofGrid {k : ℕ} (hk : 0 < k) (p : ℤ) :
    digitsValue (.ofGrid k p) = k * 10 ^ p := by
  obtain ⟨n, hn⟩ := trailing_zeros (Nat.toDigits 10 k)
  have hvalue := congrArg (Nat.ofDigitChars 10 · 0) hn
  have hlength := congrArg List.length hn
  simp only [Nat.ofDigitChars_ten_toDigits, ofDigitChars_append_zeros] at hvalue
  unfold Digits.ofGrid
  dsimp only
  split
  · rename_i first rest hkept
    rw [hkept] at hvalue hlength
    have hplace : p + (Nat.toDigits 10 k).length - 1 - rest.length = p + n := by
      rw [hlength]
      simp
      omega
    rw [digitsValue, hplace, hvalue, zpow_add₀ (by norm_num), zpow_natCast]
    push_cast
    ring
  · rename_i hkept
    rw [hkept] at hvalue
    simp at hvalue
    omega

theorem length_toDigits_bounds {q : ℕ} (hq : 0 < q) :
    10 ^ ((Nat.toDigits 10 q).length - 1) ≤ q ∧ q < 10 ^ (Nat.toDigits 10 q).length := by
  have hlength : 0 < (Nat.toDigits 10 q).length := Nat.length_toDigits_pos
  refine ⟨?_, (Nat.length_toDigits_le_iff (by decide) hlength).mp le_rfl⟩
  rcases Nat.eq_zero_or_pos ((Nat.toDigits 10 q).length - 1) with h0 | hpos
  · rw [h0]
    exact hq
  · by_contra hlt
    have := (Nat.length_toDigits_le_iff (by decide) hpos).mpr (not_le.mp hlt)
    omega

/-- A positive number is not below the place of its first digit and no more than one place above. -/
theorem place_bounds {n d : ℕ} (hn : 0 < n) (hd : 0 < d) :
    (10 : ℚ) ^ place n d ≤ n / d ∧ (n / d : ℚ) ≤ 10 ^ (place n d + 1) := by
  have hn' : (0 : ℚ) < n := by exact_mod_cast hn
  have hd' : (0 : ℚ) < d := by exact_mod_cast hd
  unfold place
  split
  · rename_i hle
    have hq : 0 < n / d := Nat.div_pos hle hd
    obtain ⟨hlow, hhigh⟩ := length_toDigits_bounds hq
    have hlength : 0 < (Nat.toDigits 10 (n / d)).length := Nat.length_toDigits_pos
    generalize (Nat.toDigits 10 (n / d)).length = l at *
    have hl : (l : ℤ) - 1 = (l - 1 : ℕ) := by omega
    rw [sub_add_cancel, hl, zpow_natCast, zpow_natCast, le_div_iff₀ hd', div_le_iff₀ hd']
    constructor
    · exact_mod_cast (Nat.le_div_iff_mul_le hd).mp hlow
    · have := (Nat.div_lt_iff_lt_mul hd).mp hhigh
      exact_mod_cast this.le
  · rename_i hlt
    have hq : 0 < d / n := Nat.div_pos (by omega) hn
    obtain ⟨hlow, hhigh⟩ := length_toDigits_bounds hq
    have hlength : 0 < (Nat.toDigits 10 (d / n)).length := Nat.length_toDigits_pos
    generalize (Nat.toDigits 10 (d / n)).length = l at *
    have hl : -(l : ℤ) + 1 = -(l - 1 : ℕ) := by omega
    rw [hl, zpow_neg, zpow_neg, zpow_natCast, zpow_natCast, ← one_div, ← one_div,
      div_le_div_iff₀ (by positivity) hd', div_le_div_iff₀ hd' (by positivity)]
    constructor
    · have := (Nat.div_lt_iff_lt_mul hn).mp hhigh
      rw [one_mul, mul_comm]
      exact_mod_cast this.le
    · rw [one_mul, mul_comm]
      exact_mod_cast (Nat.le_div_iff_mul_le hn).mp hlow

variable {i : Interval} {p : ℤ} {k : ℕ} {u v w : ℚ}

theorem covers_between (hu : Covers i u) (hw : Covers i w) (huv : u ≤ v) (hvw : v ≤ w) :
    Covers i v := by
  have hd : (0 : ℚ) ≤ i.denominator := Nat.cast_nonneg _
  have hlow := mul_le_mul_of_nonneg_right huv hd
  have hhigh := mul_le_mul_of_nonneg_right hvw hd
  unfold Covers at *
  split
  · simp_all only [if_true]
    exact ⟨hu.1.trans hlow, hhigh.trans hw.2⟩
  · simp_all only
    exact ⟨hu.1.trans_le hlow, hhigh.trans_lt hw.2⟩

/-- The points of a grid as the interval is asked for them. -/
theorem contains_grid :
    i.contains (k * Nat.pow 10 p.toNat) (Nat.pow 10 (-p).toNat) = true ↔ Covers i (k * 10 ^ p) := by
  have hten : (10 : ℚ) ≠ 0 := by norm_num
  have hpos : 0 < Nat.pow 10 (-p).toNat := Nat.pow_pos (by decide)
  have hpoint : ((k * Nat.pow 10 p.toNat : ℕ) : ℚ) / (Nat.pow 10 (-p).toNat : ℕ) = k * 10 ^ p := by
    simp only [Nat.pow_eq]
    push_cast
    rw [zpow_toNat hten, ← mul_assoc, mul_div_cancel_right₀ _ (by positivity)]
  rw [contains_iff hpos, hpoint]

def pointBelow (i : Interval) (p : ℤ) : ℕ :=
  i.value * Nat.pow 10 (-p).toNat / (i.denominator * Nat.pow 10 p.toNat)

theorem nearest?_eq (i : Interval) (p : ℤ) :
    ∃ upward : Bool, i.nearest? p =
      let k := pointBelow i p
      let below := i.contains (k * Nat.pow 10 p.toNat) (Nat.pow 10 (-p).toNat)
      let above := i.contains ((k + 1) * Nat.pow 10 p.toNat) (Nat.pow 10 (-p).toNat)
      if below && (!above || !upward) then some k else if above then some (k + 1) else none :=
  ⟨_, rfl⟩

theorem covers_of_nearest? (h : i.nearest? p = some k) : Covers i (k * 10 ^ p) := by
  obtain ⟨upward, heq⟩ := nearest?_eq i p
  rw [heq] at h
  dsimp only at h
  split at h
  · rename_i hbelow
    cases h
    exact contains_grid.mp (Bool.and_eq_true_iff.mp hbelow).1
  · split at h
    · rename_i habove
      cases h
      exact contains_grid.mp habove
    · cases h

theorem pointBelow_bounds (i : Interval) (p : ℤ) (hd : 0 < i.denominator) :
    (pointBelow i p : ℚ) * 10 ^ p ≤ i.value / i.denominator ∧
      (i.value / i.denominator : ℚ) < (pointBelow i p + 1 : ℕ) * 10 ^ p := by
  have hten : (10 : ℚ) ≠ 0 := by norm_num
  have hd' : (0 : ℚ) < i.denominator := by exact_mod_cast hd
  have hgrid : 0 < i.denominator * 10 ^ p.toNat := by positivity
  have hscale : (0 : ℚ) < 10 ^ (-p).toNat := by positivity
  have hlow := Nat.div_mul_le_self (i.value * 10 ^ (-p).toNat) (i.denominator * 10 ^ p.toNat)
  have hhigh := (Nat.div_lt_iff_lt_mul hgrid).mp
    (Nat.lt_succ_self (i.value * 10 ^ (-p).toNat / (i.denominator * 10 ^ p.toNat)))
  unfold pointBelow
  simp only [Nat.pow_eq]
  generalize i.value * 10 ^ (-p).toNat / (i.denominator * 10 ^ p.toNat) = q at *
  have hgrid (a : ℕ) : (a : ℚ) * 10 ^ p * i.denominator * 10 ^ (-p).toNat =
      (a * (i.denominator * 10 ^ p.toNat) : ℕ) := by
    push_cast
    rw [zpow_toNat hten p]
    ring
  constructor
  · rw [le_div_iff₀ hd', ← mul_le_mul_iff_left₀ hscale, hgrid]
    exact_mod_cast hlow
  · rw [div_lt_iff₀ hd', ← mul_lt_mul_iff_left₀ hscale, hgrid]
    exact_mod_cast hhigh

/-- Where a point of the grid is in the interval, one of the two next to the number is. -/
theorem nearest?_of_covers (hd : 0 < i.denominator) (hvalue : Covers i (i.value / i.denominator))
    (h : Covers i (k * 10 ^ p)) : ∃ k, i.nearest? p = some k := by
  obtain ⟨hlow, hhigh⟩ := pointBelow_bounds i p hd
  have hten : (0 : ℚ) ≤ 10 ^ p := by positivity
  have hnext : Covers i (pointBelow i p * 10 ^ p) ∨
      Covers i ((pointBelow i p + 1 : ℕ) * 10 ^ p) := by
    rcases Nat.lt_or_ge (pointBelow i p) k with hlt | hle
    · have hk : ((pointBelow i p + 1 : ℕ) : ℚ) ≤ k := by exact_mod_cast hlt
      exact .inr (covers_between hvalue h hhigh.le (mul_le_mul_of_nonneg_right hk hten))
    · have hk : (k : ℚ) ≤ pointBelow i p := by exact_mod_cast hle
      exact .inl (covers_between h hvalue (mul_le_mul_of_nonneg_right hk hten) hlow)
  obtain ⟨upward, heq⟩ := nearest?_eq i p
  rw [heq]
  dsimp only
  rw [← contains_grid, ← contains_grid] at hnext
  split
  · exact ⟨_, rfl⟩
  · split
    · exact ⟨_, rfl⟩
    · simp_all

variable {b : Binary}

theorem interval_value (b : Binary) :
    (b.interval.value : ℚ) / b.interval.denominator = value b ∧ 0 < b.interval.denominator := by
  have hneg : 2 - b.exponent = -(b.exponent - 2) := by omega
  have hd : (0 : ℚ) < 2 ^ (-(b.exponent - 2)).toNat := by positivity
  simp only [Binary.interval, Nat.pow_eq, hneg]
  refine ⟨?_, by positivity⟩
  rw [div_eq_iff (by exact_mod_cast hd.ne'), value]
  push_cast
  rw [zpow_toNat two_ne_zero, zpow_sub₀ two_ne_zero]
  ring

theorem value_quarters (b : Binary) : value b = (4 * b.significand : ℕ) * 2 ^ (b.exponent - 2) := by
  rw [value, zpow_sub₀ two_ne_zero]
  push_cast
  ring

theorem covers_value (h : Normal b) : Covers b.interval (value b) := by
  have hpos := h.pos
  have hbelow := (below_bounds b).1
  rw [value_quarters, covers_quarters]
  split
  · exact ⟨Nat.cast_le.mpr (by omega), Nat.cast_le.mpr (by omega)⟩
  · exact ⟨Nat.cast_lt.mpr (by omega), Nat.cast_lt.mpr (by omega)⟩

/-- What a number covers is no farther from it than half its last unit. -/
theorem covers_close (h : Normal b) (hv : Covers b.interval v) :
    |v - value b| ≤ 2 ^ b.exponent / 2 := by
  have hpos := h.pos
  have hunit : (0 : ℚ) < 2 ^ (b.exponent - 2) := by positivity
  have hhalf : (2 : ℚ) ^ b.exponent / 2 = 2 * 2 ^ (b.exponent - 2) := by
    rw [zpow_sub₀ two_ne_zero]
    ring
  obtain ⟨y, rfl⟩ : ∃ y, v = y * 2 ^ (b.exponent - 2) := ⟨v / 2 ^ (b.exponent - 2), by field_simp⟩
  rw [covers_quarters] at hv
  have hbelow := (below_bounds b).2
  have hlow : ((4 * b.significand - 2 : ℕ) : ℚ) ≤ (4 * b.significand - below b : ℕ) :=
    Nat.cast_le.mpr (by omega)
  have hy : ((4 * b.significand - 2 : ℕ) : ℚ) ≤ y ∧ y ≤ (4 * b.significand + 2 : ℕ) := by
    split at hv
    · exact ⟨hlow.trans hv.1, hv.2⟩
    · exact ⟨hlow.trans hv.1.le, hv.2.le⟩
  rw [Nat.cast_sub (by omega)] at hy
  push_cast at hy
  have hdistance : |y - 4 * b.significand| ≤ 2 := abs_le.mpr ⟨by linarith, by linarith⟩
  rw [value_quarters, hhalf, ← sub_mul, abs_mul, abs_of_pos hunit]
  push_cast
  exact mul_le_mul_of_nonneg_right hdistance hunit.le

/-- Decimals of up to 15 digits are farther apart than what one number covers. -/
theorem unit_lt_grid (h : Normal b) {p : ℤ} (hp : value b ≤ 10 ^ (p + 1)) :
    (2 : ℚ) ^ b.exponent < 10 ^ (p - 14) := by
  have hunit : (0 : ℚ) < 2 ^ b.exponent := by positivity
  have hlow : (2 ^ 52 : ℚ) ≤ b.significand := by exact_mod_cast h.low
  have hgrid : (10 : ℚ) ^ (p + 1) = 10 ^ 15 * 10 ^ (p - 14) := by
    rw [← zpow_natCast, ← zpow_add₀ (by norm_num)]
    congr 1
    omega
  rw [value, hgrid] at hp
  have := mul_le_mul_of_nonneg_right hlow hunit.le
  have hten : (0 : ℚ) < 10 ^ (p - 14) := by positivity
  linarith

/-- A decimal of up to 15 digits is no finer than the number that covers it. -/
theorem grid_of_covers (h : Normal b) {p j : ℤ} (hp : 10 ^ p ≤ value b) {s : ℕ}
    (hs : s < 10 ^ 15) (hv : Covers b.interval (s * 10 ^ j)) : p - 14 ≤ j := by
  by_contra hj
  have hunit : (0 : ℚ) < 2 ^ b.exponent := by positivity
  have hlow : (2 ^ 52 : ℚ) ≤ b.significand := by exact_mod_cast h.low
  have hten : (0 : ℚ) < 10 ^ (p - 15) := by positivity
  have hgrid : (10 : ℚ) ^ p = 10 ^ 15 * 10 ^ (p - 15) := by
    rw [← zpow_natCast, ← zpow_add₀ (by norm_num)]
    congr 1
    omega
  have hclose := (abs_le.mp (covers_close h hv)).1
  have hs' : (s : ℚ) ≤ 10 ^ 15 - 1 := by
    have : ((s + 1 : ℕ) : ℚ) ≤ (10 ^ 15 : ℕ) := Nat.cast_le.mpr hs
    push_cast at this
    linarith
  have hsmall : (s : ℚ) * 10 ^ j ≤ (10 ^ 15 - 1) * 10 ^ (p - 15) :=
    mul_le_mul hs' (zpow_le_zpow_right₀ (by norm_num) (by omega)) (by positivity) (by norm_num)
  have hvalue : 2 ^ 52 * 2 ^ b.exponent ≤ value b := mul_le_mul_of_nonneg_right hlow hunit.le
  rw [hgrid] at hp
  linarith

/-- On a grid that is wider than what a number covers there is at most one decimal for it. -/
theorem grid_point_unique (h : Normal b) {p : ℤ} (hp : (2 : ℚ) ^ b.exponent < 10 ^ p) {k l : ℕ}
    (hk : Covers b.interval (k * 10 ^ p)) (hl : Covers b.interval (l * 10 ^ p)) : k = l := by
  have hten : (0 : ℚ) < 10 ^ p := by positivity
  have hkv := abs_le.mp (covers_close h hk)
  have hlv := abs_le.mp (covers_close h hl)
  have hkl : ((k : ℚ) - l) * 10 ^ p < 1 * 10 ^ p := by linarith
  have hlk : ((l : ℚ) - k) * 10 ^ p < 1 * 10 ^ p := by linarith
  have hkl' : (k : ℚ) < (l + 1 : ℕ) := by
    push_cast
    linarith [lt_of_mul_lt_mul_right hkl hten.le]
  have hlk' : (l : ℚ) < (k + 1 : ℕ) := by
    push_cast
    linarith [lt_of_mul_lt_mul_right hlk hten.le]
  exact Nat.le_antisymm (Nat.lt_succ_iff.mp (by exact_mod_cast hkl'))
    (Nat.lt_succ_iff.mp (by exact_mod_cast hlk'))

/-- A point of a grid is a point of any finer one. -/
theorem finer_grid {p q : ℤ} (hpq : p ≤ q) (k : ℕ) :
    (k * 10 ^ q : ℚ) = (k * 10 ^ (q - p).toNat : ℕ) * 10 ^ p := by
  push_cast
  rw [mul_assoc, ← zpow_natCast, ← zpow_add₀ (by norm_num), Int.toNat_of_nonneg (by omega),
    sub_add_cancel]

/-- The shortest digits for a number are those of the decimal of up to 15 digits that it covers. -/
theorem digitsValue_shortest (h : Normal b) {s : ℕ} {j : ℤ} (hs : 0 < s) (hlt : s < 10 ^ 15)
    (hv : Covers b.interval (s * 10 ^ j)) : digitsValue b.shortest = s * 10 ^ j := by
  obtain ⟨hvalue, hd⟩ := interval_value b
  have hpos : 0 < b.interval.value := by
    have := h.pos
    simp only [Binary.interval, Nat.pow_eq]
    positivity
  have hplace := place_bounds hpos hd
  rw [hvalue] at hplace
  unfold Binary.shortest
  rw [if_neg h.pos.ne']
  dsimp only
  generalize place b.interval.value b.interval.denominator = first at hplace
  have hfine := unit_lt_grid h hplace.2
  have hgrid := grid_of_covers h hplace.1 hlt hv
  rw [finer_grid hgrid] at hv ⊢
  have ht : 0 < s * 10 ^ (j - (first - 14)).toNat := by positivity
  generalize s * 10 ^ (j - (first - 14)).toNat = t at hv ht ⊢
  -- The decimal is on the grid of 15 digits, so that one is found there at the latest.
  obtain ⟨d, hfound⟩ : ∃ d, ((List.range 15).findSome? fun n : ℕ =>
      (b.interval.nearest? (first - n)).map (Digits.ofGrid · (first - n))) = some d := by
    rw [← Option.isSome_iff_exists, List.findSome?_isSome_iff]
    obtain ⟨k, hk⟩ := nearest?_of_covers hd (hvalue ▸ covers_value h) hv
    exact ⟨14, by decide, by simp [hk]⟩
  rw [show List.range 17 = List.range 15 ++ [15, 16] from rfl, List.findSome?_append, hfound,
    Option.some_or, Option.getD_some]
  obtain ⟨n, hn, hd⟩ := List.exists_of_findSome?_eq_some hfound
  obtain ⟨k, hk, rfl⟩ := Option.map_eq_some_iff.mp hd
  have hcovers := covers_of_nearest? hk
  have hn' : first - 14 ≤ first - n := by
    have := List.mem_range.mp hn
    omega
  have hpoint := finer_grid hn' k
  rw [hpoint] at hcovers
  have hk0 : 0 < k := by
    have := grid_point_unique h hfine hcovers hv
    exact Nat.pos_of_ne_zero fun h0 => by simp [h0] at this; omega
  rw [digitsValue_ofGrid hk0, hpoint, grid_point_unique h hfine hcovers hv]

end LspRelay.Decimal.ShortestDigits
