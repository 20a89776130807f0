import LspRelay.Proofs.Rounding

namespace LspRelay.Decimal.Arithmetic
open Float.Model Float.Model.UnpackedFloat Rounding

variable {b c : Binary} {f g : Float}

section Bits

def biased (b : Binary) : ℕ := (b.exponent + 1075).toNat

/-- The bits of a number, without the first of its significand, which is always set. -/
def bits (b : Binary) : ℕ := biased b * 2 ^ 52 + b.significand % 2 ^ 52

theorem biased_bounds (h : Normal b) : 0 < biased b ∧ biased b < 2047 := by
  have := h.least
  have := h.greatest
  unfold biased
  omega

theorem ofBits?_of_bits (h : Normal b) {u : UInt64} (hu : u.toNat = bits b) :
    Binary.ofBits? u = some b := by
  obtain ⟨hpos, hlt⟩ := biased_bounds h
  obtain ⟨hlow, hhigh, hleast, -⟩ := h
  have hexponent : bits b / 2 ^ 52 % 2 ^ 11 = biased b := by
    unfold bits
    omega
  have hsignificand : bits b % 2 ^ 52 + 2 ^ 52 = b.significand := by
    unfold bits
    omega
  have hbias : (biased b : ℤ) - 1075 = b.exponent := by
    unfold biased
    omega
  simp only [Binary.ofBits?, hu, Nat.pow_eq, hexponent, hsignificand, hbias, if_neg hlt.ne,
    if_neg hpos.ne']

theorem pack_unpacked (h : Normal b) :
    UnpackedFloat.pack Format.binary64 (unpacked h) =
      packComponents Format.binary64 .positive (.ofNat 11 (biased b))
        (.ofNat 52 b.significand) := by
  have hbias : (b.exponent + Format.binary64.exponentBias +
      Format.binary64.mantissaBitsWithoutImplicit).toNat = biased b := by
    change (b.exponent + 1023 + 52).toNat = (b.exponent + 1075).toNat
    omega
  have hfinite : ¬ 2 ^ Format.binary64.exponentBits ≤ biased b + 1 := by
    have := biased_bounds h
    change ¬ 2048 ≤ _
    omega
  simp only [unpacked, UnpackedFloat.pack, hbias, if_neg hfinite, h.log2]
  rfl

theorem toNat_pack (h : Normal b) :
    (Float.Model.pack (unpacked h)).toBits.toNat = bits b := by
  have hb : biased b < 2 ^ 11 := by
    have := biased_bounds h
    omega
  have hs : b.significand % 2 ^ 52 < 2 ^ 52 := Nat.mod_lt _ (Nat.two_pow_pos 52)
  simp only [Float.Model.pack, pack_unpacked, packComponents]
  change (Sign.positive.toBitVec ++ BitVec.ofNat 11 (biased b) ++
    BitVec.ofNat 52 b.significand).toNat = _
  rw [BitVec.toNat_append, BitVec.toNat_append, BitVec.toNat_ofNat, BitVec.toNat_ofNat,
    Nat.mod_eq_of_lt hb, ← Nat.shiftLeft_add_eq_or_of_lt hs, Nat.shiftLeft_eq]
  simp [Sign.toBitVec, bits]

/-- What is packed is found again. -/
theorem unpack_pack (h : Normal b) : (Float.Model.pack (unpacked h)).unpack = unpacked h := by
  obtain ⟨hpos, hlt⟩ := biased_bounds h
  have hb : (BitVec.ofNat 11 (biased b)).toNat = biased b := by
    rw [BitVec.toNat_ofNat]
    omega
  have hinfinite : BitVec.ofNat 11 (biased b) ≠ -1#_ := by
    intro he
    rw [he] at hb
    change 2047 = biased b at hb
    omega
  have hsubnormal : BitVec.ofNat 11 (biased b) ≠ 0#_ := by
    intro he
    rw [he] at hb
    change 0 = biased b at hb
    omega
  have hm : (1#1 ++ BitVec.ofNat 52 b.significand).toNat = b.significand := by
    have hlow := h.low
    have hhigh := h.high
    have hs : b.significand % 2 ^ 52 < 2 ^ 52 := Nat.mod_lt _ (Nat.two_pow_pos 52)
    rw [BitVec.toNat_append, BitVec.toNat_ofNat, BitVec.toNat_ofNat,
      ← Nat.shiftLeft_add_eq_or_of_lt hs, Nat.shiftLeft_eq]
    omega
  have he : ((BitVec.ofNat 11 (biased b)).toNat : ℤ) -
      (Format.binary64.exponentBias + Format.binary64.mantissaBitsWithoutImplicit) =
        b.exponent := by
    have := h.least
    rw [hb]
    change ((b.exponent + 1075).toNat : ℤ) - (1023 + 52) = b.exponent
    omega
  change UnpackedFloat.unpack Format.binary64 (UnpackedFloat.pack Format.binary64 (unpacked h)) = _
  rw [pack_unpacked]
  simp only [UnpackedFloat.unpack, unpackExponent_packComponents, unpackMantissa_packComponents,
    unpackSign_packComponents, if_neg hinfinite, if_neg hsubnormal, hm, he, unpacked]
  rfl

end Bits

/-- A float that is a number with all its bits. -/
structure Denotes (f : Float) (b : Binary) : Prop where
  normal : Normal b
  toBits : f.toBits.toNat = bits b

theorem denotes_pack (h : Normal b) : Denotes (.ofModel (.pack (unpacked h))) b :=
  ⟨h, toNat_pack h⟩

theorem Denotes.unpack (h : Denotes f b) : f.toModel.unpack = unpacked h.normal := by
  have hbits : f.toBits = (Float.ofModel (.pack (unpacked h.normal))).toBits :=
    UInt64.toNat_inj.mp (h.toBits.trans (toNat_pack h.normal).symm)
  have hfloat : f = .ofModel (.pack (unpacked h.normal)) := Float.toBits_inj.mp hbits
  calc f.toModel.unpack
      = (Float.ofModel (.pack (unpacked h.normal))).toModel.unpack := by rw [← hfloat]
    _ = unpacked h.normal := unpack_pack h.normal

theorem Denotes.ofBits? (h : Denotes f b) : Binary.ofBits? f.toBits = some b :=
  ofBits?_of_bits h.normal h.toBits

def value (b : Binary) : ℚ := b.significand * 2 ^ b.exponent

/-- A product is rounded once. -/
theorem Denotes.mul (hf : Denotes f b) (hg : Denotes g c)
    (hleast : -1074 ≤ b.exponent + c.exponent) (hgreatest : b.exponent + c.exponent ≤ 916) :
    ∃ p, Denotes (f * g) p ∧ Covers p.interval (value b * value c) := by
  have hblow := hf.normal.low
  have hclow := hg.normal.low
  have hbhigh := hf.normal.high
  have hchigh := hg.normal.high
  have hproduct : 2 ^ 52 ≤ b.significand * c.significand := by nlinarith
  have hlog : (b.significand * c.significand).log2 < 106 := by
    rw [Nat.log2_lt (by omega)]
    nlinarith
  obtain ⟨p, hp, hcovers, hround⟩ :=
    roundWithAccuracy_of_holds hproduct hleast (by omega) (holds_exact _)
  have hvalue : value b * value c =
      (b.significand * c.significand : ℕ) * 2 ^ (b.exponent + c.exponent) := by
    rw [value, value, zpow_add₀ (by norm_num)]
    push_cast
    ring
  have hmul : f * g = .ofModel (.pack (unpacked hp)) := by
    change Float.ofModel (.pack (UnpackedFloat.mul Format.binary64 f.toModel.unpack
      g.toModel.unpack)) = _
    rw [hf.unpack, hg.unpack, ← hround]
    rfl
  exact ⟨p, hmul ▸ denotes_pack hp, hvalue ▸ hcovers⟩

def one : Binary := ⟨2 ^ 52, -52⟩

theorem Denotes.mul_one (hf : Denotes f b) (hg : Denotes g one) (hleast : -1022 ≤ b.exponent) :
    Denotes (f * g) b := by
  have hround := roundWithAccuracy_of_normal hf.normal (n := 52) (by omega)
  have hmul : f * g = .ofModel (.pack (unpacked hf.normal)) := by
    change Float.ofModel (.pack (UnpackedFloat.mul Format.binary64 f.toModel.unpack
      g.toModel.unpack)) = _
    rw [hf.unpack, hg.unpack]
    exact congrArg (fun u => Float.ofModel (.pack u)) hround
  exact hmul ▸ denotes_pack hf.normal

theorem holds_fraction {n d : ℕ} (hd : 0 < d) :
    Holds (.ofMantissaAndAccuracy (n / d) (accuracyOfFraction (n % d) d)) (n / d) := by
  have hd' : (0 : ℚ) < d := by exact_mod_cast hd
  have hrest : ((n % d : ℕ) : ℚ) < d := by exact_mod_cast Nat.mod_lt n hd
  have hx : 2 * (n / d : ℚ) = 2 * (n / d : ℕ) + 2 * (n % d : ℕ) / d := by
    have hn : (n : ℚ) = d * (n / d : ℕ) + (n % d : ℕ) := by
      exact_mod_cast (Nat.div_add_mod n d).symm
    field_simp
    linarith
  unfold accuracyOfFraction
  by_cases h0 : n % d = 0
  · rw [if_pos h0]
    exact holds_point.mpr (by simp [hx, h0])
  · have hpos : (0 : ℚ) < (n % d : ℕ) := by exact_mod_cast Nat.pos_of_ne_zero h0
    have hfraction : 0 < 2 * (n % d : ℕ) / (d : ℚ) := by positivity
    rw [if_neg h0]
    rcases lt_trichotomy (2 * (n % d)) d with h | h | h
    · have hless : 2 * (n % d : ℕ) / (d : ℚ) < 1 := (div_lt_one hd').mpr (by exact_mod_cast h)
      rw [compare_lt_iff_lt.mpr h]
      refine holds_gap.mpr ⟨?_, ?_⟩
      · rw [hx, Bool.toNat_false, Nat.cast_zero]
        linarith
      · rw [hx, Bool.toNat_false, Nat.cast_zero]
        linarith
    · have hhalf : 2 * (n % d : ℕ) / (d : ℚ) = 1 :=
        (div_eq_one_iff_eq hd'.ne').mpr (by exact_mod_cast h)
      rw [compare_eq_iff_eq.mpr h]
      exact holds_point.mpr (by rw [hx, hhalf, Bool.toNat_true, Nat.cast_one])
    · have hmore : 1 < 2 * (n % d : ℕ) / (d : ℚ) := (one_lt_div hd').mpr (by exact_mod_cast h)
      have hless : 2 * (n % d : ℕ) / (d : ℚ) < 2 := (div_lt_iff₀ hd').mpr (by linarith)
      rw [compare_gt_iff_gt.mpr h]
      refine holds_gap.mpr ⟨?_, ?_⟩
      · rw [hx, Bool.toNat_true, Nat.cast_one]
        linarith
      · rw [hx, Bool.toNat_true, Nat.cast_one]
        linarith

/-- A quotient is cut off after at least 53 bits. -/
theorem divCore_of_normal (hb : Normal b) (hc : Normal c)
    (hleast : -1021 ≤ b.exponent - c.exponent) :
    divCore Format.binary64 b.significand b.exponent c.significand c.exponent =
      (b.significand * 2 ^ 53 / c.significand, b.exponent - c.exponent - 53,
        accuracyOfFraction (b.significand * 2 ^ 53 % c.significand) c.significand) := by
  have htarget : min (b.exponent - c.exponent) (Format.binary64.targetExponent
      (totalExponent b.significand b.exponent - totalExponent c.significand c.exponent)) =
      b.exponent - c.exponent - 53 := by
    simp only [totalExponent, hb.log2, hc.log2, Format.targetExponent, Format.minExponent,
      Format.mantissaBits]
    omega
  have hshift : (b.exponent - c.exponent - (b.exponent - c.exponent - 53)).toNat = 53 := by
    omega
  simp only [divCore, htarget, hshift, Nat.shiftLeft_eq]

/-- A quotient is rounded once. -/
theorem Denotes.div (hf : Denotes f b) (hg : Denotes g c)
    (hleast : -1021 ≤ b.exponent - c.exponent) (hgreatest : b.exponent - c.exponent ≤ 970) :
    ∃ p, Denotes (f / g) p ∧ Covers p.interval (value b / value c) := by
  have hb := hf.normal
  have hc := hg.normal
  have hquotient : 2 ^ 52 ≤ b.significand * 2 ^ 53 / c.significand := by
    have := hb.low
    have := hc.high
    rw [Nat.le_div_iff_mul_le hc.pos]
    omega
  have hlarge : (b.significand * 2 ^ 53 / c.significand).log2 < 55 := by
    have := hb.high
    have := hc.low
    rw [Nat.log2_lt (by omega)]
    refine Nat.div_lt_of_lt_mul ?_
    omega
  obtain ⟨p, hp, hcovers, hround⟩ := roundWithAccuracy_of_holds hquotient
    (e := b.exponent - c.exponent - 53) (by omega) (by omega) (holds_fraction hc.pos)
  have hvalue : value b / value c =
      (b.significand * 2 ^ 53 : ℕ) / c.significand * 2 ^ (b.exponent - c.exponent - 53) := by
    rw [value, value, zpow_sub₀ (by norm_num), zpow_sub₀ (by norm_num)]
    push_cast
    field_simp
  have hdiv : f / g = .ofModel (.pack (unpacked hp)) := by
    change Float.ofModel (.pack (UnpackedFloat.div Format.binary64 f.toModel.unpack
      g.toModel.unpack)) = _
    rw [hf.unpack, hg.unpack, ← hround]
    simp only [unpacked, UnpackedFloat.div, divCore_of_normal hb hc hleast]
    rfl
  exact ⟨p, hdiv ▸ denotes_pack hp, hvalue ▸ hcovers⟩

/-- A whole number as a binary64 number, if there are no more than 53 bits from its first one to its
last. -/
def exactly (n : ℕ) : Binary := ⟨n * 2 ^ 52 / 2 ^ n.log2, n.log2 - 52⟩

theorem normal_exactly {n : ℕ} (hn : 0 < n) (hlog : n.log2 ≤ 1023) : Normal (exactly n) := by
  have hlow : 2 ^ n.log2 ≤ n := (Nat.le_log2 hn.ne').mp le_rfl
  have hhigh : n < 2 ^ n.log2 * 2 := (Nat.log2_lt hn.ne').mp (Nat.lt_succ_self _)
  refine ⟨?_, ?_, ?_, ?_⟩
  · rw [exactly, Nat.le_div_iff_mul_le (Nat.two_pow_pos _)]
    omega
  · refine Nat.div_lt_of_lt_mul ?_
    omega
  · simp only [exactly]
    omega
  · simp only [exactly]
    omega

theorem value_exactly {n : ℕ} (h : 2 ^ n.log2 ∣ n * 2 ^ 52) : value (exactly n) = n := by
  rw [value, exactly, Nat.cast_div h (by positivity), zpow_sub₀ (by norm_num), zpow_natCast]
  push_cast
  field_simp

theorem round_of_small {s : ℕ} (hs : 0 < s) (hlt : s < 2 ^ 53) :
    ∃ h : Normal (exactly s), UnpackedFloat.round Format.binary64 .positive s 0 = unpacked h := by
  have hlog : s.log2 ≤ 52 := Nat.lt_succ_iff.mp ((Nat.log2_lt hs.ne').mpr hlt)
  have hnormal : Normal (exactly s) := normal_exactly hs (by omega)
  have htarget : Format.binary64.targetExponent (totalExponent s 0) = (exactly s).exponent := by
    simp only [Format.targetExponent, totalExponent, Format.minExponent, Format.mantissaBits,
      exactly]
    omega
  have hshift : (0 - (exactly s).exponent).toNat = 52 - s.log2 := by
    simp only [exactly]
    omega
  have hsignificand : s <<< (52 - s.log2) = (exactly s).significand * 2 ^ 0 := by
    have hpow : 2 ^ 52 = 2 ^ (52 - s.log2) * 2 ^ s.log2 := by
      rw [← pow_add, Nat.sub_add_cancel hlog]
    rw [exactly, hpow, ← Nat.mul_assoc, Nat.mul_div_cancel _ (Nat.two_pow_pos _), Nat.shiftLeft_eq,
      pow_zero, mul_one]
  have hexponent : (0 : ℤ) - (52 - s.log2 : ℕ) = (exactly s).exponent - (0 : ℕ) := by
    simp only [exactly]
    omega
  refine ⟨hnormal, ?_⟩
  simp only [UnpackedFloat.round, htarget, decreaseExponent, hshift]
  rw [hsignificand, hexponent]
  exact roundWithAccuracy_of_normal hnormal (by have := hnormal.least; omega)

theorem denotes_ofUInt64 {s : ℕ} (hs : 0 < s) (hlt : s < 2 ^ 53) :
    Denotes s.toUInt64.toFloat (exactly s) := by
  obtain ⟨h, hround⟩ := round_of_small hs hlt
  have hn : s.toUInt64.toNat = s := by
    change s % 2 ^ 64 = s
    omega
  have hs' : compare (s : ℤ) 0 = .gt := compare_gt_iff_gt.mpr (by omega)
  have hfloat : s.toUInt64.toFloat = .ofModel (.pack (unpacked h)) := by
    change Float.ofModel (.pack (UnpackedFloat.normalize Format.binary64 (s.toUInt64.toNat : ℤ) 0
      .positive)) = _
    rw [hn, UnpackedFloat.normalize, hs', ← hround]
    rfl
  exact hfloat ▸ denotes_pack h

theorem normal_one : Normal one := by constructor <;> decide

/-- A whole number of up to 53 bits is a float without being rounded. -/
theorem denotes_toFloat {s : ℕ} (hs : 0 < s) (hlt : s < 2 ^ 53) :
    Denotes s.toFloat (exactly s) := by
  have hone : Denotes Float.exactlyRepresentablePowersOfTen[0] one :=
    ⟨normal_one, by decide +kernel⟩
  have hfloat : s.toFloat = s.toUInt64.toFloat * Float.exactlyRepresentablePowersOfTen[0] := by
    change Float.ofScientific s false 0 = _
    rw [Float.ofScientific, dif_pos ⟨hlt, Nat.zero_le _⟩]
    rfl
  rw [hfloat]
  exact (denotes_ofUInt64 hs hlt).mul_one hone (by simp only [exactly]; omega)

/-- The powers of ten that binary64 numbers can be. -/
theorem denotes_power : ∀ k < 23,
    Denotes (Float.ofScientific 1 false k) (exactly (10 ^ k)) ∧
      value (exactly (10 ^ k)) = (10 ^ k : ℕ) := by
  have hbits : ∀ k < 23, (Float.ofScientific 1 false k).toBits.toNat = bits (exactly (10 ^ k)) := by
    decide +kernel
  have hdvd : ∀ k < 23, 2 ^ (10 ^ k).log2 ∣ 10 ^ k * 2 ^ 52 ∧ (10 ^ k).log2 ≤ 1023 := by
    decide +kernel
  intro k hk
  obtain ⟨hexact, hlog⟩ := hdvd k hk
  exact ⟨⟨normal_exactly (Nat.pow_pos (by decide)) hlog, hbits k hk⟩, value_exactly hexact⟩

theorem exponent_exactly {n k : ℕ} (hn : n ≠ 0) (h : n < 2 ^ (53 + k)) :
    -52 ≤ (exactly n).exponent ∧ (exactly n).exponent ≤ k := by
  have := (Nat.log2_lt hn).mpr h
  simp only [exactly]
  omega

/-- A decimal of few digits and a small exponent is read as a number in whose interval it is. -/
theorem scaled?_of_short {s : ℕ} {e : ℤ} (hs : 0 < s) (hlt : s < 2 ^ 53) (hlow : -22 ≤ e)
    (hhigh : e ≤ 22) :
    ∃ b, Json.scaled? s e = some b ∧ Normal b ∧ Covers b.interval (s * 10 ^ e) := by
  obtain ⟨k, hk⟩ : ∃ k : ℕ, k = e.natAbs := ⟨_, rfl⟩
  obtain ⟨hpower, hten⟩ := denotes_power k (by omega)
  have hf := denotes_toFloat hs hlt
  have hvalue : value (exactly s) = s := by
    have hlog : s.log2 ≤ 52 := Nat.lt_succ_iff.mp ((Nat.log2_lt hs.ne').mpr hlt)
    exact value_exactly (Dvd.dvd.mul_left (pow_dvd_pow 2 hlog) s)
  have hes := exponent_exactly (k := 0) hs.ne' hlt
  have hek := exponent_exactly (k := 21) (n := 10 ^ k) (by positivity)
    (lt_of_le_of_lt (Nat.pow_le_pow_right (by decide) (show k ≤ 22 by omega)) (by decide))
  unfold Json.scaled?
  rw [if_neg (by omega)]
  dsimp only
  by_cases h0 : 0 ≤ e
  · obtain ⟨p, hp, hcovers⟩ := hf.mul hpower (by omega) (by omega)
    have hexponent : e = k := by omega
    rw [if_pos h0, show e.toNat = k by omega]
    refine ⟨p, hp.ofBits?, hp.normal, ?_⟩
    rw [hvalue, hten] at hcovers
    rw [hexponent, zpow_natCast]
    exact_mod_cast hcovers
  · obtain ⟨p, hp, hcovers⟩ := hf.div hpower (by omega) (by omega)
    have hexponent : e = -k := by omega
    rw [if_neg h0, if_pos (by omega), show (-e).toNat = k by omega]
    refine ⟨p, hp.ofBits?, hp.normal, ?_⟩
    rw [hvalue, hten] at hcovers
    rw [hexponent, zpow_neg, zpow_natCast, ← div_eq_mul_inv]
    exact_mod_cast hcovers

theorem scaled?_zero {e : ℤ} (hlow : -22 ≤ e) (hhigh : e ≤ 22) :
    Json.scaled? 0 e = some ⟨0, -1074⟩ := by
  have hall : ∀ k : ℕ, k < 23 →
      Json.scaled? 0 k = some ⟨0, -1074⟩ ∧ Json.scaled? 0 (-k) = some ⟨0, -1074⟩ := by
    decide +kernel
  have hk := hall e.natAbs (by omega)
  rcases Int.natAbs_eq e with he | he
  · rw [he]
    exact hk.1
  · rw [he]
    exact hk.2

end LspRelay.Decimal.Arithmetic
