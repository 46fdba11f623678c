/-
# What the nearest double depends on

`Binary64.ofQuotient` and `Binary64.ofDecimal` work on whole numbers, but what they give depends only on
the number that these stand for. With the floor of the logarithm to the base two, the power of two that
makes the significand fit is known (`fittingScale_eq`); it is the scale of the double itself where the
number is that of a finite double, which is then found again (`ofQuotient_exact`).

Key definitions: `Binary64.magnitude`, `Decimal.Scaled.number`.
Key theorems: `Binary64.ofQuotient_congr`, `Binary64.ofQuotient_exact`, `Binary64.ofScaled_congr`,
`Binary64.ofScaled_exact`.
-/
import Intertype.Decimal.Shortest
import Mathlib.Data.Int.Log
import Mathlib.Data.Rat.Floor
import Mathlib.Tactic.FieldSimp
import Mathlib.Tactic.Ring

namespace Intertype

/-! ### The logarithm -/

/-- A logarithm is told by the powers around the number. -/
theorem log_eq {b : Nat} (hb : 1 < b) {r : ℚ} {m : Int} (hlow : (b : ℚ) ^ m ≤ r)
    (hhigh : r < (b : ℚ) ^ (m + 1)) : Int.log b r = m := by
  have hpos : 0 < r := lt_of_lt_of_le (zpow_pos (by exact_mod_cast (by omega : 0 < b)) m) hlow
  have h₁ := (Int.zpow_le_iff_le_log hb hpos).mp hlow
  have h₂ := (Int.lt_zpow_iff_log_lt hb hpos).mp hhigh
  omega

namespace Binary64

/-! ### Quotients -/

theorem scaled_pos {base den : Nat} (hb : 0 < base) (hd : 0 < den) (num : Nat) (e : Int) :
    0 < (scaled base num den e).2 := by
  unfold scaled
  split
  · exact hd
  · exact Nat.mul_pos hd (Nat.pow_pos hb)

/-- Scaling a quotient multiplies the number that it stands for by the power. -/
theorem scaled_ratio {base : Nat} (hb : 0 < base) (num den : Nat) (e : Int) :
    ((scaled base num den e).1 : ℚ) / (scaled base num den e).2 = (num / den : ℚ) * (base : ℚ) ^ e := by
  have hbase : (base : ℚ) ≠ 0 := by exact_mod_cast hb.ne'
  unfold scaled
  split
  · rename_i he
    obtain ⟨n, rfl⟩ := Int.eq_ofNat_of_zero_le he
    simp only [Int.toNat_natCast, Nat.pow_eq, Nat.cast_mul, Nat.cast_pow, zpow_natCast]
    ring
  · rename_i he
    obtain ⟨n, rfl⟩ : ∃ n : Nat, e = -(n : Int) := ⟨(-e).toNat, by omega⟩
    simp only [neg_neg, Int.toNat_natCast, Nat.pow_eq, Nat.cast_mul, Nat.cast_pow, zpow_neg,
      zpow_natCast]
    rw [div_mul_eq_div_div, div_eq_mul_inv _ ((base : ℚ) ^ n)]

/-- Quotients of the same number are the same when each is multiplied by the other's denominator. -/
theorem cross_of_ratio {n d n' d' : Nat} (hd : 0 < d) (hd' : 0 < d') (h : (n / d : ℚ) = n' / d') :
    n * d' = n' * d := by
  have hd₀ : (d : ℚ) ≠ 0 := by exact_mod_cast hd.ne'
  have hd₁ : (d' : ℚ) ≠ 0 := by exact_mod_cast hd'.ne'
  rw [div_eq_div_iff hd₀ hd₁] at h
  exact_mod_cast h

theorem nearest_mul_right (n d : Nat) {c : Nat} (hc : 0 < c) : nearest (n * c) (d * c) = nearest n d := by
  unfold nearest
  simp only
  rw [Nat.mul_div_mul_right _ _ hc, Nat.mul_mod_mul_right]
  have hlt : 2 * (n % d * c) < d * c ↔ 2 * (n % d) < d := by
    rw [← Nat.mul_assoc]
    exact Nat.mul_lt_mul_right hc
  have heq : 2 * (n % d * c) = d * c ↔ 2 * (n % d) = d := by
    rw [← Nat.mul_assoc]
    exact Nat.mul_left_inj hc.ne'
  simp only [hlt, heq]

/-- The nearest whole number depends only on the number. -/
theorem nearest_congr {n d n' d' : Nat} (hd : 0 < d) (hd' : 0 < d') (h : (n / d : ℚ) = n' / d') :
    nearest n d = nearest n' d' :=
  calc nearest n d = nearest (n * d') (d * d') := (nearest_mul_right n d hd').symm
    _ = nearest (n' * d) (d' * d) := by rw [cross_of_ratio hd hd' h, Nat.mul_comm d d']
    _ = nearest n' d' := nearest_mul_right n' d' hd

theorem nearest_mul_self (n : Nat) {d : Nat} (hd : 0 < d) : nearest (n * d) d = n := by
  have hmod : n * d % d = 0 := Nat.mul_mod_left n d
  unfold nearest
  simp only [hmod, Nat.mul_div_cancel n hd]
  exact if_pos (Or.inl hd)

/-! ### The scale that fits -/

/-- The number of a quotient lies between the powers that its two logarithms tell. -/
theorem ratio_bounds {num den : Nat} (hn : num ≠ 0) (hd : 0 < den) :
    (2 : ℚ) ^ ((num.log2 : Int) - den.log2 - 1) < num / den ∧
      (num / den : ℚ) < (2 : ℚ) ^ ((num.log2 : Int) - den.log2 + 1) := by
  have hden : (0 : ℚ) < den := by exact_mod_cast hd
  have hn₁ : (2 : ℚ) ^ (num.log2 : Int) ≤ num := by exact_mod_cast Nat.log2_self_le hn
  have hn₂ : (num : ℚ) < (2 : ℚ) ^ ((num.log2 : Int) + 1) := by exact_mod_cast Nat.lt_log2_self
  have hd₁ : (2 : ℚ) ^ (den.log2 : Int) ≤ den := by exact_mod_cast Nat.log2_self_le hd.ne'
  have hd₂ : (den : ℚ) < (2 : ℚ) ^ ((den.log2 : Int) + 1) := by exact_mod_cast Nat.lt_log2_self
  have hpow : ∀ a b : Int, (2 : ℚ) ^ a * (2 : ℚ) ^ b = (2 : ℚ) ^ (a + b) :=
    fun a b => (zpow_add₀ (by norm_num) a b).symm
  constructor
  · rw [lt_div_iff₀ hden]
    calc (2 : ℚ) ^ ((num.log2 : Int) - den.log2 - 1) * den
        < (2 : ℚ) ^ ((num.log2 : Int) - den.log2 - 1) * (2 : ℚ) ^ ((den.log2 : Int) + 1) :=
          mul_lt_mul_of_pos_left hd₂ (zpow_pos (by norm_num) _)
      _ = (2 : ℚ) ^ (num.log2 : Int) := by rw [hpow]; congr 1; ring
      _ ≤ num := hn₁
  · rw [div_lt_iff₀ hden]
    calc (num : ℚ) < (2 : ℚ) ^ ((num.log2 : Int) + 1) := hn₂
      _ = (2 : ℚ) ^ ((num.log2 : Int) - den.log2 + 1) * (2 : ℚ) ^ (den.log2 : Int) := by
        rw [hpow]; congr 1; ring
      _ ≤ (2 : ℚ) ^ ((num.log2 : Int) - den.log2 + 1) * den :=
        mul_le_mul_of_nonneg_left hd₁ (zpow_nonneg (by norm_num) _)

/-- The scale puts the number between `2 ^ 52` and `2 ^ 53`, unless it would fall below the least. -/
theorem fittingScale_eq {num den : Nat} (hn : num ≠ 0) (hd : 0 < den) :
    fittingScale num den = max (Int.log 2 (num / den : ℚ) - 52) (-1074) := by
  obtain ⟨hlow, hhigh⟩ := ratio_bounds hn hd
  unfold fittingScale
  simp only
  generalize (num.log2 : Int) - den.log2 = m at hlow hhigh ⊢
  have hratio := scaled_ratio Nat.two_pos num den (-(m - 53))
  have hpos := scaled_pos Nat.two_pos hd num (-(m - 53))
  generalize scaled 2 num den (-(m - 53)) = p at hratio hpos ⊢
  have hp : (0 : ℚ) < p.2 := by exact_mod_cast hpos
  -- whether the quotient is below `2 ^ 53` is whether the number is below `2 ^ m`
  have hiff : p.1 / p.2 < Nat.pow 2 53 ↔ (num / den : ℚ) < (2 : ℚ) ^ m := by
    have hcast : p.1 / p.2 < Nat.pow 2 53 ↔ (p.1 / p.2 : ℚ) < (2 : ℚ) ^ (53 : Int) := by
      rw [Nat.div_lt_iff_lt_mul hpos, div_lt_iff₀ hp]
      constructor
      · intro h
        exact_mod_cast h
      · intro h
        exact_mod_cast h
    have hsplit : (2 : ℚ) ^ (53 : Int) = (2 : ℚ) ^ m * (2 : ℚ) ^ (-(m - 53)) := by
      rw [← zpow_add₀ (by norm_num)]
      congr 1
      ring
    rw [hcast, hratio, hsplit, Nat.cast_ofNat]
    exact mul_lt_mul_iff_left₀ (zpow_pos (by norm_num) _)
  by_cases h : (num / den : ℚ) < (2 : ℚ) ^ m
  · have hlog : Int.log 2 (num / den : ℚ) = m - 1 :=
      log_eq (by omega) (by exact_mod_cast hlow.le) (by simpa using h)
    rw [if_pos (hiff.mpr h), hlog]
    congr 1
    omega
  · have hlog : Int.log 2 (num / den : ℚ) = m :=
      log_eq (by omega) (by simpa using not_lt.mp h) (by exact_mod_cast hhigh)
    rw [if_neg (fun h' => h (hiff.mp h')), hlog]
    congr 1
    omega

/-- **The nearest double depends only on the number.** -/
theorem ofQuotient_congr (negative : Bool) {n d n' d' : Nat} (hd : 0 < d) (hd' : 0 < d')
    (h : (n / d : ℚ) = n' / d') : ofQuotient negative n d = ofQuotient negative n' d' := by
  have hcross := cross_of_ratio hd hd' h
  by_cases hn : n = 0
  · have hn' : n' = 0 := by
      rw [hn, Nat.zero_mul] at hcross
      exact (Nat.mul_eq_zero.mp hcross.symm).resolve_right hd.ne'
    rw [hn, hn', ofQuotient, ofQuotient, if_pos rfl, if_pos rfl]
  · have hn' : n' ≠ 0 := by
      rintro rfl
      rw [Nat.zero_mul] at hcross
      exact hn ((Nat.mul_eq_zero.mp hcross).resolve_right hd'.ne')
    have hscale : fittingScale n d = fittingScale n' d' := by
      rw [fittingScale_eq hn hd, fittingScale_eq hn' hd', h]
    unfold ofQuotient
    rw [if_neg hn, if_neg hn', hscale]
    simp only
    congr 2
    apply nearest_congr (scaled_pos (by omega) hd n _) (scaled_pos (by omega) hd' n' _)
    rw [scaled_ratio (by omega), scaled_ratio (by omega), h]

/-! ### Finite doubles -/

/-- The magnitude of a finite double. -/
def magnitude (x : Binary64) : ℚ :=
  x.significand * (2 : ℚ) ^ x.scale

theorem magnitude_pos {x : Binary64} (h : x.significand ≠ 0) : 0 < x.magnitude :=
  mul_pos (by exact_mod_cast Nat.pos_of_ne_zero h) (zpow_pos (by norm_num) _)

theorem significand_lt (x : Binary64) : x.significand < 2 ^ 53 := by
  have hf : x.fraction.val < 2 ^ 52 := x.fraction.isLt
  unfold significand
  split
  · omega
  · show 2 ^ 52 + x.fraction.val < 2 ^ 53
    omega

/-- The scale that fits the magnitude of a double is its own. -/
theorem fittingScale_magnitude {x : Binary64} (hs : x.significand ≠ 0) :
    max (Int.log 2 x.magnitude - 52) (-1074) = x.scale := by
  have hlog : Int.log 2 x.magnitude < 53 + x.scale := by
    apply (Int.lt_zpow_iff_log_lt (by omega) (magnitude_pos hs)).mp
    have hlt : (x.significand : ℚ) < (2 : ℚ) ^ (53 : Int) := by exact_mod_cast x.significand_lt
    rw [Nat.cast_ofNat, zpow_add₀ (by norm_num)]
    exact mul_lt_mul_of_pos_right hlt (zpow_pos (by norm_num) _)
  by_cases he : x.exponent.val = 0
  · -- a double below the least normal one
    have hlog' : Int.log 2 x.magnitude < 52 + x.scale := by
      apply (Int.lt_zpow_iff_log_lt (by omega) (magnitude_pos hs)).mp
      have hlt : (x.significand : ℚ) < (2 : ℚ) ^ (52 : Int) := by
        have : x.significand < 2 ^ 52 := by
          rw [significand, if_pos he]
          exact x.fraction.isLt
        exact_mod_cast this
      rw [Nat.cast_ofNat, zpow_add₀ (by norm_num)]
      exact mul_lt_mul_of_pos_right hlt (zpow_pos (by norm_num) _)
    have hscale : x.scale = -1074 := by
      rw [scale, he]
      rfl
    omega
  · have hle : 52 + x.scale ≤ Int.log 2 x.magnitude := by
      apply (Int.zpow_le_iff_le_log (by omega) (magnitude_pos hs)).mp
      have hge : (2 : ℚ) ^ (52 : Int) ≤ x.significand := by
        have : 2 ^ 52 ≤ x.significand := by
          rw [significand, if_neg he]
          exact Nat.le_add_right _ _
        exact_mod_cast this
      rw [Nat.cast_ofNat, zpow_add₀ (by norm_num)]
      exact mul_le_mul_of_nonneg_right hge (zpow_nonneg (by norm_num) _)
    have hscale : -1074 ≤ x.scale := by
      unfold scale
      omega
    omega

/-- A finite double is put together from its scale and its significand. -/
theorem ofFields_scale {x : Binary64} (hx : x.isFinite = true) :
    ofFields x.negative ((x.scale + 1074).toNat * Nat.pow 2 52 + x.significand) = x := by
  obtain ⟨negative, exponent, fraction⟩ := x
  have he : exponent.val ≠ 2047 := by simpa [isFinite] using hx
  have hlt := exponent.isLt
  have hf := fraction.isLt
  have hbits : ((scale ⟨negative, exponent, fraction⟩ + 1074).toNat * Nat.pow 2 52 +
      significand ⟨negative, exponent, fraction⟩) = exponent.val * Nat.pow 2 52 + fraction.val := by
    unfold scale significand
    simp only
    split
    · rename_i h
      rw [h]
      rfl
    · obtain ⟨n, hn⟩ := Nat.exists_eq_succ_of_ne_zero ‹¬exponent.val = 0›
      have htoNat : (max (exponent.val : Int) 1 - 1075 + 1074).toNat = n := by omega
      rw [htoNat, hn, Nat.succ_mul, Nat.add_assoc]
  have hbound : exponent.val * Nat.pow 2 52 + fraction.val < 2047 * Nat.pow 2 52 := by
    calc exponent.val * Nat.pow 2 52 + fraction.val
        < exponent.val * Nat.pow 2 52 + Nat.pow 2 52 := Nat.add_lt_add_left hf _
      _ = (exponent.val + 1) * Nat.pow 2 52 := (Nat.succ_mul _ _).symm
      _ ≤ 2047 * Nat.pow 2 52 := Nat.mul_le_mul_right _ (by omega)
  rw [hbits, ofFields, dif_pos hbound]
  have hdiv : (exponent.val * Nat.pow 2 52 + fraction.val) / Nat.pow 2 52 = exponent.val := by
    rw [Nat.mul_comm, Nat.mul_add_div (by decide), Nat.div_eq_of_lt hf, Nat.add_zero]
  have hmod : (exponent.val * Nat.pow 2 52 + fraction.val) % Nat.pow 2 52 = fraction.val := by
    rw [Nat.mul_comm, Nat.mul_add_mod, Nat.mod_eq_of_lt hf]
  simp only [hdiv, hmod, Fin.eta]

/-- **A finite double is the nearest one to its own magnitude.** -/
theorem ofQuotient_exact {x : Binary64} (hx : x.isFinite = true) (hs : x.significand ≠ 0)
    {num den : Nat} (hd : 0 < den) (h : (num / den : ℚ) = x.magnitude) :
    ofQuotient x.negative num den = x := by
  have hn : num ≠ 0 := by
    rintro rfl
    have := magnitude_pos hs
    rw [← h, Nat.cast_zero, zero_div] at this
    exact lt_irrefl 0 this
  have hscale : fittingScale num den = x.scale := by
    rw [fittingScale_eq hn hd, h, fittingScale_magnitude hs]
  have hratio := scaled_ratio Nat.two_pos num den (-x.scale)
  have hpos := scaled_pos Nat.two_pos hd num (-x.scale)
  have hnearest : nearest (scaled 2 num den (-x.scale)).1 (scaled 2 num den (-x.scale)).2 =
      x.significand := by
    rw [← nearest_mul_self x.significand Nat.one_pos]
    apply nearest_congr hpos Nat.one_pos
    rw [hratio, h, magnitude, Nat.cast_ofNat, mul_assoc, ← zpow_add₀ (by norm_num)]
    simp
  rw [ofQuotient, if_neg hn, hscale]
  simp only [hnearest]
  exact ofFields_scale hx

end Binary64

/-! ### Decimals -/

namespace Decimal

/-- The number that a decimal stands for. -/
def Scaled.number (d : Scaled) : ℚ :=
  d.digits * (10 : ℚ) ^ d.exponent

theorem length_digitsWithin {fuel n : Nat} (h : n < fuel) :
    n < 10 ^ (digitsWithin fuel n).length ∧ (n ≠ 0 → 10 ^ (digitsWithin fuel n).length ≤ 10 * n) := by
  induction fuel generalizing n with
  | zero => omega
  | succ fuel ih =>
    unfold digitsWithin
    by_cases hn : n < 10
    · rw [if_pos hn]
      exact ⟨hn, fun h => by show 10 ^ 1 ≤ 10 * n; omega⟩
    · rw [if_neg hn, List.length_append, List.length_singleton, Nat.pow_succ]
      obtain ⟨hlt, hle⟩ := ih (n := n / 10) (by omega)
      have hle := hle (by omega)
      omega

/-- So many digits has a number that is below such a power of ten and not below the one before it. -/
theorem length_digits {n : Nat} (h : n ≠ 0) :
    10 ^ (digits n).length ≤ 10 * n ∧ n < 10 ^ (digits n).length :=
  ⟨(length_digitsWithin (Nat.lt_succ_self n)).2 h, (length_digitsWithin (Nat.lt_succ_self n)).1⟩

theorem Scaled.number_pos {d : Scaled} (h : d.digits ≠ 0) : 0 < d.number :=
  mul_pos (by exact_mod_cast Nat.pos_of_ne_zero h) (zpow_pos (by norm_num) _)

/-- The power of ten of the first digit. -/
theorem Scaled.log_number {d : Scaled} (h : d.digits ≠ 0) :
    Int.log 10 d.number + 1 = d.exponent + (Decimal.digits d.digits).length := by
  obtain ⟨hle, hlt⟩ := length_digits h
  generalize (Decimal.digits d.digits).length = width at hle hlt ⊢
  have hpow : (0 : ℚ) < (10 : ℚ) ^ d.exponent := zpow_pos (by norm_num) _
  have hlog : Int.log 10 d.number = d.exponent + width - 1 := by
    apply log_eq (by omega)
    · have hcast : (10 : ℚ) ^ (width : Int) ≤ 10 * d.digits := by exact_mod_cast hle
      have hsplit : (10 : ℚ) ^ (d.exponent + width - 1) = (10 : ℚ) ^ (width : Int) / 10 * (10 : ℚ) ^ d.exponent := by
        rw [zpow_sub₀ (by norm_num), zpow_add₀ (by norm_num), zpow_one]
        ring
      rw [Nat.cast_ofNat, hsplit]
      exact mul_le_mul_of_nonneg_right (by rw [div_le_iff₀ (by norm_num)]; linarith) hpow.le
    · have hcast : (d.digits : ℚ) < (10 : ℚ) ^ (width : Int) := by exact_mod_cast hlt
      have hsplit : (10 : ℚ) ^ (d.exponent + width - 1 + 1) = (10 : ℚ) ^ (width : Int) * (10 : ℚ) ^ d.exponent := by
        rw [← zpow_add₀ (by norm_num)]
        congr 1
        ring
      rw [Nat.cast_ofNat, hsplit]
      exact mul_lt_mul_of_pos_right hcast hpow
  omega

end Decimal

namespace Binary64

open Decimal

/-- The double that a decimal is read as, by the number that the decimal stands for. -/
theorem ofScaled_eq (negative : Bool) {d : Scaled} (h : d.digits ≠ 0) {num den : Nat} (hd : 0 < den)
    (hn : (num / den : ℚ) = d.number) : ofScaled negative d =
      if Int.log 10 d.number + 1 < -330 then ofFields negative 0
      else if Int.log 10 d.number + 1 > 310 then infinity negative
      else ofQuotient negative num den := by
  have hratio : ((scaled 10 d.digits 1 d.exponent).1 / (scaled 10 d.digits 1 d.exponent).2 : ℚ) =
      num / den := by
    rw [scaled_ratio (by omega), hn]
    simp [Scaled.number]
  rw [ofScaled, ofDecimal, if_neg h, Scaled.log_number h]
  simp only
  rw [ofQuotient_congr negative (scaled_pos (by omega) Nat.one_pos _ _) hd hratio]

/-- **What a decimal is read as depends only on the number.** -/
theorem ofScaled_congr (negative : Bool) {d d' : Scaled} (h : d.digits ≠ 0) (h' : d'.digits ≠ 0)
    (hn : d.number = d'.number) : ofScaled negative d = ofScaled negative d' := by
  have hratio := scaled_ratio (Nat.succ_pos 9) d.digits 1 d.exponent
  have hpos := scaled_pos (Nat.succ_pos 9) Nat.one_pos d.digits d.exponent
  have hnumber : ((scaled 10 d.digits 1 d.exponent).1 / (scaled 10 d.digits 1 d.exponent).2 : ℚ) =
      d.number := by
    rw [hratio]
    simp [Scaled.number]
  rw [ofScaled_eq negative h hpos hnumber, ofScaled_eq negative h' hpos (hnumber.trans hn), hn]

/-- A magnitude is in the range of decimals that are read. -/
theorem log_magnitude {x : Binary64} (hx : x.isFinite = true) (hs : x.significand ≠ 0) :
    -331 ≤ Int.log 10 x.magnitude ∧ Int.log 10 x.magnitude < 310 := by
  have hscale : -1074 ≤ x.scale ∧ x.scale ≤ 971 := by
    have he : x.exponent.val ≠ 2047 := by simpa [isFinite] using hx
    have hlt := x.exponent.isLt
    unfold scale
    omega
  constructor
  · apply (Int.zpow_le_iff_le_log (by omega) (magnitude_pos hs)).mp
    have hone : (1 : ℚ) ≤ x.significand := by exact_mod_cast Nat.pos_of_ne_zero hs
    have hpow : (2 : ℚ) ^ (1074 : Nat) ≤ (10 : ℚ) ^ (331 : Nat) := by
      have : 2 ^ 1074 ≤ 10 ^ 331 := by decide +kernel
      exact_mod_cast this
    calc ((10 : Nat) : ℚ) ^ (-331 : Int) = ((10 : ℚ) ^ (331 : Nat))⁻¹ := zpow_neg_coe_of_pos _ (by decide)
      _ ≤ ((2 : ℚ) ^ (1074 : Nat))⁻¹ := inv_anti₀ (pow_pos (by norm_num) _) hpow
      _ = (2 : ℚ) ^ (-1074 : Int) := (zpow_neg_coe_of_pos _ (by decide)).symm
      _ ≤ (2 : ℚ) ^ x.scale := zpow_le_zpow_right₀ (by norm_num) hscale.1
      _ ≤ x.magnitude := le_mul_of_one_le_left (zpow_nonneg (by norm_num) _) hone
  · apply (Int.lt_zpow_iff_log_lt (by omega) (magnitude_pos hs)).mp
    have hlt : (x.significand : ℚ) < (2 : ℚ) ^ (53 : Int) := by exact_mod_cast x.significand_lt
    have hpow : (2 : ℚ) ^ (53 : Int) * (2 : ℚ) ^ (971 : Int) ≤ ((10 : Nat) : ℚ) ^ (310 : Int) := by
      have : 2 ^ 53 * 2 ^ 971 ≤ 10 ^ 310 := by decide +kernel
      exact_mod_cast this
    calc x.magnitude < (2 : ℚ) ^ (53 : Int) * (2 : ℚ) ^ x.scale :=
          mul_lt_mul_of_pos_right hlt (zpow_pos (by norm_num) _)
      _ ≤ (2 : ℚ) ^ (53 : Int) * (2 : ℚ) ^ (971 : Int) :=
          mul_le_mul_of_nonneg_left (zpow_le_zpow_right₀ (by norm_num) hscale.2) (by norm_num)
      _ ≤ ((10 : Nat) : ℚ) ^ (310 : Int) := hpow

/-- **A decimal of the exact magnitude is read as the double.** -/
theorem ofScaled_exact {x : Binary64} (hx : x.isFinite = true) (hs : x.significand ≠ 0) {d : Scaled}
    (h : d.digits ≠ 0) (hn : d.number = x.magnitude) : ofScaled x.negative d = x := by
  obtain ⟨hlow, hhigh⟩ := log_magnitude hx hs
  have hratio := scaled_ratio Nat.two_pos x.significand 1 x.scale
  have hpos := scaled_pos Nat.two_pos Nat.one_pos x.significand x.scale
  have hmagnitude : ((scaled 2 x.significand 1 x.scale).1 / (scaled 2 x.significand 1 x.scale).2 : ℚ) =
      x.magnitude := by
    rw [hratio]
    simp [magnitude]
  rw [ofScaled_eq x.negative h hpos (hmagnitude.trans hn.symm), hn, if_neg (by omega),
    if_neg (by omega)]
  exact ofQuotient_exact hx hs hpos hmagnitude

end Binary64
end Intertype
