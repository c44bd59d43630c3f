import TouchProbe.Proofs.FloatBits
import TouchProbe.Number.Shortest

/-!
Rounding gives back the float in whose interval a ratio lies.  The interval of a float, which the
search for its shortest decimal works with, reaches half way to its neighbours; so every decimal
of that interval is read as this float.
-/

namespace TouchProbe.Number

theorem zpow_eq_div (b : ℚ) (e : ℤ) : b ^ e = b ^ e.toNat / b ^ (-e).toNat := by
  rcases le_total 0 e with h | h
  · have hz : (-e).toNat = 0 := by omega
    have he : ((e.toNat : ℕ) : ℤ) = e := by omega
    rw [hz, pow_zero, div_one, ← zpow_natCast, he]
  · have hz : e.toNat = 0 := by omega
    have he : (((-e).toNat : ℕ) : ℤ) = -e := by omega
    rw [hz, pow_zero, one_div, ← zpow_natCast, he, zpow_neg, inv_inv]

/-! ### Rounded division -/

theorem roundDiv_eq {num den k : ℕ} (hden : 0 < den)
    (hlow : 2 * k * den ≤ 2 * num + den) (hhigh : 2 * num ≤ 2 * k * den + den)
    (htie : k % 2 = 0 ∨ (2 * k * den < 2 * num + den ∧ 2 * num < 2 * k * den + den)) :
    roundDiv num den = k := by
  have hdiv : den * (num / den) + num % den = num := Nat.div_add_mod num den
  have hmod : num % den < den := Nat.mod_lt num hden
  simp only [roundDiv]
  generalize num / den = q at *
  generalize num % den = r at *
  subst hdiv
  have hge : q ≤ k := by
    by_contra hlt
    have : (k + 1) * den ≤ q * den := Nat.mul_le_mul_right den (by omega)
    nlinarith
  have hle : k ≤ q + 1 := by
    by_contra hlt
    have : (q + 2) * den ≤ k * den := Nat.mul_le_mul_right den (by omega)
    nlinarith
  obtain rfl | rfl : k = q ∨ k = q + 1 := by omega
  · have hr : 2 * r ≤ den := by nlinarith
    rcases htie with heven | ⟨-, hlt⟩
    · split
      · rfl
      · rw [if_neg (by omega), heven, Nat.add_zero]
    · rw [if_pos (by nlinarith)]
  · have hr : den ≤ 2 * r := by nlinarith
    rw [if_neg (by omega)]
    rcases htie with heven | ⟨hlt, -⟩
    · split
      · rfl
      · omega
    · rw [if_pos (by nlinarith)]

/-- A ratio at most one half from a whole number is rounded to it, an odd one only where the ratio
is closer than that. -/
theorem roundDiv_of_near {num den k : ℕ} (hden : 0 < den)
    (hlow : (k : ℚ) - 1 / 2 ≤ num / den) (hhigh : (num : ℚ) / den ≤ k + 1 / 2)
    (htie : k % 2 = 0 ∨ ((k : ℚ) - 1 / 2 < num / den ∧ (num : ℚ) / den < k + 1 / 2)) :
    roundDiv num den = k := by
  have hpos : (0 : ℚ) < den := by exact_mod_cast hden
  refine roundDiv_eq hden ?_ ?_ ?_
  · rw [le_div_iff₀ hpos] at hlow
    have : (2 * k * den : ℚ) ≤ 2 * num + den := by linarith
    exact_mod_cast this
  · rw [div_le_iff₀ hpos] at hhigh
    have : (2 * num : ℚ) ≤ 2 * k * den + den := by linarith
    exact_mod_cast this
  · refine htie.imp_right fun ⟨h1, h2⟩ => ?_
    rw [lt_div_iff₀ hpos] at h1
    rw [div_lt_iff₀ hpos] at h2
    have h3 : (2 * k * den : ℚ) < 2 * num + den := by linarith
    have h4 : (2 * num : ℚ) < 2 * k * den + den := by linarith
    exact ⟨by exact_mod_cast h3, by exact_mod_cast h4⟩

/-! ### The binade of a ratio -/

theorem inUnits_pos {num den : ℕ} (hden : 0 < den) (e : ℤ) : 0 < (inUnits num den e).2 :=
  Nat.mul_pos hden (Nat.two_pow_pos _)

theorem inUnits_div (num den : ℕ) (e : ℤ) :
    ((inUnits num den e).1 : ℚ) / (inUnits num den e).2 = num / den / 2 ^ e := by
  rw [zpow_eq_div]
  simp only [inUnits]
  push_cast
  field_simp

theorem two_zpow_le_iff {num den : ℕ} (hden : 0 < den) (e : ℤ) :
    (inUnits num den e).2 ≤ (inUnits num den e).1 ↔ (2 : ℚ) ^ e ≤ num / den := by
  have hpos : (0 : ℚ) < (inUnits num den e).2 := by exact_mod_cast inUnits_pos hden e
  have htwo : (0 : ℚ) < 2 ^ e := by positivity
  rw [← one_le_div htwo, ← inUnits_div, one_le_div hpos]
  exact_mod_cast Iff.rfl

theorem floorLog_spec {num den : ℕ} (hnum : 0 < num) (hden : 0 < den) :
    (2 : ℚ) ^ floorLog num den ≤ num / den ∧ (num : ℚ) / den < 2 ^ (floorLog num den + 1) := by
  have hd : (0 : ℚ) < den := by exact_mod_cast hden
  have hn1 : (2 : ℚ) ^ (num.log2 : ℤ) ≤ num := by
    rw [zpow_natCast]
    exact_mod_cast Nat.log2_self_le hnum.ne'
  have hn2 : (num : ℚ) < 2 ^ ((num.log2 : ℤ) + 1) := by
    have := Nat.lt_log2_self (n := num)
    exact_mod_cast this
  have hd1 : (2 : ℚ) ^ (den.log2 : ℤ) ≤ den := by
    rw [zpow_natCast]
    exact_mod_cast Nat.log2_self_le hden.ne'
  have hd2 : (den : ℚ) < 2 ^ ((den.log2 : ℤ) + 1) := by
    have := Nat.lt_log2_self (n := den)
    exact_mod_cast this
  have hlow : (2 : ℚ) ^ ((num.log2 : ℤ) - den.log2 - 1) ≤ num / den := by
    rw [le_div_iff₀ hd]
    calc (2 : ℚ) ^ ((num.log2 : ℤ) - den.log2 - 1) * den
        ≤ 2 ^ ((num.log2 : ℤ) - den.log2 - 1) * 2 ^ ((den.log2 : ℤ) + 1) := by gcongr
      _ = 2 ^ (num.log2 : ℤ) := by rw [← zpow_add₀ two_ne_zero]; congr 1; ring
      _ ≤ num := hn1
  have hhigh : (num : ℚ) / den < 2 ^ ((num.log2 : ℤ) - den.log2 + 1) := by
    rw [div_lt_iff₀ hd]
    calc (num : ℚ) < 2 ^ ((num.log2 : ℤ) + 1) := hn2
      _ = 2 ^ ((num.log2 : ℤ) - den.log2 + 1) * 2 ^ (den.log2 : ℤ) := by
        rw [← zpow_add₀ two_ne_zero]; congr 1; ring
      _ ≤ 2 ^ ((num.log2 : ℤ) - den.log2 + 1) * den := by gcongr
  simp only [floorLog]
  split
  · rename_i h
    exact ⟨(two_zpow_le_iff hden _).1 h, hhigh⟩
  · rename_i h
    rw [two_zpow_le_iff hden, not_le] at h
    rw [sub_add_cancel]
    exact ⟨hlow, h⟩

theorem le_floorLog_iff {num den : ℕ} (hnum : 0 < num) (hden : 0 < den) (k : ℤ) :
    k ≤ floorLog num den ↔ (2 : ℚ) ^ k ≤ num / den := by
  obtain ⟨hfloor, hceil⟩ := floorLog_spec hnum hden
  constructor
  · intro h
    exact (zpow_le_zpow_right₀ one_le_two h).trans hfloor
  · intro h
    exact Int.lt_add_one_iff.1 ((zpow_lt_zpow_iff_right₀ one_lt_two).1 (h.trans_lt hceil))

theorem floorLog_lt_iff {num den : ℕ} (hnum : 0 < num) (hden : 0 < den) (k : ℤ) :
    floorLog num den < k ↔ (num : ℚ) / den < 2 ^ k := by
  rw [← not_le, le_floorLog_iff hnum hden, not_le]

/-! ### Intervals of floats -/

def Interval.Contains (i : Interval) (v : ℚ) : Prop :=
  (i.low * 2 ^ i.unit ≤ v ∧ v ≤ i.high * 2 ^ i.unit) ∧
    (i.closed = true ∨ (i.low * 2 ^ i.unit < v ∧ v < i.high * 2 ^ i.unit))

theorem gridFactors_pos (t unit : ℤ) : 0 < (gridFactors t unit).2 :=
  Nat.mul_pos (Nat.two_pow_pos _) (Nat.pow_pos (by decide))

theorem gridFactors_div (t unit : ℤ) :
    ((gridFactors t unit).1 : ℚ) / (gridFactors t unit).2 = 10 ^ t / 2 ^ unit := by
  rw [zpow_eq_div 2, zpow_eq_div 10]
  simp only [gridFactors]
  push_cast
  field_simp

theorem gridFactors_le_iff (t unit : ℤ) (n d : ℕ) :
    n * (gridFactors t unit).2 ≤ d * (gridFactors t unit).1 ↔
      (n * 2 ^ unit : ℚ) ≤ d * 10 ^ t := by
  have hpos : (0 : ℚ) < (gridFactors t unit).2 := by exact_mod_cast gridFactors_pos t unit
  rw [← Nat.cast_le (α := ℚ), Nat.cast_mul, Nat.cast_mul, ← le_div_iff₀ hpos, mul_div_assoc,
    gridFactors_div, ← mul_div_assoc, le_div_iff₀ (by positivity)]

theorem gridFactors_ge_iff (t unit : ℤ) (n d : ℕ) :
    d * (gridFactors t unit).1 ≤ n * (gridFactors t unit).2 ↔
      (d * 10 ^ t : ℚ) ≤ n * 2 ^ unit := by
  have hpos : (0 : ℚ) < (gridFactors t unit).2 := by exact_mod_cast gridFactors_pos t unit
  rw [← Nat.cast_le (α := ℚ), Nat.cast_mul, Nat.cast_mul, ← div_le_iff₀ hpos, mul_div_assoc,
    gridFactors_div, ← mul_div_assoc, div_le_iff₀ (by positivity)]

theorem Interval.holds_iff (i : Interval) (t : ℤ) (d : ℕ) :
    i.holds t d = true ↔ i.Contains (d * 10 ^ t) := by
  have h1 := gridFactors_le_iff t i.unit i.low d
  have h2 := gridFactors_ge_iff t i.unit i.high d
  have h3 := gridFactors_ge_iff t i.unit i.low d
  have h4 := gridFactors_le_iff t i.unit i.high d
  simp only [Interval.holds, Interval.Contains]
  split
  · rename_i hc
    simp only [Bool.and_eq_true, decide_eq_true_eq, h1, h2, hc, true_or, and_true]
  · rename_i hc
    simp only [Bool.and_eq_true, decide_eq_true_eq, ← not_le, h3, h4, hc, false_or,
      Bool.false_eq_true]
    constructor
    · rintro ⟨h5, h6⟩
      exact ⟨⟨le_of_lt (not_le.1 h5), le_of_lt (not_le.1 h6)⟩, h5, h6⟩
    · exact fun h => h.2

section Contained

variable {num den m : ℕ} {e : ℤ}

/-- The bounds of an interval in units of the last place of its float. -/
theorem bounds_of_contains {v : ℚ} (hm : 0 < m) (hv : (interval m e).Contains v) :
    (m : ℚ) - 1 / 2 ≤ v / 2 ^ e ∧ v / 2 ^ e ≤ m + 1 / 2 ∧
      (m % 2 = 0 ∨ ((m : ℚ) - 1 / 2 < v / 2 ^ e ∧ v / 2 ^ e < m + 1 / 2)) ∧
      (m = 2 ^ 52 → leastExponent < e → (m : ℚ) - 1 / 4 ≤ v / 2 ^ e) := by
  have hpow : (0 : ℚ) < 2 ^ e := by positivity
  have hunit : (2 : ℚ) ^ (e - 2) = 2 ^ e / 4 := by
    rw [zpow_sub₀ two_ne_zero]; norm_num
  have hlow : (4 * m - 2 : ℚ) ≤ (interval m e).low := by
    simp only [interval]
    split
    · rw [Nat.cast_sub (by omega)]; push_cast; linarith
    · rw [Nat.cast_sub (by omega)]; push_cast; linarith
  have hlow' : m = 2 ^ 52 → leastExponent < e → ((interval m e).low : ℚ) = 4 * m - 1 := by
    intro h1 h2
    simp only [interval, if_pos (And.intro h1 h2)]
    rw [Nat.cast_sub (by omega)]
    push_cast
    ring
  have hhigh : ((interval m e).high : ℚ) = 4 * m + 2 := by
    simp only [interval]
    push_cast
    ring
  obtain ⟨⟨h1, h2⟩, h3⟩ := hv
  rw [show (interval m e).unit = e - 2 from rfl, hunit] at h1 h2 h3
  rw [hhigh] at h2 h3
  rw [le_div_iff₀ hpow, div_le_iff₀ hpow, lt_div_iff₀ hpow, div_lt_iff₀ hpow, le_div_iff₀ hpow]
  refine ⟨by nlinarith, by nlinarith, ?_, ?_⟩
  · rcases h3 with h3 | ⟨h3, h4⟩
    · exact .inl (by simpa [interval] using h3)
    · exact .inr ⟨by nlinarith, by nlinarith⟩
  · intro h5 h6
    rw [hlow' h5 h6] at h1
    linarith

/-- The binade of a ratio above zero, told by how many units of its last place the ratio has. -/
theorem exponent_of_units (hnum : 0 < num) (hden : 0 < den) (hleast : leastExponent ≤ e)
    (hbottom : e = leastExponent ∨ (2 : ℚ) ^ 52 ≤ num / den / 2 ^ e)
    (htop : (num : ℚ) / den / 2 ^ e < 2 ^ 53) :
    max leastExponent (floorLog num den - 52) = e := by
  have hpow : (0 : ℚ) < 2 ^ e := by positivity
  have hbelow : floorLog num den < 53 + e := by
    rw [floorLog_lt_iff hnum hden, zpow_add₀ two_ne_zero, ← div_lt_iff₀ hpow]
    exact_mod_cast htop
  have habove : e = leastExponent ∨ 52 + e ≤ floorLog num den := by
    refine hbottom.imp_right fun h => ?_
    rw [le_floorLog_iff hnum hden, zpow_add₀ two_ne_zero, ← le_div_iff₀ hpow]
    exact_mod_cast h
  omega

/-- A ratio is rounded to the significand nearest to it in units of the last place of its
binade, which may be the first one of the binade above. -/
theorem nearestCode_of_near {k : ℕ} (hnum : 0 < num) (hden : 0 < den) (hleast : leastExponent ≤ e)
    (hbottom : e = leastExponent ∨ (2 : ℚ) ^ 52 ≤ num / den / 2 ^ e)
    (htop : (num : ℚ) / den / 2 ^ e < 2 ^ 53)
    (hlow : (k : ℚ) - 1 / 2 ≤ num / den / 2 ^ e) (hhigh : (num : ℚ) / den / 2 ^ e ≤ k + 1 / 2)
    (htie : k % 2 = 0 ∨
      ((k : ℚ) - 1 / 2 < num / den / 2 ^ e ∧ (num : ℚ) / den / 2 ^ e < k + 1 / 2)) :
    nearestCode num den = min infinityCode (codeOf k e) := by
  have hround : roundDiv (inUnits num den e).1 (inUnits num den e).2 = k := by
    rw [← inUnits_div] at hlow hhigh htie
    exact roundDiv_of_near (inUnits_pos hden e) hlow hhigh htie
  rw [nearestCode, if_neg hnum.ne']
  simp only [exponent_of_units hnum hden hleast hbottom htop, hround, codeOf]

/-- A ratio in the interval of a float is rounded to it. -/
theorem nearestCode_of_contains (hden : 0 < den) (hc : Canonical m e) (hm : 0 < m)
    (hv : (interval m e).Contains (num / den)) : nearestCode num den = codeOf m e := by
  obtain ⟨hlow, hhigh, htie, hbottom⟩ := bounds_of_contains hm hv
  have hm1 : (1 : ℚ) ≤ m := by exact_mod_cast hm
  have hm53 : (m : ℚ) + 1 ≤ 2 ^ 53 := by exact_mod_cast hc.significand
  have hnum : 0 < num := by
    rcases Nat.eq_zero_or_pos num with h | h
    · rw [h, Nat.cast_zero, zero_div, zero_div] at hlow
      linarith
    · exact h
  by_cases hbinade : e = leastExponent ∨ (2 : ℚ) ^ 52 ≤ num / den / 2 ^ e
  · have htop : (num : ℚ) / den / 2 ^ e < 2 ^ 53 := by linarith
    rw [nearestCode_of_near hnum hden hc.least hbinade htop hlow hhigh htie,
      min_eq_right (codeOf_lt hc).le]
  · -- Just below a power of two the ratio is in the binade below, where the units are half as
    -- long, and is rounded up to the end of that binade.
    rw [not_or, not_le] at hbinade
    obtain ⟨hne, hbelow⟩ := hbinade
    have hleast : leastExponent < e := lt_of_le_of_ne hc.least (Ne.symm hne)
    have hm52 : m = 2 ^ 52 := by
      have h1 : 2 ^ 52 ≤ m := hc.normal.resolve_left hne
      have h2 : (m : ℚ) < 2 ^ 52 + 1 := by linarith
      have h3 : m < 2 ^ 52 + 1 := by exact_mod_cast h2
      omega
    have hnear := hbottom hm52 hleast
    have hhalf : (num : ℚ) / den / 2 ^ (e - 1) = 2 * (num / den / 2 ^ e) := by
      rw [zpow_sub_one₀ two_ne_zero]
      field_simp
    have hcarry : codeOf (2 ^ 53) (e - 1) = codeOf m e := by
      rw [codeOf, codeOf]
      omega
    have hround : nearestCode num den = min infinityCode (codeOf (2 ^ 53) (e - 1)) := by
      rw [hm52] at hnear
      norm_num at hnear hbelow
      apply nearestCode_of_near hnum hden (by omega)
      · exact .inr (by rw [hhalf]; linarith)
      · rw [hhalf]; linarith
      · rw [hhalf]; norm_num; linarith
      · rw [hhalf]; norm_num; linarith
      · exact .inl (by norm_num)
    rw [hround, hcarry, min_eq_right (codeOf_lt hc).le]

end Contained

/-! ### Decimals -/

/-- A float is above zero in its interval and below `2 ^ 1024`. -/
theorem range_of_contains {m : ℕ} {e : ℤ} {v : ℚ} (hc : Canonical m e) (hm : 0 < m)
    (hv : (interval m e).Contains v) : (2 : ℚ) ^ (-1075 : ℤ) ≤ v ∧ v < 2 ^ (1024 : ℤ) := by
  obtain ⟨hlow, hhigh, -, -⟩ := bounds_of_contains hm hv
  have hpow : (0 : ℚ) < 2 ^ e := by positivity
  have hm1 : (1 : ℚ) ≤ m := by exact_mod_cast hm
  have hm53 : (m : ℚ) + 1 ≤ 2 ^ 53 := by exact_mod_cast hc.significand
  rw [le_div_iff₀ hpow] at hlow
  rw [div_le_iff₀ hpow] at hhigh
  constructor
  · calc (2 : ℚ) ^ (-1075 : ℤ) = 1 / 2 * 2 ^ leastExponent := by
          rw [leastExponent, show (-1075 : ℤ) = -1 + -1074 by rfl, zpow_add₀ two_ne_zero]
          norm_num
      _ ≤ 1 / 2 * 2 ^ e := by
          have := zpow_le_zpow_right₀ (by norm_num : (1 : ℚ) ≤ 2) hc.least
          linarith
      _ ≤ (m - 1 / 2) * 2 ^ e := by nlinarith
      _ ≤ v := hlow
  · calc v ≤ (m + 1 / 2) * 2 ^ e := hhigh
      _ < 2 ^ (53 : ℤ) * 2 ^ e := by
          apply mul_lt_mul_of_pos_right _ hpow
          norm_num at hm53 ⊢
          linarith
      _ = 2 ^ (53 + e) := (zpow_add₀ two_ne_zero _ _).symm
      _ ≤ 2 ^ (1024 : ℤ) := zpow_le_zpow_right₀ (by norm_num) (by have := hc.greatest; omega)

theorem two_zpow_le_ten_zpow {a b : ℤ} (hb : 0 ≤ b) (h : a ≤ 3 * b) : (2 : ℚ) ^ a ≤ 10 ^ b := by
  calc (2 : ℚ) ^ a ≤ 2 ^ (3 * b) := zpow_le_zpow_right₀ one_le_two h
    _ = (2 ^ (3 : ℤ)) ^ b := zpow_mul 2 3 b
    _ ≤ 10 ^ b := zpow_le_zpow_left₀ hb (by norm_num) (by norm_num)

/-- The last digit of a decimal that is not infinite as a float is not far before the point. -/
theorem exponent_le_of_lt {d : ℕ} {t : ℤ} (hd : 0 < d) (h : (d * 10 ^ t : ℚ) < 2 ^ (1024 : ℤ)) :
    t ≤ 400 := by
  by_contra hlt
  have hone : (1 : ℚ) ≤ d := by exact_mod_cast hd
  have hle : (2 : ℚ) ^ (1024 : ℤ) ≤ d * 10 ^ t := by
    calc (2 : ℚ) ^ (1024 : ℤ) ≤ 10 ^ (400 : ℤ) := two_zpow_le_ten_zpow (by decide) (by decide)
      _ ≤ 10 ^ t := zpow_le_zpow_right₀ (by norm_num) (by omega)
      _ ≤ d * 10 ^ t := le_mul_of_one_le_left (by positivity) hone
  exact absurd h (not_lt.2 hle)

/-- The first digit of a decimal that is not zero as a float is not far behind the point. -/
theorem le_exponent_of_le {d : ℕ} {t : ℤ} (h : (2 : ℚ) ^ (-1075 : ℤ) ≤ d * 10 ^ t) :
    -400 ≤ t + ((d.log2 : ℤ) + 1) := by
  by_contra hlt
  have hd : (d : ℚ) < 10 ^ (d.log2 + 1) := by
    calc (d : ℚ) < 2 ^ (d.log2 + 1) := by exact_mod_cast Nat.lt_log2_self
      _ ≤ 10 ^ (d.log2 + 1) := pow_le_pow_left₀ (by norm_num) (by norm_num) _
  have hten : (0 : ℚ) < 10 ^ t := by positivity
  have hsmall : (d * 10 ^ t : ℚ) < 2 ^ (-1075 : ℤ) := by
    calc (d * 10 ^ t : ℚ) < 10 ^ (d.log2 + 1) * 10 ^ t := mul_lt_mul_of_pos_right hd hten
      _ = 10 ^ (t + ((d.log2 : ℤ) + 1)) := by
          rw [← zpow_natCast, ← zpow_add₀ (by norm_num), add_comm]
          push_cast
          rfl
      _ ≤ 10 ^ (-400 : ℤ) := zpow_le_zpow_right₀ (by norm_num) (by omega)
      _ ≤ 2 ^ (-1075 : ℤ) := by
          rw [zpow_neg, zpow_neg]
          exact inv_anti₀ (by positivity) (two_zpow_le_ten_zpow (by decide) (by decide))
  exact absurd h (not_le.2 hsmall)

/-- A decimal in the interval of a float is read as this float. -/
theorem nearestDecimal_of_contains (negative : Bool) {m d : ℕ} {e t : ℤ} (hc : Canonical m e)
    (hm : 0 < m) (hv : (interval m e).Contains (d * 10 ^ t)) :
    nearestDecimal negative d t = ofSignCode negative (codeOf m e) := by
  obtain ⟨hlow, hhigh⟩ := range_of_contains hc hm hv
  have hd : 0 < d := by
    rcases Nat.eq_zero_or_pos d with h | h
    · rw [h, Nat.cast_zero, zero_mul] at hlow
      exact absurd hlow (not_le.2 (by positivity))
    · exact h
  have htop : ¬ 400 < t := not_lt.2 (exponent_le_of_lt hd hhigh)
  have hbottom : ¬ t + ((d.log2 : ℤ) + 1) < -400 := not_lt.2 (le_exponent_of_le hlow)
  have hratio : ((d * 10 ^ t.toNat : ℕ) : ℚ) / (10 ^ (-t).toNat : ℕ) = d * 10 ^ t := by
    rw [zpow_eq_div]
    push_cast
    ring
  rw [nearestDecimal, if_neg hd.ne', if_neg htop, if_neg hbottom, nearest,
    nearestCode_of_contains (Nat.pow_pos (by decide)) hc hm (by rw [hratio]; exact hv)]

theorem ratio_div (m : ℕ) (e : ℤ) : ((ratio m e).1 : ℚ) / (ratio m e).2 = m * 2 ^ e := by
  rw [zpow_eq_div]
  simp only [ratio]
  push_cast
  ring

theorem contains_self {m : ℕ} (hm : 0 < m) (e : ℤ) : (interval m e).Contains (m * 2 ^ e) := by
  have hpow : (0 : ℚ) < 2 ^ (e - 2) := by positivity
  have hvalue : (m * 2 ^ e : ℚ) = (interval m e).middle * 2 ^ (e - 2) := by
    rw [zpow_sub₀ two_ne_zero]
    simp only [interval]
    push_cast
    ring
  have hlow : ((interval m e).low : ℚ) < (interval m e).middle := by
    simp only [interval]
    split <;> exact_mod_cast (by omega)
  have hhigh : ((interval m e).middle : ℚ) < (interval m e).high := by
    simp only [interval]
    exact_mod_cast (by omega)
  have h1 := mul_lt_mul_of_pos_right hlow hpow
  have h2 := mul_lt_mul_of_pos_right hhigh hpow
  rw [hvalue]
  exact ⟨⟨h1.le, h2.le⟩, .inr ⟨h1, h2⟩⟩

theorem exactDecimal_value (m : ℕ) (e : ℤ) :
    ((exactDecimal m e).digits * 10 ^ (exactDecimal m e).exponent : ℚ) = m * 2 ^ e := by
  rw [exactDecimal]
  split
  · rename_i h
    rw [zpow_eq_div 2, show (-e).toNat = 0 by omega]
    push_cast
    ring
  · rename_i h
    rw [zpow_eq_div 2, zpow_eq_div 10, show e.toNat = 0 by omega]
    push_cast
    rw [show (10 : ℚ) = 5 * 2 by norm_num, pow_zero, pow_zero]
    field_simp
    rw [mul_pow]
    ring

theorem contains_of_first {i : Interval} {t : ℤ} {d : ℕ} {others : Option Decimal} {x : Decimal}
    (h : (if i.holds t d then some ⟨d, t⟩ else others) = some x)
    (hothers : others = some x → i.Contains (x.digits * 10 ^ x.exponent)) :
    i.Contains (x.digits * 10 ^ x.exponent) := by
  split at h
  · rename_i hd
    cases h
    exact (i.holds_iff t d).1 hd
  · exact hothers h

theorem contains_of_onGrid? {i : Interval} {t : ℤ} {x : Decimal} (h : i.onGrid? t = some x) :
    i.Contains (x.digits * 10 ^ x.exponent) :=
  contains_of_first h fun h => contains_of_first h fun h => contains_of_first h fun h => nomatch h

/-- The decimal that a float is written with lies in its interval. -/
theorem shortest_contains {m : ℕ} (hm : 0 < m) (e : ℤ) :
    (interval m e).Contains ((shortest m e).digits * 10 ^ (shortest m e).exponent) := by
  simp only [shortest]
  generalize hfound : (List.range 24).findSome? _ = found
  cases found with
  | none =>
      rw [Option.getD_none, exactDecimal_value]
      exact contains_self hm e
  | some x =>
      obtain ⟨k, -, hk⟩ := List.exists_of_findSome?_eq_some hfound
      exact contains_of_onGrid? hk

end TouchProbe.Number
