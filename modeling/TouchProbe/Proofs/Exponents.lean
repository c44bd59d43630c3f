import TouchProbe.Proofs.Commands

/-!
Numbers that are written with a power of ten.  The readers of programs stop before it, so what they
read is the digits in front of it, a number from one to ten: never the number that was written,
which is either huge or tiny.
-/

namespace TouchProbe

namespace Number

open Text

/-! ### Rounding within a binade -/

theorem le_roundDiv {num den k : ℕ} (hden : 0 < den) (h : (k : ℚ) ≤ num / den) :
    k ≤ roundDiv num den := by
  have hpos : (0 : ℚ) < den := by exact_mod_cast hden
  rw [le_div_iff₀ hpos] at h
  have hk : k ≤ num / den := (Nat.le_div_iff_mul_le hden).2 (by exact_mod_cast h)
  simp only [roundDiv]
  split
  · exact hk
  · split <;> omega

theorem roundDiv_le {num den k : ℕ} (hden : 0 < den) (h : (num : ℚ) / den ≤ k) :
    roundDiv num den ≤ k := by
  have hpos : (0 : ℚ) < den := by exact_mod_cast hden
  rw [div_le_iff₀ hpos] at h
  have hmul : num ≤ k * den := by exact_mod_cast h
  simp only [roundDiv]
  rcases hmul.lt_or_eq with hlt | rfl
  · have hq : num / den < k := (Nat.div_lt_iff_lt_mul hden).2 hlt
    split
    · exact hq.le
    · split <;> omega
  · rw [Nat.mul_mod_left, if_pos (by omega), Nat.mul_div_cancel k hden]

/-- In units of the last place of its binade a ratio is rounded to a significand between the two
ends of the binade. -/
theorem roundDiv_binade {num den : ℕ} {L : ℤ} (hden : 0 < den) (hlow : (2 : ℚ) ^ L ≤ num / den)
    (hhigh : (num : ℚ) / den < 2 ^ (L + 1)) :
    2 ^ 52 ≤ roundDiv (inUnits num den (L - 52)).1 (inUnits num den (L - 52)).2 ∧
      roundDiv (inUnits num den (L - 52)).1 (inUnits num den (L - 52)).2 ≤ 2 ^ 53 := by
  have hpow : (0 : ℚ) < 2 ^ L := by positivity
  have hunits : ((inUnits num den (L - 52)).1 : ℚ) / (inUnits num den (L - 52)).2 =
      num / den / 2 ^ L * 2 ^ 52 := by
    rw [inUnits_div, zpow_sub₀ two_ne_zero]
    norm_num
    field_simp
  have hbottom : (1 : ℚ) ≤ num / den / 2 ^ L := by rwa [one_le_div hpow]
  have htop : (num : ℚ) / den / 2 ^ L < 2 := by
    rwa [div_lt_iff₀ hpow, ← zpow_one_add₀ two_ne_zero, add_comm]
  constructor
  · apply le_roundDiv (inUnits_pos hden _)
    rw [hunits]
    push_cast
    linarith
  · apply roundDiv_le (inUnits_pos hden _)
    rw [hunits]
    push_cast
    linarith

/-- The code of the float nearest to a ratio from one to sixteen lies between those of the two. -/
theorem nearestCode_bounds {num den : ℕ} (hden : 0 < den) (hlow : den ≤ num)
    (hhigh : num < 16 * den) :
    1023 * 2 ^ 52 ≤ nearestCode num den ∧ nearestCode num den ≤ 1027 * 2 ^ 52 := by
  have hnum : 0 < num := hden.trans_le hlow
  have hpos : (0 : ℚ) < den := by exact_mod_cast hden
  have hleast : 0 ≤ floorLog num den := by
    rw [le_floorLog_iff hnum hden, zpow_zero, one_le_div hpos]
    exact_mod_cast hlow
  have hgreatest : floorLog num den < 4 := by
    rw [floorLog_lt_iff hnum hden, div_lt_iff₀ hpos]
    norm_num
    exact_mod_cast hhigh
  obtain ⟨hfloor, hceil⟩ := floorLog_spec hnum hden
  obtain ⟨hround1, hround2⟩ := roundDiv_binade hden hfloor hceil
  rw [nearestCode, if_neg hnum.ne', infinityCode]
  generalize floorLog num den = L at *
  have hE : max leastExponent (L - 52) = L - 52 := by
    rw [leastExponent]
    omega
  have hshift : (L - 52 - leastExponent).toNat = L.toNat + 1022 := by
    rw [leastExponent]
    omega
  simp only [hE, hshift]
  omega

/-- Digits with one of them before the point are read as a float of a middling exponent. -/
theorem exponent_nearestDecimal (negative : Bool) {n k : ℕ} (hlow : 10 ^ k ≤ n)
    (hhigh : n < 10 ^ (k + 1)) :
    ∃ m e, parts (nearestDecimal negative n (-k)) = .finite negative m e ∧ m ≠ 0 ∧
      -52 ≤ e ∧ e ≤ -48 := by
  have hn : 0 < n := (Nat.pow_pos (by decide)).trans_le hlow
  have hlog : k ≤ n.log2 :=
    (Nat.le_log2 hn.ne').2 ((Nat.pow_le_pow_left (by decide) k).trans hlow)
  have hnat : (-(-(k : ℤ))).toNat = k := by omega
  have hzero : (-(k : ℤ)).toNat = 0 := by omega
  have hsixteen : n < 16 * 10 ^ k := by
    have hpos : 0 < 10 ^ k := Nat.pow_pos (by decide)
    rw [pow_succ] at hhigh
    omega
  have hcodes : 1023 * 2 ^ 52 ≤ nearestCode n (10 ^ k) ∧ nearestCode n (10 ^ k) ≤ 1027 * 2 ^ 52 :=
    nearestCode_bounds (Nat.pow_pos (by decide)) hlow hsixteen
  rw [nearestDecimal, if_neg hn.ne', if_neg (by omega), if_neg (by omega), nearest, hnat, hzero,
    pow_zero, mul_one]
  generalize nearestCode n (10 ^ k) = code at *
  have hcode : code ≤ infinityCode := by
    rw [infinityCode]
    omega
  rw [parts_ofSignCode negative hcode, ofCode]
  have hfield : 1023 ≤ code / 2 ^ 52 ∧ code / 2 ^ 52 ≤ 1027 := by omega
  simp only [if_neg (show code / 2 ^ 52 ≠ 2047 by omega), if_neg (show code / 2 ^ 52 ≠ 0 by omega)]
  exact ⟨_, _, rfl, by omega, by omega, by omega⟩

/-- Equal floats other than zero have one exponent. -/
theorem exponent_eq_of_beq {x y : Float} {s t : Bool} {m n : ℕ} {e k : ℤ}
    (hx : parts x = .finite s m e) (hy : parts y = .finite t n k) (hm : m ≠ 0) (hn : n ≠ 0)
    (h : (x == y) = true) : e = k := by
  rw [beq_eq, hx, hy] at h
  simp only [unpacked, dif_neg hm, dif_neg hn] at h
  cases s <;> cases t <;>
    simp [signOf, Float.Model.UnpackedFloat.beq, Float.Model.UnpackedFloat.compare,
      Ordering.swap_then, Ordering.then_eq_eq] at h
  · exact h.1
  · exact h.1

/-! ### Magnitudes with a power of ten -/

open Program

theorem withPower_eq (d : Char) (fraction : List Char) (k : ℤ) :
    withPower false (d :: fraction) k = pointed [d] fraction ++ powerChars k := by
  cases fraction <;> rfl

/-- What is not plain is huge, or tiny and no whole number. -/
theorem huge_or_tiny {m : ℕ} {e : ℤ} (h : isPlainMagnitude m e = false) :
    (10 : ℚ) ^ (21 : ℤ) ≤ m * 2 ^ e ∨
      (ratio m e).1 % (ratio m e).2 ≠ 0 ∧ (m * 2 ^ e : ℚ) < 10 ^ (-4 : ℤ) := by
  have hpos : (0 : ℚ) < (ratio m e).2 := by exact_mod_cast ratio_pos m e
  simp only [isPlainMagnitude, Bool.and_eq_false_iff, Bool.or_eq_false_iff, decide_eq_false_iff_not,
    beq_eq_false_iff_ne, not_lt, not_le] at h
  rw [← ratio_div]
  rcases h with h | ⟨hw, h⟩
  · left
    rw [le_div_iff₀ hpos]
    exact_mod_cast h
  · right
    refine ⟨hw, ?_⟩
    rw [div_lt_iff₀ hpos, zpow_neg, lt_inv_mul_iff₀ (by positivity)]
    exact_mod_cast h

/-- The decimal of a huge float has its point behind the sixteenth place. -/
theorem sixteen_lt_point {m : ℕ} {e : ℤ} (hm : 0 < m) (h : (10 : ℚ) ^ (21 : ℤ) ≤ m * 2 ^ e) :
    16 < ((digitChars (shortest m e).digits).length : ℤ) + (shortest m e).exponent := by
  have hcontains := shortest_contains hm e
  obtain ⟨hlow, -, -, -⟩ := bounds_of_contains hm hcontains
  have hpow : (0 : ℚ) < 2 ^ e := by positivity
  have hm1 : (1 : ℚ) ≤ m := by exact_mod_cast hm
  rw [le_div_iff₀ hpow] at hlow
  have hd : ((shortest m e).digits : ℚ) < 10 ^ (digitChars (shortest m e).digits).length := by
    exact_mod_cast lt_pow_length _
  have hten : (0 : ℚ) < 10 ^ (shortest m e).exponent := by positivity
  have hlt : (10 : ℚ) ^ (16 : ℤ) <
      10 ^ (((digitChars (shortest m e).digits).length : ℤ) + (shortest m e).exponent) := by
    calc (10 : ℚ) ^ (16 : ℤ) < 10 ^ (21 : ℤ) / 2 := by norm_num
      _ ≤ m * 2 ^ e / 2 := by gcongr
      _ ≤ (m - 1 / 2) * 2 ^ e := by nlinarith
      _ ≤ (shortest m e).digits * 10 ^ (shortest m e).exponent := hlow
      _ < 10 ^ (digitChars (shortest m e).digits).length * 10 ^ (shortest m e).exponent :=
          mul_lt_mul_of_pos_right hd hten
      _ = _ := by rw [zpow_add₀ (by norm_num), zpow_natCast]
  exact (zpow_lt_zpow_iff_right₀ (by norm_num)).1 hlt

/-- The interval of a float below a ten-thousandth does not reach up to it. -/
theorem high_bound {m : ℕ} {e : ℤ} {v : ℚ} (hc : Canonical m e) (hm : 0 < m)
    (h : (m * 2 ^ e : ℚ) < 10 ^ (-4 : ℤ)) (hv : (interval m e).Contains v) : v < 10 ^ (-4 : ℤ) := by
  obtain ⟨-, hhigh, -, -⟩ := bounds_of_contains hm hv
  have hpow : (0 : ℚ) < 2 ^ e := by positivity
  rw [div_le_iff₀ hpow] at hhigh
  refine lt_of_le_of_lt hhigh ?_
  have he : e ≤ -66 := by
    by_contra hlt
    have hnormal : 2 ^ 52 ≤ m := hc.normal.resolve_left (by rw [leastExponent]; omega)
    have h1 : (2 : ℚ) ^ 52 ≤ m := by exact_mod_cast hnormal
    have h2 := zpow_le_zpow_right₀ (by norm_num : (1 : ℚ) ≤ 2) (by omega : -65 ≤ e)
    have h3 : (2 : ℚ) ^ 52 * 2 ^ (-65 : ℤ) ≤ m * 2 ^ e := by gcongr
    have h4 : (10 : ℚ) ^ (-4 : ℤ) < 2 ^ 52 * 2 ^ (-65 : ℤ) := by norm_num
    linarith
  rcases eq_or_lt_of_le he with rfl | he
  · -- The largest significand of this binade below the bound still has its half unit below it.
    have hten : (10 : ℚ) ^ (-4 : ℤ) = 1 / 10000 := by norm_num
    have htwo : (2 : ℚ) ^ (-66 : ℤ) = 1 / 73786976294838206464 := by norm_num
    rw [hten, htwo] at h ⊢
    have h1 : (m : ℚ) < 0x1A36E2EB1C432D := by linarith
    have h2 : m < 0x1A36E2EB1C432D := by exact_mod_cast h1
    have h3 : m ≤ 0x1A36E2EB1C432C := by omega
    have h4 : (m : ℚ) ≤ 0x1A36E2EB1C432C := by exact_mod_cast h3
    linarith
  · have hm53 : (m : ℚ) + 1 ≤ 2 ^ 53 := by exact_mod_cast hc.significand
    calc (m + 1 / 2 : ℚ) * 2 ^ e ≤ (m + 1 / 2) * 2 ^ (-67 : ℤ) := by
          have := zpow_le_zpow_right₀ (by norm_num : (1 : ℚ) ≤ 2) (by omega : e ≤ -67)
          gcongr
      _ < 10 ^ (-4 : ℤ) := by norm_num at hm53 ⊢; linarith

/-- The decimal of a tiny float has its point four places before its digits or more. -/
theorem point_le_neg_four {m : ℕ} {e : ℤ} (hc : Canonical m e) (hm : 0 < m)
    (h : (m * 2 ^ e : ℚ) < 10 ^ (-4 : ℤ)) :
    ((digitChars (shortest m e).digits).length : ℤ) + (shortest m e).exponent ≤ -4 := by
  have hhigh := high_bound hc hm h (shortest_contains hm e)
  have hlen : 0 < (digitChars (shortest m e).digits).length := Nat.length_toDigits_pos
  have hd : (10 : ℚ) ^ ((digitChars (shortest m e).digits).length - 1) ≤ (shortest m e).digits := by
    exact_mod_cast pow_length_le (digits_shortest_pos hc hm)
  have hlt : (10 : ℚ) ^ (((digitChars (shortest m e).digits).length : ℤ) - 1 +
      (shortest m e).exponent) < 10 ^ (-4 : ℤ) := by
    refine lt_of_le_of_lt ?_ hhigh
    rw [zpow_add₀ (by norm_num), ← Nat.cast_one, ← Nat.cast_sub hlen, zpow_natCast]
    gcongr
  have := (zpow_lt_zpow_iff_right₀ (by norm_num)).1 hlt
  omega

/-- What is not plain is not among the whole numbers that are written out. -/
theorem not_whole_of_not_plain {m : ℕ} {e : ℤ} (h : isPlainMagnitude m e = false) :
    ¬ ((ratio m e).1 % (ratio m e).2 = 0 ∧
      (ratio m e).1 / (ratio m e).2 < wordStyle.wholeBelow) := by
  have hpos : (0 : ℚ) < (ratio m e).2 := by exact_mod_cast ratio_pos m e
  rintro ⟨hwhole, hlt⟩
  rcases huge_or_tiny h with hhuge | ⟨hnot, -⟩
  · rw [← ratio_div, le_div_iff₀ hpos] at hhuge
    have hle : 10 ^ 21 * (ratio m e).2 ≤ (ratio m e).1 := by exact_mod_cast hhuge
    exact absurd ((Nat.div_lt_iff_lt_mul (ratio_pos m e)).1 hlt) (not_lt.2 hle)
  · exact hnot hwhole

/-- What is not plain has its point too far from its digits to be written without a power. -/
theorem far_point_of_not_plain {m : ℕ} {e : ℤ} (hc : Canonical m e) (hm : 0 < m)
    (h : isPlainMagnitude m e = false) :
    ¬ (((digitChars (shortest m e).digits).length : ℤ) + (shortest m e).exponent ≤ 16 ∧
      -4 < ((digitChars (shortest m e).digits).length : ℤ) + (shortest m e).exponent) := by
  rcases huge_or_tiny h with hhuge | ⟨-, htiny⟩
  · have := sixteen_lt_point hm hhuge
    omega
  · have := point_le_neg_four hc hm htiny
    omega

/-- A magnitude that is not plain is written with one digit before the point and a power of ten. -/
theorem magnitude_withPower {m : ℕ} {e : ℤ} (hc : Canonical m e)
    (hp : isPlainMagnitude m e = false) :
    ∃ d fraction k, wordStyle.magnitude m e = pointed [d] fraction ++ powerChars k ∧
      AllDigits (d :: fraction) ∧
      10 ^ fraction.length ≤ ofDigits (digitValues (d :: fraction)) ∧
      ofDigits (digitValues (d :: fraction)) < 10 ^ (fraction.length + 1) := by
  have hm : 0 < m := by
    rcases Nat.eq_zero_or_pos m with rfl | hm
    · simp [isPlainMagnitude, ratio] at hp
    · exact hm
  have hlow := pow_length_le (digits_shortest_pos hc hm)
  have hhigh := lt_pow_length (shortest m e).digits
  have hdigits := allDigits_digitChars (shortest m e).digits
  have hvalue := ofDigits_digitChars (shortest m e).digits
  obtain ⟨d, fraction, hd⟩ := List.exists_cons_of_ne_nil (digitChars_ne_nil (shortest m e).digits)
  have htext : wordStyle.magnitude m e = pointed [d] fraction ++
      powerChars (((d :: fraction).length : ℤ) + (shortest m e).exponent - 1) := by
    rw [Style.magnitude]
    simp only [if_neg (not_whole_of_not_plain hp), if_neg hm.ne', Style.decimal,
      if_neg (far_point_of_not_plain hc hm hp)]
    rw [hd]
    exact withPower_eq d fraction _
  rw [hd] at hlow hhigh hdigits hvalue
  rw [← hvalue] at hlow hhigh
  exact ⟨d, fraction, _, htext, hdigits, hlow, hhigh⟩

/-! ### What is read -/

/-- The characters of numerals with a power of ten. -/
def numeralChars : List Char := "0123456789-.+e".toList

theorem plainChars_subset_numeralChars : plainChars ⊆ numeralChars := by decide

theorem powerChars_subset_numeralChars (k : ℤ) : powerChars k ⊆ numeralChars := by
  simp only [powerChars, List.cons_subset, List.append_subset]
  refine ⟨by decide, by split <;> decide, fun c hc => ?_,
    fun c hc => plainChars_subset_numeralChars (mem_plainChars_of_isDigit
      (allDigits_digitChars _ c hc))⟩
  rw [List.eq_of_mem_replicate hc]
  decide

theorem writeFloat_subset_numeralChars {x : Float} {negative : Bool} {m : ℕ} {e : ℤ}
    (h : parts x = .finite negative m e) : (writeFloat x).toList ⊆ numeralChars := by
  rw [toList_writeFloat h, List.append_subset]
  refine ⟨List.Subset.trans (signChars_subset _) plainChars_subset_numeralChars, ?_⟩
  cases hp : isPlainMagnitude m e with
  | true =>
      obtain ⟨whole, fraction, htext, -, hw, hf, -⟩ := magnitude_pointed (canonical_parts h) hp
      exact htext ▸ List.Subset.trans (pointed_subset hw hf) plainChars_subset_numeralChars
  | false =>
      obtain ⟨d, fraction, k, htext, hall, -⟩ := magnitude_withPower (canonical_parts h) hp
      have hd : AllDigits [d] := by
        intro c hc
        exact hall c (List.mem_singleton.1 hc ▸ List.mem_cons_self)
      have hf : AllDigits fraction := fun c hc => hall c (List.mem_cons_of_mem d hc)
      rw [htext, List.append_subset]
      exact ⟨List.Subset.trans (pointed_subset hd hf) plainChars_subset_numeralChars,
        powerChars_subset_numeralChars k⟩

/-- No axis word and no word of a letter begins inside a numeral in upper case. -/
theorem not_letter_of_mem_upper {s : List Char} (h : s ⊆ numeralChars) {c : Char}
    (hc : c ∈ upper s) : Axis.ofLetter? c = none ∧ c ≠ 'F' ∧ c ≠ 'P' ∧ isBlank c = false := by
  have hupper : upper numeralChars = "0123456789-.+E".toList := by decide
  have hmem : c ∈ "0123456789-.+E".toList := by
    rw [← hupper]
    obtain ⟨b, hb, hbc⟩ := List.mem_flatMap.1 hc
    exact List.mem_flatMap.2 ⟨b, h hb, hbc⟩
  have hall : ∀ c ∈ "0123456789-.+E".toList,
      Axis.ofLetter? c = none ∧ c ≠ 'F' ∧ c ≠ 'P' ∧ isBlank c = false :=
    List.all_iff_forall_prop.1 (by decide)
  exact hall c hmem

theorem exists_parts_of_isFinite {x : Float} (h : x.isFinite = true) :
    ∃ negative m e, parts x = .finite negative m e := by
  rw [Float.isFinite, Float.Model.isFinite, unpack_toModel] at h
  cases hx : parts x with
  | nan => rw [hx] at h; exact absurd h (by decide)
  | infinite negative => rw [hx] at h; cases negative <;> exact absurd h (by decide)
  | finite negative m e => exact ⟨negative, m, e, rfl⟩

/-- A float that is written with a power of ten is not what the digits before the power are read
as. -/
theorem ne_nearestDecimal {x : Float} {negative sign : Bool} {m n k : ℕ} {e : ℤ}
    (hx : parts x = .finite negative m e) (hp : isPlainMagnitude m e = false)
    (hlow : 10 ^ k ≤ n) (hhigh : n < 10 ^ (k + 1)) :
    (x == nearestDecimal sign n (-k)) = false := by
  obtain ⟨m', e', hy, hm', he1, he2⟩ := exponent_nearestDecimal sign hlow hhigh
  have hc := canonical_parts hx
  by_contra h
  rw [Bool.not_eq_false] at h
  have hm : m ≠ 0 := by
    rintro rfl
    simp [isPlainMagnitude, ratio] at hp
  obtain rfl := exponent_eq_of_beq hx hy hm hm' h
  rcases huge_or_tiny hp with hhuge | ⟨-, htiny⟩
  · -- With such an exponent a float is below thirty-two.
    have h1 := zpow_le_zpow_right₀ (by norm_num : (1 : ℚ) ≤ 2) he2
    have h2 : (m : ℚ) ≤ 2 ^ 53 := by exact_mod_cast hc.significand.le
    have h3 : (m * 2 ^ e : ℚ) ≤ 2 ^ 53 * 2 ^ (-48 : ℤ) := by gcongr
    norm_num at hhuge h3
    linarith
  · -- With such an exponent a float is one or more, unless it is subnormal.
    have hnormal : 2 ^ 52 ≤ m := hc.normal.resolve_left (by rw [leastExponent]; omega)
    have h1 := zpow_le_zpow_right₀ (by norm_num : (1 : ℚ) ≤ 2) he1
    have h2 : (2 : ℚ) ^ 52 ≤ m := by exact_mod_cast hnormal
    have h3 : (2 ^ 52 * 2 ^ (-52 : ℤ) : ℚ) ≤ m * 2 ^ e := by gcongr
    norm_num at htiny h3
    linarith

theorem numberEnds_upper_powerChars (k : ℤ) : numberEnds (upper (powerChars k)) = true := by
  rw [powerChars, upper_cons, show upperChar 'e' = ['E'] from by decide]
  rfl

/-- In upper case a float that is written with a power of ten has digits, and then a letter. -/
theorem upper_writeFloat {x : Float} {negative : Bool} {m : ℕ} {e : ℤ}
    (hx : parts x = .finite negative m e) (hp : isPlainMagnitude m e = false) :
    ∃ d fraction rest,
      upper (writeFloat x).toList = signChars negative ++ (pointed [d] fraction ++ rest) ∧
      AllDigits [d] ∧ AllDigits fraction ∧ numberEnds rest = true ∧
      ∀ sign, (x == (Numeral.mk sign (digitValues [d]) (digitValues fraction) 0).toFloat) = false := by
  have hm : m ≠ 0 := by
    rintro rfl
    simp [isPlainMagnitude, ratio] at hp
  obtain ⟨d, fraction, k, htext, hall, hlow, hhigh⟩ := magnitude_withPower (canonical_parts hx) hp
  have hd : AllDigits [d] := by
    intro c hc
    exact hall c (List.mem_singleton.1 hc ▸ List.mem_cons_self)
  have hf : AllDigits fraction := fun c hc => hall c (List.mem_cons_of_mem d hc)
  refine ⟨d, fraction, upper (powerChars k), ?_, hd, hf, numberEnds_upper_powerChars k,
    fun sign => ?_⟩
  · rw [toList_writeFloat hx, htext, bne_iff_ne.2 hm, Bool.and_true, upper_append, upper_append,
      upper_plain (signChars_subset _), upper_plain (pointed_subset hd hf)]
  · rw [Numeral.toFloat]
    simp only [← digitValues_append, length_digitValues, zero_sub, List.singleton_append]
    exact ne_nearestDecimal hx hp hlow hhigh

/-- The number at the front of a written float is the float itself just when there is no power of
ten behind it. -/
theorem decimal?_upper_writeFloat {x : Float} (h : x.isFinite = true) :
    ∃ n rest, decimal? (upper (writeFloat x).toList) = some (n, rest) ∧
      ((x == n.toFloat) = true ↔ isPlain x = true) := by
  cases hp : isPlain x with
  | true =>
      obtain ⟨n, hread, hvalue⟩ := decimal?_writeFloat hp numberEnds_nil
      rw [List.append_nil] at hread
      refine ⟨n, [], by rw [upper_plain (writeFloat_subset_plain hp), hread], ?_⟩
      simp [hvalue, beq_settled hp]
  | false =>
      obtain ⟨negative, m, e, hx⟩ := exists_parts_of_isFinite h
      rw [isPlain, hx] at hp
      obtain ⟨d, fraction, rest, htext, hd, hf, hrest, hne⟩ := upper_writeFloat hx hp
      have hread := unsigned?_pointed hd hf (by simp) hrest
      refine ⟨⟨negative, digitValues [d], digitValues fraction, 0⟩, rest, ?_, by simp [hne]⟩
      have hsign : takeSign (signChars negative ++ (pointed [d] fraction ++ rest)) =
          (negative, pointed [d] fraction ++ rest) := by
        cases negative with
        | true => rfl
        | false => exact takeSign_pointed hd (by simp) fraction rest
      rw [htext]
      simp only [decimal?, hsign, hread, Option.map_some]

/-- The same for floats that are not below zero and are read without a sign. -/
theorem unsigned?_upper_writeFloat {x : Float} (h : x.isFinite = true) (h0 : zero ≤ x) :
    ∃ n rest, unsigned? (upper (writeFloat x).toList) = some (n, rest) ∧
      ((x == n.toFloat) = true ↔ isPlain x = true) := by
  cases hp : isPlain x with
  | true =>
      obtain ⟨n, hread, hvalue⟩ := unsigned?_writeFloat hp h0 numberEnds_nil
      rw [List.append_nil] at hread
      refine ⟨n, [], by rw [upper_plain (writeFloat_subset_plain hp), hread], ?_⟩
      simp [hvalue, beq_settled hp]
  | false =>
      obtain ⟨negative, m, e, hx⟩ := exists_parts_of_isFinite h
      rw [isPlain, hx] at hp
      obtain ⟨d, fraction, rest, htext, hd, hf, hrest, hne⟩ := upper_writeFloat hx hp
      have hpositive : negative = false := by
        refine ((zero_le_iff hx).1 h0).resolve_right ?_
        rintro rfl
        simp [isPlainMagnitude, ratio] at hp
      refine ⟨⟨false, digitValues [d], digitValues fraction, 0⟩, rest, ?_, by simp [hne]⟩
      rw [htext, hpositive]
      exact unsigned?_pointed hd hf (by simp) hrest

end Number

namespace Program

open Text Number

/-! ### The readers of commands -/

section Written

variable {x : Float} (h : x.isFinite = true)

include h

theorem mem_upper_writeFloat {c : Char} (hc : c ∈ upper (writeFloat x).toList) :
    Axis.ofLetter? c = none ∧ c ≠ 'F' ∧ c ≠ 'P' ∧ isBlank c = false := by
  obtain ⟨negative, m, e, hx⟩ := exists_parts_of_isFinite h
  exact not_letter_of_mem_upper (writeFloat_subset_numeralChars hx) hc

theorem trimStart_upper_writeFloat :
    trimStart (upper (writeFloat x).toList) = upper (writeFloat x).toList := by
  cases ht : upper (writeFloat x).toList with
  | nil => rfl
  | cons c t =>
      apply trimStart_cons_of_not_blank
      exact (mem_upper_writeFloat h (ht ▸ List.mem_cons_self)).2.2.2

/-- A written float behind an axis letter is the one axis word of its text; its value is the float
just when it is written without a power of ten. -/
theorem axes_written (a : Axis) :
    ∃ y, (axes (upper (a.letter :: (writeFloat x).toList))).entries = [(a, y)] ∧
      ((x == y) = true ↔ isPlain x = true) := by
  obtain ⟨n, rest, hread, hvalue⟩ := decimal?_upper_writeFloat h
  refine ⟨n.toFloat, ?_, hvalue⟩
  have hletter : Axis.ofLetter? a.letter = some a := by cases a <;> rfl
  have hnone : ∀ c ∈ upper (writeFloat x).toList, ∀ r, axisWord? (c :: r) = none := by
    intro c hc r
    rw [axisWord?, (mem_upper_writeFloat h hc).1]
    rfl
  have hrest := allAlong_append_of_none hnone []
  rw [List.append_nil] at hrest
  rw [upper_cons_of_eq (upperChar_of_capital (isCapital_letter a)), axes, allAlong, hrest, axisWord?,
    hletter, trimStart_upper_writeFloat h, hread]
  cases a <;> rfl

theorem letterValue?_written (h0 : zero ≤ x) {letter : Char} (hl : isCapital letter = true) :
    ∃ y, firstAnywhere (letterValue? letter) (upper (letter :: (writeFloat x).toList)) = some y ∧
      ((x == y) = true ↔ isPlain x = true) := by
  obtain ⟨n, rest, hread, hvalue⟩ := unsigned?_upper_writeFloat h h0
  refine ⟨n.toFloat, ?_, hvalue⟩
  rw [upper_cons_of_eq (upperChar_of_capital hl), firstAnywhere, letterValue?, if_pos rfl,
    trimStart_upper_writeFloat h, hread]
  rfl

end Written

/-- Numbers that a program gives to its words are read back just when they are written without a
power of ten: as axis words whatever their sign, as feed rates and pauses when they are not below
zero. -/
theorem reads_written_iff {x : Float} (h : x.isFinite = true) :
    (∀ a : Axis, ∃ y, (axes (upper (a.letter :: (writeFloat x).toList))).entries = [(a, y)] ∧
      ((x == y) = true ↔ isPlain x = true)) ∧
    (zero ≤ x →
      (∃ y, feed? (upper ('F' :: (writeFloat x).toList)) = some y ∧
        ((x == y) = true ↔ isPlain x = true)) ∧
      ∃ y, pause? (upper ('P' :: (writeFloat x).toList)) = some y ∧
        ((x == y) = true ↔ isPlain x = true)) := by
  refine ⟨axes_written h, fun h0 => ⟨?_, ?_⟩⟩
  · exact letterValue?_written h h0 (by decide)
  · exact letterValue?_written h h0 (by decide)

theorem reads_written_plain :
    ∃ y, feed? (upper ('F' :: (writeFloat (nearest false 127 80)).toList)) = some y ∧
      (nearest false 127 80 == y) = true := by
  obtain ⟨-, hpositive⟩ := reads_written_iff (x := nearest false 127 80) (by decide +kernel)
  obtain ⟨⟨y, hread, hiff⟩, -⟩ := hpositive (by decide +kernel)
  exact ⟨y, hread, hiff.2 (by decide +kernel)⟩

/-- A hundred-thousandth along an axis is read as one. -/
theorem misreads_written_tiny :
    (nearest false 1 (10 ^ 5)).isFinite = true ∧
      (axes (upper (Axis.x.letter :: (writeFloat (nearest false 1 (10 ^ 5))).toList))).entries =
        [(.x, nearest false 1 1)] ∧
      (nearest false 1 (10 ^ 5) == nearest false 1 1) = false := by
  refine ⟨by decide +kernel, ?_, by decide +kernel⟩
  rfl

end Program

end TouchProbe
