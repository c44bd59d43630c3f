import TouchProbe.Proofs.Rounding
import TouchProbe.Program.Line
import TouchProbe.Text.Pattern

/-!
Numbers that are written without a power of ten are read back.  The digits that a float is
written with form a decimal of its interval, and the scanners take exactly these digits off the
front of a text.
-/

namespace TouchProbe.Number

open Text

/-! ### Digits -/

def digitValues (s : List Char) : List Nat := s.map fun c => c.toNat - 48

def AllDigits (s : List Char) : Prop := ∀ c ∈ s, c.isDigit = true

theorem digitValue?_of_isDigit {c : Char} (h : c.isDigit = true) :
    digitValue? c = some (c.toNat - 48) := by
  have h1 : 48 ≤ c.toNat ∧ c.toNat ≤ 57 := by
    simpa [Char.isDigit, UInt32.le_iff_toNat_le] using h
  have h2 : c.toNat < 128 := by omega
  simp [digitValue?, h1, h2]

theorem spanDigits_append {s rest : List Char} (hs : AllDigits s) (hrest : noDigit rest = true) :
    spanDigits (s ++ rest) = (digitValues s, rest) := by
  induction s with
  | nil =>
      cases rest with
      | nil => rfl
      | cons c r =>
          have hc : digitValue? c = none := by simpa [noDigit, Text.isDigit] using hrest
          simp [spanDigits, hc, digitValues]
  | cons c s ih =>
      have hc := digitValue?_of_isDigit (hs c List.mem_cons_self)
      have hrec := ih fun d hd => hs d (List.mem_cons_of_mem c hd)
      simp [spanDigits, hc, hrec, digitValues]

theorem ofDigits_foldl (ds : List Nat) (n : Nat) :
    ds.foldl (fun n d => 10 * n + d) n = n * 10 ^ ds.length + ofDigits ds := by
  induction ds generalizing n with
  | nil => simp [ofDigits]
  | cons d ds ih =>
      rw [ofDigits, List.foldl_cons, List.foldl_cons, ih, ih (10 * 0 + d), List.length_cons]
      ring

theorem ofDigits_append (as bs : List Nat) :
    ofDigits (as ++ bs) = ofDigits as * 10 ^ bs.length + ofDigits bs := by
  rw [ofDigits, List.foldl_append, ofDigits_foldl]
  rfl

@[simp] theorem ofDigits_replicate_zero (k : Nat) : ofDigits (List.replicate k 0) = 0 := by
  induction k with
  | zero => rfl
  | succ k ih => rw [List.replicate_succ', ofDigits_append, ih]; rfl

@[simp] theorem digitValues_append (s t : List Char) :
    digitValues (s ++ t) = digitValues s ++ digitValues t := List.map_append

@[simp] theorem digitValues_replicate (k : Nat) :
    digitValues (List.replicate k '0') = List.replicate k 0 := by
  simp [digitValues]

@[simp] theorem length_digitValues (s : List Char) : (digitValues s).length = s.length :=
  List.length_map _

theorem allDigits_digitChars (n : Nat) : AllDigits (digitChars n) :=
  fun _ h => Nat.isDigit_of_mem_toDigits (by decide) (by decide) h

theorem toNat_digitChar {d : Nat} (h : d < 10) : d.digitChar.toNat - 48 = d := by
  interval_cases d <;> rfl

/-- The digits of a number stand for it. -/
@[simp] theorem ofDigits_digitChars (n : Nat) : ofDigits (digitValues (digitChars n)) = n := by
  induction n using Nat.strong_induction_on with
  | _ n ih =>
      by_cases h : n < 10
      · rw [digitChars, Nat.toDigits_of_lt_base h]
        simp [digitValues, ofDigits, toNat_digitChar h]
      · have hrec := ih (n / 10) (by omega)
        have hlast := toNat_digitChar (Nat.mod_lt n (by decide : 0 < 10))
        rw [digitChars] at hrec
        rw [digitChars, Nat.toDigits_of_base_le (by decide) (by omega), digitValues_append,
          ofDigits_append, hrec]
        simp only [digitValues, List.map_cons, List.map_nil, hlast, ofDigits, List.foldl_cons,
          List.foldl_nil, List.length_cons, List.length_nil]
        omega

theorem digitChars_ne_nil (n : Nat) : digitChars n ≠ [] := Nat.toDigits_ne_nil

theorem lt_pow_length (n : Nat) : n < 10 ^ (digitChars n).length :=
  (Nat.length_toDigits_le_iff (by decide) Nat.length_toDigits_pos).1 (le_refl _)

theorem pow_length_le {n : Nat} (h : 0 < n) : 10 ^ ((digitChars n).length - 1) ≤ n := by
  by_contra hlt
  rw [not_le] at hlt
  have hpos : 0 < (digitChars n).length := Nat.length_toDigits_pos
  by_cases h1 : (digitChars n).length = 1
  · rw [h1] at hlt
    simp at hlt
    omega
  · have := (Nat.length_toDigits_le_iff (by decide) (by omega)).2 hlt
    rw [digitChars] at *
    omega

/-! ### Digits with a fraction -/

/-- Digits with a point and a fraction; no fraction has no point. -/
def pointed (whole fraction : List Char) : List Char :=
  whole ++ if fraction.isEmpty then [] else '.' :: fraction

/-- The magnitude that digits with a fraction stand for. -/
def pointedValue (whole fraction : List Char) : ℚ :=
  ofDigits (digitValues (whole ++ fraction)) * 10 ^ (-(fraction.length : ℤ))

theorem noDigit_of_numberEnds {s : List Char} (h : numberEnds s = true) : noDigit s = true := by
  cases s with
  | nil => rfl
  | cons c s =>
      simp only [numberEnds, Bool.and_eq_true] at h
      exact h.1

theorem numberEnds_nil : numberEnds [] = true := rfl

theorem unsigned?_pointed {whole fraction rest : List Char} (hw : AllDigits whole)
    (hf : AllDigits fraction) (hne : whole ≠ []) (hrest : numberEnds rest = true) :
    unsigned? (pointed whole fraction ++ rest) =
      some (⟨false, digitValues whole, digitValues fraction, 0⟩, rest) := by
  have hnone := noDigit_of_numberEnds hrest
  have hvals : digitValues whole ≠ [] := by simpa [digitValues] using hne
  obtain ⟨v, vs, hv⟩ := List.exists_cons_of_ne_nil hvals
  rw [pointed, List.append_assoc]
  cases fraction with
  | nil =>
      have hspan := spanDigits_append hw hnone
      simp only [List.isEmpty_nil, if_true, List.nil_append]
      rw [unsigned?, hspan, hv]
      cases rest with
      | nil => rfl
      | cons c r =>
          have hc : c ≠ '.' := by
            simp only [numberEnds, Bool.and_eq_true, bne_iff_ne] at hrest
            exact hrest.2
          simp [hc, digitValues]
  | cons d ds =>
      have hpoint : noDigit ('.' :: (d :: ds ++ rest)) = true := rfl
      have hspan := spanDigits_append hw hpoint
      have hfraction := spanDigits_append hf hnone
      simp only [List.isEmpty_cons, Bool.false_eq_true, if_false, List.cons_append] at *
      simp [unsigned?, hspan, hv, hfraction]

theorem takeSign_pointed {whole : List Char} (hw : AllDigits whole) (hne : whole ≠ [])
    (fraction rest : List Char) :
    takeSign (pointed whole fraction ++ rest) = (false, pointed whole fraction ++ rest) := by
  obtain ⟨c, cs, rfl⟩ := List.exists_cons_of_ne_nil hne
  have hdigit : c.isDigit = true := hw c List.mem_cons_self
  have hplus : c ≠ '+' := by rintro rfl; exact absurd hdigit (by decide)
  have hminus : c ≠ '-' := by rintro rfl; exact absurd hdigit (by decide)
  simp [pointed, takeSign, hplus, hminus]

/-- Digits with a fraction whose magnitude is in the interval of a float are read as it. -/
theorem toFloat_of_contains (negative : Bool) {whole fraction : List Char} {m : ℕ} {e : ℤ}
    (hc : Canonical m e) (hm : 0 < m)
    (hv : (interval m e).Contains (pointedValue whole fraction)) :
    (Numeral.mk negative (digitValues whole) (digitValues fraction) 0).toFloat =
      ofSignCode negative (codeOf m e) := by
  rw [Numeral.toFloat, ← digitValues_append, length_digitValues, zero_sub]
  exact nearestDecimal_of_contains negative hc hm hv

theorem AllDigits.append {s t : List Char} (hs : AllDigits s) (ht : AllDigits t) :
    AllDigits (s ++ t) :=
  fun c hc => (List.mem_append.1 hc).elim (hs c) (ht c)

theorem allDigits_zeros (k : Nat) : AllDigits (List.replicate k '0') := by
  intro c hc
  rw [List.eq_of_mem_replicate hc]
  rfl

section Positional

variable {ds : List Char} {point : ℤ}

/-- Digits with the point before them. -/
theorem positional_of_nonpos (hne : ds ≠ []) (hp : point ≤ 0) :
    positional ds point = pointed ['0'] (List.replicate (-point).toNat '0' ++ ds) ∧
      pointedValue ['0'] (List.replicate (-point).toNat '0' ++ ds) =
        ofDigits (digitValues ds) * 10 ^ (point - ds.length) := by
  constructor
  · simp [positional, hp, pointed, hne]
  · simp only [pointedValue, digitValues_append, digitValues_replicate, ofDigits_append,
      ofDigits_replicate_zero, List.length_append, List.length_replicate]
    rw [show point - (ds.length : ℤ) = -(((-point).toNat + ds.length : ℕ) : ℤ) by omega]
    simp [digitValues, ofDigits]

/-- Digits with the point among them. -/
theorem positional_of_lt_length (hp : 0 < point) (hlt : point.toNat < ds.length) :
    positional ds point = pointed (ds.take point.toNat) (ds.drop point.toNat) ∧
      pointedValue (ds.take point.toNat) (ds.drop point.toNat) =
        ofDigits (digitValues ds) * 10 ^ (point - ds.length) := by
  have hzeros : point.toNat - ds.length = 0 := by omega
  have hfraction : (ds.drop point.toNat).isEmpty = false := by simp; omega
  constructor
  · simp [positional, not_le.2 hp, pointed, hfraction, hzeros]
  · rw [pointedValue, List.take_append_drop, List.length_drop]
    congr 2
    omega

/-- Digits with the point behind them. -/
theorem positional_of_length_le (hp : 0 < point) (hle : ds.length ≤ point.toNat) :
    positional ds point =
        pointed (ds ++ List.replicate (point.toNat - ds.length) '0') ['0'] ∧
      pointedValue (ds ++ List.replicate (point.toNat - ds.length) '0') ['0'] =
        ofDigits (digitValues ds) * 10 ^ (point - ds.length) := by
  have hfraction : (ds.drop point.toNat).isEmpty = true := by simp; omega
  have htake : ds.take point.toNat = ds := List.take_of_length_le hle
  constructor
  · simp [positional, not_le.2 hp, pointed, hfraction, htake]
  · rw [pointedValue, digitValues_append, digitValues_append, digitValues_replicate,
      ofDigits_append, ofDigits_append, ofDigits_replicate_zero, length_digitValues,
      List.length_replicate]
    rw [show point - (ds.length : ℤ) = ((point.toNat - ds.length : ℕ) : ℤ) by omega,
      zpow_natCast]
    simp [digitValues, ofDigits]

theorem pointed_positional (hds : AllDigits ds) (hne : ds ≠ []) (point : ℤ) :
    ∃ whole fraction, positional ds point = pointed whole fraction ∧ whole ≠ [] ∧
      AllDigits whole ∧ AllDigits fraction ∧
      pointedValue whole fraction = ofDigits (digitValues ds) * 10 ^ (point - ds.length) := by
  have hzero : AllDigits ['0'] := by simp [AllDigits]
  rcases le_or_gt point 0 with hp | hp
  · obtain ⟨htext, hvalue⟩ := positional_of_nonpos hne hp
    exact ⟨_, _, htext, by simp, hzero, (allDigits_zeros _).append hds, hvalue⟩
  rcases lt_or_ge point.toNat ds.length with hlt | hle
  · obtain ⟨htext, hvalue⟩ := positional_of_lt_length hp hlt
    have hwhole : ds.take point.toNat ≠ [] := by
      rw [Ne, List.take_eq_nil_iff, not_or]
      exact ⟨by omega, hne⟩
    exact ⟨_, _, htext, hwhole, fun c hc => hds c (List.mem_of_mem_take hc),
      fun c hc => hds c (List.mem_of_mem_drop hc), hvalue⟩
  · obtain ⟨htext, hvalue⟩ := positional_of_length_le hp hle
    exact ⟨_, _, htext, by simp [hne], hds.append (allDigits_zeros _), hzero, hvalue⟩

end Positional

/-! ### Plain magnitudes -/

/-- Whether a magnitude is written in programs without a power of ten: it is below `10 ^ 21`, and
whole or not below `10 ^ -4`. -/
def isPlainMagnitude (m : Nat) (e : Int) : Bool :=
  let r := ratio m e
  r.1 < 10 ^ 21 * r.2 && (r.1 % r.2 == 0 || r.2 ≤ 10 ^ 4 * r.1)

/-- Whether a float is finite and of such a magnitude. -/
def isPlain (x : Float) : Bool :=
  match parts x with
  | .finite _ m e => isPlainMagnitude m e
  | _ => false

theorem ratio_pos (m : ℕ) (e : ℤ) : 0 < (ratio m e).2 := Nat.two_pow_pos _

theorem small_of_not_whole {m : ℕ} {e : ℤ} (h : ¬ (ratio m e).1 % (ratio m e).2 = 0) : e ≤ -1 := by
  by_contra he
  have hz : (-e).toNat = 0 := by omega
  rw [ratio, hz, pow_zero, Nat.mod_one] at h
  exact h rfl

/-- The digits of the shortest decimal of a small magnitude stand before the seventeenth place. -/
theorem point_le {m d : ℕ} {e t : ℤ} (hc : Canonical m e) (hm : 0 < m) (he : e ≤ -1)
    (hd : 0 < d) (hv : (interval m e).Contains (d * 10 ^ t)) :
    ((digitChars d).length : ℤ) + t ≤ 16 := by
  obtain ⟨-, hhigh, -, -⟩ := bounds_of_contains hm hv
  have hpow : (0 : ℚ) < 2 ^ e := by positivity
  have hm53 : (m : ℚ) + 1 ≤ 2 ^ 53 := by exact_mod_cast hc.significand
  have hten : (0 : ℚ) < 10 ^ t := by positivity
  have hlen : 0 < (digitChars d).length := Nat.length_toDigits_pos
  have hd10 : (10 : ℚ) ^ ((digitChars d).length - 1) ≤ d := by exact_mod_cast pow_length_le hd
  rw [div_le_iff₀ hpow] at hhigh
  have hlt : (10 : ℚ) ^ (((digitChars d).length : ℤ) - 1 + t) < 10 ^ (16 : ℤ) := by
    calc (10 : ℚ) ^ (((digitChars d).length : ℤ) - 1 + t)
        = 10 ^ ((digitChars d).length - 1) * 10 ^ t := by
          rw [zpow_add₀ (by norm_num), ← zpow_natCast, Nat.cast_sub hlen, Nat.cast_one]
      _ ≤ d * 10 ^ t := by gcongr
      _ ≤ (m + 1 / 2) * 2 ^ e := hhigh
      _ ≤ (m + 1 / 2) * 2 ^ (-1 : ℤ) := by
          have := zpow_le_zpow_right₀ (by norm_num : (1 : ℚ) ≤ 2) he
          gcongr
      _ < 10 ^ (16 : ℤ) := by norm_num at hm53 ⊢; linarith
  have := (zpow_lt_zpow_iff_right₀ (by norm_num)).1 hlt
  omega

/-- The float nearest to a ten-thousandth is above it, and no other float whose interval reaches
below that bound is at least a ten-thousandth. -/
theorem low_bound {m d : ℕ} {e t : ℤ} (hc : Canonical m e) (hm : 0 < m)
    (hlarge : (10 : ℚ) ^ (-4 : ℤ) ≤ m * 2 ^ e)
    (hother : ¬ (m = 0x1A36E2EB1C432D ∧ e = -66))
    (hv : (interval m e).Contains (d * 10 ^ t)) : (10 : ℚ) ^ (-4 : ℤ) ≤ d * 10 ^ t := by
  obtain ⟨hlow, -, -, -⟩ := bounds_of_contains hm hv
  have hpow : (0 : ℚ) < 2 ^ e := by positivity
  have hm1 : (1 : ℚ) ≤ m := by exact_mod_cast hm
  have hm53 : (m : ℚ) + 1 ≤ 2 ^ 53 := by exact_mod_cast hc.significand
  rw [le_div_iff₀ hpow] at hlow
  refine le_trans ?_ hlow
  have he : -66 ≤ e := by
    by_contra hlt
    have h1 := zpow_le_zpow_right₀ (by norm_num : (1 : ℚ) ≤ 2) (by omega : e ≤ -67)
    have h2 : (m : ℚ) * 2 ^ e ≤ 2 ^ 53 * 2 ^ (-67 : ℤ) := by gcongr; linarith
    have h3 : (2 : ℚ) ^ 53 * 2 ^ (-67 : ℤ) < 10 ^ (-4 : ℤ) := by norm_num
    linarith
  have hnormal : 2 ^ 52 ≤ m := hc.normal.resolve_left (by rw [leastExponent]; omega)
  rcases eq_or_lt_of_le he with rfl | he
  · have hten : (10 : ℚ) ^ (-4 : ℤ) = 1 / 10000 := by norm_num
    have htwo : (2 : ℚ) ^ (-66 : ℤ) = 1 / 73786976294838206464 := by norm_num
    rw [hten, htwo] at hlarge ⊢
    have h1 : (0x1A36E2EB1C432C : ℚ) < m := by linarith
    have h2 : 0x1A36E2EB1C432C < m := by exact_mod_cast h1
    have h3 : 0x1A36E2EB1C432E ≤ m := by omega
    have h4 : (0x1A36E2EB1C432E : ℚ) ≤ m := by exact_mod_cast h3
    linarith
  · have h1 : (2 : ℚ) ^ 52 ≤ m := by exact_mod_cast hnormal
    calc (10 : ℚ) ^ (-4 : ℤ) ≤ (2 ^ 52 - 1 / 2) * 2 ^ (-65 : ℤ) := by norm_num
      _ ≤ (m - 1 / 2) * 2 ^ (-65 : ℤ) := by gcongr
      _ ≤ (m - 1 / 2) * 2 ^ e := by
          have := zpow_le_zpow_right₀ (by norm_num : (1 : ℚ) ≤ 2) (by omega : -65 ≤ e)
          have : (0 : ℚ) ≤ m - 1 / 2 := by linarith
          gcongr

theorem lt_point {m : ℕ} {e : ℤ} (hc : Canonical m e) (hm : 0 < m)
    (hlarge : (10 : ℚ) ^ (-4 : ℤ) ≤ m * 2 ^ e) :
    -4 < ((digitChars (shortest m e).digits).length : ℤ) + (shortest m e).exponent := by
  by_cases h : m = 0x1A36E2EB1C432D ∧ e = -66
  · obtain ⟨rfl, rfl⟩ := h
    decide +kernel
  · have hlow := low_bound hc hm hlarge h (shortest_contains hm e)
    have hd : ((shortest m e).digits : ℚ) < 10 ^ (digitChars (shortest m e).digits).length := by
      exact_mod_cast lt_pow_length _
    have hten : (0 : ℚ) < 10 ^ (shortest m e).exponent := by positivity
    have hlt : (10 : ℚ) ^ (-4 : ℤ) <
        10 ^ (((digitChars (shortest m e).digits).length : ℤ) + (shortest m e).exponent) := by
      rw [zpow_add₀ (by norm_num), zpow_natCast]
      exact hlow.trans_lt (mul_lt_mul_of_pos_right hd hten)
    exact (zpow_lt_zpow_iff_right₀ (by norm_num)).1 hlt

theorem digits_shortest_pos {m : ℕ} {e : ℤ} (hc : Canonical m e) (hm : 0 < m) :
    0 < (shortest m e).digits := by
  rcases Nat.eq_zero_or_pos (shortest m e).digits with h | h
  · obtain ⟨hlow, -⟩ := range_of_contains hc hm (shortest_contains hm e)
    rw [h, Nat.cast_zero, zero_mul] at hlow
    exact absurd hlow (not_le.2 (by positivity))
  · exact h

open Program

section Magnitudes

variable {m : ℕ} {e : ℤ}

/-- A whole magnitude that is not huge is written with the digits of the whole number. -/
theorem magnitude_of_whole (hbelow : (ratio m e).1 < 10 ^ 21 * (ratio m e).2)
    (hw : (ratio m e).1 % (ratio m e).2 = 0) :
    wordStyle.magnitude m e = pointed (digitChars ((ratio m e).1 / (ratio m e).2)) [] := by
  have hlt : (ratio m e).1 / (ratio m e).2 < wordStyle.wholeBelow :=
    (Nat.div_lt_iff_lt_mul (ratio_pos m e)).2 hbelow
  rw [Style.magnitude]
  simp only [if_pos (And.intro hw hlt)]
  simp [pointed]

theorem pointedValue_of_whole (hw : (ratio m e).1 % (ratio m e).2 = 0) :
    pointedValue (digitChars ((ratio m e).1 / (ratio m e).2)) [] = m * 2 ^ e := by
  have hpos : (0 : ℚ) < (ratio m e).2 := by exact_mod_cast ratio_pos m e
  have hvalue : (((ratio m e).1 / (ratio m e).2 : ℕ) : ℚ) = m * 2 ^ e := by
    rw [← ratio_div, Nat.cast_div (Nat.dvd_of_mod_eq_zero hw) hpos.ne']
  simpa [pointedValue] using hvalue

theorem pos_of_not_whole (hw : ¬ (ratio m e).1 % (ratio m e).2 = 0) : 0 < m := by
  rcases Nat.eq_zero_or_pos m with rfl | hm
  · simp [ratio] at hw
  · exact hm

/-- A magnitude that is neither whole nor tiny is written with the digits of its shortest
decimal. -/
theorem magnitude_of_not_whole (hc : Canonical m e)
    (hw : ¬ (ratio m e).1 % (ratio m e).2 = 0) (hlarge : (ratio m e).2 ≤ 10 ^ 4 * (ratio m e).1) :
    wordStyle.magnitude m e = positional (digitChars (shortest m e).digits)
      ((digitChars (shortest m e).digits).length + (shortest m e).exponent) := by
  have hm : 0 < m := pos_of_not_whole hw
  have hpos : (0 : ℚ) < (ratio m e).2 := by exact_mod_cast ratio_pos m e
  have hleast : (10 : ℚ) ^ (-4 : ℤ) ≤ m * 2 ^ e := by
    have h : ((ratio m e).2 : ℚ) ≤ 10 ^ 4 * (ratio m e).1 := by exact_mod_cast hlarge
    rw [← ratio_div, le_div_iff₀ hpos, zpow_neg, inv_mul_le_iff₀ (by positivity)]
    exact_mod_cast h
  have h16 := point_le hc hm (small_of_not_whole hw) (digits_shortest_pos hc hm)
    (shortest_contains hm e)
  have h4 := lt_point hc hm hleast
  rw [Style.magnitude]
  simp only [if_neg (fun h : _ ∧ _ => hw h.1), if_neg hm.ne', Style.decimal,
    if_pos (And.intro h16 h4)]

/-- A plain magnitude is written with its digits, which stand for zero or for a decimal of the
interval. -/
theorem magnitude_pointed (hc : Canonical m e) (hp : isPlainMagnitude m e = true) :
    ∃ whole fraction, wordStyle.magnitude m e = pointed whole fraction ∧ whole ≠ [] ∧
      AllDigits whole ∧ AllDigits fraction ∧
      (m = 0 ∧ ofDigits (digitValues (whole ++ fraction)) = 0 ∨
        0 < m ∧ (interval m e).Contains (pointedValue whole fraction)) := by
  simp only [isPlainMagnitude, Bool.and_eq_true, Bool.or_eq_true, decide_eq_true_eq,
    beq_iff_eq] at hp
  obtain ⟨hbelow, hkind⟩ := hp
  by_cases hw : (ratio m e).1 % (ratio m e).2 = 0
  · refine ⟨digitChars ((ratio m e).1 / (ratio m e).2), [], magnitude_of_whole hbelow hw,
      digitChars_ne_nil _, allDigits_digitChars _, by simp [AllDigits], ?_⟩
    rcases Nat.eq_zero_or_pos m with rfl | hm
    · exact .inl ⟨rfl, by simp [ratio]⟩
    · refine .inr ⟨hm, ?_⟩
      rw [pointedValue_of_whole hw]
      exact contains_self hm e
  · have hm : 0 < m := pos_of_not_whole hw
    obtain ⟨whole, fraction, htext, hne, hwd, hfd, hvalue⟩ :=
      pointed_positional (allDigits_digitChars (shortest m e).digits) (digitChars_ne_nil _)
        ((digitChars (shortest m e).digits).length + (shortest m e).exponent)
    have htext := (magnitude_of_not_whole hc hw (hkind.resolve_left hw)).trans htext
    refine ⟨whole, fraction, htext, hne, hwd, hfd, .inr ⟨hm, ?_⟩⟩
    rw [hvalue, ofDigits_digitChars, add_sub_cancel_left]
    exact shortest_contains hm e

end Magnitudes

/-! ### Written floats -/

/-- A float without the sign of a zero, which no program shows. -/
def settled (x : Float) : Float := if isZero x then zero else x

/-- The reading of a plain magnitude, with any sign in front of it. -/
theorem unsigned?_magnitude {m : ℕ} {e : ℤ} (hc : Canonical m e)
    (hp : isPlainMagnitude m e = true) {rest : List Char} (hrest : numberEnds rest = true) :
    ∃ n, unsigned? (wordStyle.magnitude m e ++ rest) = some (n, rest) ∧ n.negative = false ∧
      ∀ negative, Numeral.toFloat { n with negative := negative } =
        ofSignCode negative (codeOf m e) := by
  obtain ⟨whole, fraction, htext, hne, hw, hf, hvalue⟩ := magnitude_pointed hc hp
  refine ⟨_, by rw [htext, unsigned?_pointed hw hf hne hrest], rfl, fun negative => ?_⟩
  rcases hvalue with ⟨rfl, hzero⟩ | ⟨hm, hcontains⟩
  · obtain rfl : e = leastExponent := hc.normal.resolve_right (by decide)
    rw [Numeral.toFloat]
    simp only [← digitValues_append, hzero, nearestDecimal, if_true]
    rfl
  · exact toFloat_of_contains negative hc hm hcontains

theorem takeSign_magnitude {m : ℕ} {e : ℤ} (hc : Canonical m e)
    (hp : isPlainMagnitude m e = true) (rest : List Char) :
    takeSign (wordStyle.magnitude m e ++ rest) = (false, wordStyle.magnitude m e ++ rest) := by
  obtain ⟨whole, fraction, htext, hne, hw, -⟩ := magnitude_pointed hc hp
  rw [htext]
  exact takeSign_pointed hw hne fraction rest

def signChars (negative : Bool) : List Char := if negative then ['-'] else []

theorem decimal?_magnitude {m : ℕ} {e : ℤ} (hc : Canonical m e)
    (hp : isPlainMagnitude m e = true) (negative : Bool) {rest : List Char}
    (hrest : numberEnds rest = true) :
    ∃ n, decimal? (signChars negative ++ (wordStyle.magnitude m e ++ rest)) = some (n, rest) ∧
      n.toFloat = ofSignCode negative (codeOf m e) := by
  obtain ⟨n, hread, -, hvalue⟩ := unsigned?_magnitude hc hp hrest
  refine ⟨{ n with negative := negative }, ?_, hvalue negative⟩
  have hsign : takeSign (signChars negative ++ (wordStyle.magnitude m e ++ rest)) =
      (negative, wordStyle.magnitude m e ++ rest) := by
    cases negative with
    | false => exact takeSign_magnitude hc hp rest
    | true => rfl
  simp only [decimal?, hsign, hread, Option.map_some]

theorem toList_writeFloat {x : Float} {negative : Bool} {m : ℕ} {e : ℤ}
    (h : parts x = .finite negative m e) :
    (writeFloat x).toList = signChars (negative && m != 0) ++ wordStyle.magnitude m e := by
  have hwhole : (wordStyle.wholeBelow != 0) = true := rfl
  simp only [writeFloat, Style.write, h, hwhole, Bool.and_true, String.toList_ofList]
  cases negative <;> cases hm : (m == 0) <;> simp [bne, hm, signChars]

theorem exists_parts_of_isPlain {x : Float} (h : isPlain x = true) :
    ∃ negative m e, parts x = .finite negative m e ∧ Canonical m e ∧
      isPlainMagnitude m e = true := by
  rw [isPlain] at h
  split at h
  · rename_i negative m e hx
    exact ⟨negative, m, e, hx, canonical_parts hx, h⟩
  · cases h

theorem settled_eq {x : Float} {negative : Bool} {m : ℕ} {e : ℤ}
    (h : parts x = .finite negative m e) :
    settled x = ofSignCode (negative && m != 0) (codeOf m e) := by
  by_cases hm : m = 0
  · subst hm
    obtain rfl : e = leastExponent := (canonical_parts h).normal.resolve_right (by decide)
    rw [settled, if_pos (isZero_iff.2 ⟨negative, h⟩)]
    cases negative <;> rfl
  · have hnz : isZero x = false := by simp [isZero, h, hm]
    have hb : (m != 0) = true := by simp [hm]
    rw [settled, hnz, if_neg Bool.false_ne_true, hb, Bool.and_true, ← eq_ofSignCode h]

theorem beq_settled {x : Float} (h : isPlain x = true) : (x == settled x) = true := by
  obtain ⟨negative, m, e, hparts, -, -⟩ := exists_parts_of_isPlain h
  cases hz : isZero x with
  | true =>
      rw [settled, hz, if_pos rfl]
      exact beq_of_isZero hz isZero_zero
  | false =>
      rw [settled, hz, if_neg Bool.false_ne_true]
      exact beq_self hparts

/-- A plain float is read back, up to the sign of a zero. -/
theorem decimal?_writeFloat {x : Float} (hp : isPlain x = true) {rest : List Char}
    (hrest : numberEnds rest = true) :
    ∃ n, decimal? ((writeFloat x).toList ++ rest) = some (n, rest) ∧ n.toFloat = settled x := by
  obtain ⟨negative, m, e, hx, hc, hp⟩ := exists_parts_of_isPlain hp
  rw [toList_writeFloat hx, List.append_assoc, settled_eq hx]
  exact decimal?_magnitude hc hp _ hrest

/-- A plain float that is not below zero is read back without a sign. -/
theorem unsigned?_writeFloat {x : Float} (hp : isPlain x = true) (hx : zero ≤ x)
    {rest : List Char} (hrest : numberEnds rest = true) :
    ∃ n, unsigned? ((writeFloat x).toList ++ rest) = some (n, rest) ∧ n.toFloat = settled x := by
  obtain ⟨negative, m, e, hparts, hc, hp⟩ := exists_parts_of_isPlain hp
  have hsign : (negative && m != 0) = false := by
    rcases (zero_le_iff hparts).1 hx with rfl | rfl
    · rfl
    · exact Bool.and_false negative
  obtain ⟨n, hread, hn, hvalue⟩ := unsigned?_magnitude hc hp hrest
  rw [toList_writeFloat hparts, settled_eq hparts, hsign]
  exact ⟨n, hread, by rw [← hvalue false, ← hn]⟩

/-- A plain float that is not below zero is read back from behind a sign. -/
theorem decimal?_signed_writeFloat {x : Float} (hp : isPlain x = true) (hx : zero ≤ x)
    (negative : Bool) {rest : List Char} (hrest : numberEnds rest = true) :
    ∃ n, decimal? (signChars negative ++ ((writeFloat x).toList ++ rest)) = some (n, rest) ∧
      n.toFloat.abs = settled x ∧
      (n.toFloat < zero ↔ negative = true ∧ isZero x = false) := by
  obtain ⟨sign, m, e, hparts, hc, hp⟩ := exists_parts_of_isPlain hp
  have hsign : (sign && m != 0) = false := by
    rcases (zero_le_iff hparts).1 hx with rfl | rfl
    · rfl
    · exact Bool.and_false sign
  obtain ⟨n, hread, hvalue⟩ := decimal?_magnitude hc hp negative hrest
  have hn : parts n.toFloat = .finite negative m e := by
    rw [hvalue, parts_ofSignCode _ (codeOf_lt hc).le, ofCode_codeOf _ hc]
  rw [toList_writeFloat hparts, settled_eq hparts, hsign]
  refine ⟨n, hread, ?_, ?_⟩
  · rw [eq_ofSignCode (parts_abs hn)]
  · rw [lt_zero_iff hn]
    simp [isZero, hparts]

theorem isWhole_iff {x : Float} {negative : Bool} {m : ℕ} {e : ℤ}
    (h : parts x = .finite negative m e) :
    isWhole x = true ↔ (ratio m e).1 % (ratio m e).2 = 0 := by
  simp [isWhole, h]

/-- A whole plain float that is not below zero is written with its digits alone. -/
theorem spanDigits_writeFloat {x : Float} (hp : isPlain x = true) (hw : isWhole x = true)
    (hx : zero ≤ x) {rest : List Char} (hrest : noDigit rest = true) :
    ∃ ds, spanDigits ((writeFloat x).toList ++ rest) = (ds, rest) ∧ ds ≠ [] ∧
      nearestDecimal false (ofDigits ds) 0 = settled x := by
  obtain ⟨negative, m, e, hparts, hc, hp⟩ := exists_parts_of_isPlain hp
  rw [isWhole_iff hparts] at hw
  simp only [isPlainMagnitude, Bool.and_eq_true, decide_eq_true_eq] at hp
  have hsign : (negative && m != 0) = false := by
    rcases (zero_le_iff hparts).1 hx with rfl | rfl
    · rfl
    · exact Bool.and_false negative
  have hlt : (ratio m e).1 / (ratio m e).2 < wordStyle.wholeBelow :=
    (Nat.div_lt_iff_lt_mul (ratio_pos m e)).2 hp.1
  have htext : (writeFloat x).toList = digitChars ((ratio m e).1 / (ratio m e).2) := by
    rw [toList_writeFloat hparts, hsign]
    simp only [signChars, Bool.false_eq_true, if_false, List.nil_append, Style.magnitude,
      if_pos (And.intro hw hlt)]
  refine ⟨_, by rw [htext, spanDigits_append (allDigits_digitChars _) hrest], ?_, ?_⟩
  · simpa [digitValues] using digitChars_ne_nil _
  · rw [ofDigits_digitChars, settled_eq hparts, hsign]
    rcases Nat.eq_zero_or_pos m with rfl | hm
    · obtain rfl : e = leastExponent := hc.normal.resolve_right (by decide)
      simp [ratio, nearestDecimal, codeOf]
    · have hpos : (0 : ℚ) < (ratio m e).2 := by exact_mod_cast ratio_pos m e
      have hvalue : (((ratio m e).1 / (ratio m e).2 : ℕ) : ℚ) * 10 ^ (0 : ℤ) = m * 2 ^ e := by
        rw [← ratio_div, Nat.cast_div (Nat.dvd_of_mod_eq_zero hw) hpos.ne', zpow_zero, mul_one]
      exact nearestDecimal_of_contains false hc hm (hvalue ▸ contains_self hm e)

/-! ### The characters of numbers -/

def floatChars : List Char := "0123456789-.+eNaInfity".toList

def plainChars : List Char := "0123456789-.".toList

theorem mem_plainChars_of_isDigit {c : Char} (h : c.isDigit = true) : c ∈ plainChars := by
  have h1 : 48 ≤ c.toNat ∧ c.toNat ≤ 57 := by
    simpa [Char.isDigit, UInt32.le_iff_toNat_le] using h
  have h2 : ∀ n, 48 ≤ n → n ≤ 57 → Char.ofNat n ∈ plainChars := by decide
  have h3 := h2 c.toNat h1.1 h1.2
  rwa [Char.ofNat_toNat] at h3

theorem plainChars_subset : plainChars ⊆ floatChars := by decide

theorem mem_floatChars_of_isDigit {c : Char} (h : c.isDigit = true) : c ∈ floatChars :=
  plainChars_subset (mem_plainChars_of_isDigit h)

theorem digitChars_subset (n : Nat) : digitChars n ⊆ floatChars :=
  fun c hc => mem_floatChars_of_isDigit (allDigits_digitChars n c hc)

theorem replicate_zero_subset (k : Nat) : List.replicate k '0' ⊆ floatChars := by
  intro c hc
  rw [List.eq_of_mem_replicate hc]
  decide

theorem powerChars_subset (e : Int) : powerChars e ⊆ floatChars := by
  simp only [powerChars, List.cons_subset, List.append_subset]
  refine ⟨by decide, ?_, replicate_zero_subset _, digitChars_subset _⟩
  split <;> decide

theorem positional_subset {ds : List Char} (h : ds ⊆ floatChars) (point : Int) :
    positional ds point ⊆ floatChars := by
  rw [positional]
  split
  · simp only [List.cons_subset, List.append_subset]
    exact ⟨by decide, by decide, replicate_zero_subset _, h⟩
  · simp only [List.append_subset, List.cons_subset]
    refine ⟨⟨fun c hc => h (List.mem_of_mem_take hc), replicate_zero_subset _⟩, by decide, ?_⟩
    split
    · decide
    · exact fun c hc => h (List.mem_of_mem_drop hc)

theorem withPower_subset {ds : List Char} (h : ds ⊆ floatChars) (e : Int) :
    withPower false ds e ⊆ floatChars := by
  rw [withPower.eq_def]
  split
  · exact List.nil_subset _
  · exact List.append_subset.2 ⟨h, powerChars_subset e⟩
  · simp only [List.cons_subset, List.append_subset] at h ⊢
    exact ⟨⟨h.1, by decide, h.2⟩, powerChars_subset e⟩

theorem magnitude_subset (m : Nat) (e : Int) : wordStyle.magnitude m e ⊆ floatChars := by
  simp only [Style.magnitude, Style.decimal]
  split
  · exact digitChars_subset _
  · split
    · decide
    · split
      · exact positional_subset (digitChars_subset _) _
      · exact withPower_subset (digitChars_subset _) _

theorem writeFloat_subset (x : Float) : (writeFloat x).toList ⊆ floatChars := by
  cases h : parts x with
  | nan =>
      simp only [writeFloat, Style.write, h]
      decide
  | infinite negative =>
      simp only [writeFloat, Style.write, h]
      cases negative <;> decide
  | finite negative m e =>
      rw [toList_writeFloat h]
      refine List.append_subset.2 ⟨?_, magnitude_subset m e⟩
      cases hn : negative && m != 0 <;> decide

theorem pointed_subset {whole fraction : List Char} (hw : AllDigits whole)
    (hf : AllDigits fraction) : pointed whole fraction ⊆ plainChars := by
  rw [pointed, List.append_subset]
  refine ⟨fun c hc => mem_plainChars_of_isDigit (hw c hc), ?_⟩
  split
  · exact List.nil_subset _
  · exact List.cons_subset.2 ⟨by decide, fun c hc => mem_plainChars_of_isDigit (hf c hc)⟩

theorem signChars_subset (negative : Bool) : signChars negative ⊆ plainChars := by
  cases negative <;> decide

theorem writeFloat_subset_plain {x : Float} (hp : isPlain x = true) :
    (writeFloat x).toList ⊆ plainChars := by
  obtain ⟨negative, m, e, hx, hc, hp⟩ := exists_parts_of_isPlain hp
  obtain ⟨whole, fraction, htext, -, hw, hf, -⟩ := magnitude_pointed hc hp
  rw [toList_writeFloat hx, htext]
  exact List.append_subset.2 ⟨signChars_subset _, pointed_subset hw hf⟩

end TouchProbe.Number
