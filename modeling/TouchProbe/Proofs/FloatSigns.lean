import TouchProbe.Proofs.FloatBits

/-!
The signs of products and quotients of floats.  What an operation makes of two finite floats is
rounded and put into bits, where it may become a zero or an infinity, but it keeps the sign that it
was given.
-/

namespace TouchProbe.Number

open Float.Model

/-! ### Floats with a sign -/

/-- Whether a float is a number with a sign, be it infinite or a zero. -/
def HasSign (negative : Bool) (x : Float) : Prop :=
  parts x = .infinite negative ∨ ∃ m e, parts x = .finite negative m e

theorem isNaN_eq_false_iff_hasSign {x : Float} : x.isNaN = false ↔ ∃ negative, HasSign negative x := by
  rw [isNaN_eq_false]
  cases hx : parts x with
  | nan => simp [HasSign, hx]
  | infinite negative => simp [HasSign, hx]
  | finite negative m e => simp [HasSign, hx]

theorem isNaN_iff {x : Float} : x.isNaN = true ↔ parts x = .nan := by
  rw [← Bool.not_eq_false, isNaN_eq_false, not_not]

theorem lt_zero_iff_of_hasSign {x : Float} {negative : Bool} (h : HasSign negative x) :
    x < zero ↔ negative = true ∧ isZero x = false := by
  rcases h with hx | ⟨m, e, hx⟩
  · rw [lt_iff, hx, parts_zero, isZero, hx]
    cases negative <;> decide
  · rw [lt_zero_iff hx, isZero, hx, beq_eq_false_iff_ne]

theorem hasSign_unique {x : Float} {negative other : Bool} (h : HasSign negative x)
    (h' : HasSign other x) :
    negative = other := by
  rcases h with h | ⟨_, _, h⟩ <;> rcases h' with h' | ⟨_, _, h'⟩ <;> grind

/-- Whether two floats are numbers of the same sign. -/
def SameSign (x y : Float) : Prop := ∃ negative, HasSign negative x ∧ HasSign negative y

theorem sameSign_iff {x y : Float} {negative other : Bool} (hx : HasSign negative x)
    (hy : HasSign other y) : SameSign x y ↔ negative = other := by
  constructor
  · rintro ⟨sign, hx', hy'⟩
    exact (hasSign_unique hx hx').trans (hasSign_unique hy' hy)
  · rintro rfl
    exact ⟨negative, hx, hy⟩

/-! ### What is put into bits -/

theorem parts_pack {u : UnpackedFloat} {negative : Bool} {e : BitVec 11} {m : BitVec 52}
    (h : UnpackedFloat.pack Format.binary64 u =
      UnpackedFloat.packComponents Format.binary64 (signOf negative) e m) :
    parts (Float.ofModel (pack u)) = ofCode negative (e.toNat * 2 ^ 52 + m.toNat) := by
  have hn : (Float.ofModel (pack u)).toBits.toNat =
      (if negative then 2 ^ 63 else 0) + e.toNat * 2 ^ 52 + m.toNat := by
    rw [← toNat_packComponents, ← h]
    rfl
  have he := e.isLt
  have hm := m.isLt
  rw [parts]
  simp only [hn]
  cases negative
  · have h1 : (0 + e.toNat * 2 ^ 52 + m.toNat) / 2 ^ 63 = 0 := by omega
    have h2 : (0 + e.toNat * 2 ^ 52 + m.toNat) % 2 ^ 63 = e.toNat * 2 ^ 52 + m.toNat := by omega
    simp only [Bool.false_eq_true, if_false, h1, h2]
    rfl
  · have h1 : (2 ^ 63 + e.toNat * 2 ^ 52 + m.toNat) / 2 ^ 63 = 1 := by omega
    have h2 : (2 ^ 63 + e.toNat * 2 ^ 52 + m.toNat) % 2 ^ 63 = e.toNat * 2 ^ 52 + m.toNat := by omega
    simp only [if_true, h1, h2]
    rfl

theorem ofCode_zero (negative : Bool) : ofCode negative 0 = .finite negative 0 leastExponent := rfl

theorem parts_pack_zero (negative : Bool) :
    parts (Float.ofModel (pack (.zero (signOf negative)))) = .finite negative 0 leastExponent := by
  have h : parts _ = ofCode negative 0 := parts_pack_unpacked (Nat.zero_le _)
  rwa [ofCode_zero, unpacked, dif_pos rfl] at h

theorem isNaN_pack_notANumber : ¬ (Float.ofModel (pack .notANumber)).isNaN = false := by
  rw [Bool.not_eq_false, isNaN_iff]
  exact parts_pack_notANumber

/-- A code below that of infinity is that of a finite float, and of zero only if it is zero. -/
theorem exists_parts_ofCode (negative : Bool) {e m : Nat} (he : e < 2047) (hm : m < 2 ^ 52) :
    ∃ k f, ofCode negative (e * 2 ^ 52 + m) = .finite negative k f ∧ (k = 0 ↔ e = 0 ∧ m = 0) := by
  have hfield : (e * 2 ^ 52 + m) / 2 ^ 52 = e := by omega
  have hlow : (e * 2 ^ 52 + m) % 2 ^ 52 = m := by omega
  simp only [ofCode, hfield, hlow, if_neg he.ne]
  split
  · next h => exact ⟨m, _, rfl, by simp [h]⟩
  · next h => exact ⟨_, _, rfl, by simp [h]⟩

/-- A finite float keeps its sign when it is put into bits, and is no zero there if its significand
and its exponent are not too large and not too small. -/
theorem parts_pack_finite (negative : Bool) (m : Nat) (e : Int) (hm : 0 < m) :
    parts (Float.ofModel (pack (.finite (signOf negative) m e hm))) = .infinite negative ∨
      ∃ k f, parts (Float.ofModel (pack (.finite (signOf negative) m e hm))) = .finite negative k f ∧
        (m < 2 ^ 53 → leastExponent ≤ e → k ≠ 0) := by
  by_cases hover : 2047 ≤ (e + 1075).toNat
  · rw [parts_pack (pack_finite_of_le hm hover)]
    exact .inl (ofCode_infinityCode negative)
  · have hlt : (BitVec.ofNat 11 (e + 1075).toNat).toNat = (e + 1075).toNat := by
      rw [BitVec.toNat_ofNat]
      omega
    have hexponent : (if m.log2 = 52 then BitVec.ofNat 11 (e + 1075).toNat else 0#11).toNat < 2047 := by
      split
      · omega
      · decide
    rw [parts_pack (pack_finite hm (by omega))]
    obtain ⟨k, f, hcode, hk⟩ := exists_parts_ofCode negative hexponent (BitVec.ofNat 52 m).isLt
    refine .inr ⟨k, f, hcode, fun hlarge he hzero => ?_⟩
    obtain ⟨hfirst, hbits⟩ := hk.1 hzero
    -- With 53 digits the exponent is not zero; with fewer the digits are those of the significand.
    split at hfirst
    · rw [leastExponent] at he
      omega
    · next hlog =>
      have hlog' := (Nat.log2_lt hm.ne').2 hlarge
      have hsmall : m < 2 ^ 52 := (Nat.log2_lt hm.ne').1 (by omega)
      rw [BitVec.toNat_ofNat, Nat.mod_eq_of_lt hsmall] at hbits
      omega

/-! ### Rounding -/

section Rounding

open UnpackedFloat

theorem mantissa_shiftRight (em : ExtendedMantissa) (k : Nat) :
    (em >>> k).mantissa = em.mantissa / 2 ^ k := by
  induction k with
  | zero => exact (Nat.div_one _).symm
  | succ k ih =>
      change (em >>> k).mantissa / 2 = _
      rw [ih, Nat.div_div_eq_div_mul, ← Nat.pow_succ]

theorem mantissa_le_rounded (em : ExtendedMantissa) : em.mantissa ≤ em.roundedMantissa := by
  obtain ⟨m, roundBit, stickyBit⟩ := em
  cases roundBit <;> cases stickyBit <;>
    simp [ExtendedMantissa.roundedMantissa, ExtendedMantissa.accuracy, Accuracy.roundToNearestEven]

theorem mantissa_ofMantissaAndAccuracy (m : Nat) (accuracy : Accuracy) :
    (ExtendedMantissa.ofMantissaAndAccuracy m accuracy).mantissa = m := by
  cases accuracy with
  | exact => rfl
  | inexact o => cases o <;> rfl

/-- How far a significand is shifted: until it has 53 digits at most and the exponent is no smaller
than the least one, and no further. -/
theorem exists_shift (m : Nat) (e : Int) (accuracy : Accuracy) :
    ∃ k : Nat, (shiftToTargetExponent Format.binary64 m e accuracy).1.mantissa = m / 2 ^ k ∧
      (shiftToTargetExponent Format.binary64 m e accuracy).2 = e + k ∧ leastExponent ≤ e + k ∧
      m.log2 ≤ 52 + k ∧ (k = 0 ∨ m.log2 = 52 + k ∨ e + k = leastExponent) := by
  refine ⟨(Format.binary64.targetExponent (totalExponent m e) - e).toNat, ?_, rfl, ?_⟩
  · rw [shiftToTargetExponent, shiftToExponent, mantissa_shiftRight, mantissa_ofMantissaAndAccuracy]
  · have htarget : Format.binary64.targetExponent (totalExponent m e) =
        max ((m.log2 : Int) + 1 + e - 53) (-1074) := rfl
    rw [htarget, leastExponent]
    omega

theorem div_two_pow_ne_zero {m k : Nat} (hm : m ≠ 0) (h : k ≤ m.log2) : m / 2 ^ k ≠ 0 :=
  (Nat.div_pos ((Nat.le_log2 hm).1 h) (Nat.two_pow_pos k)).ne'

theorem div_two_pow_lt {m k : Nat} (h : m.log2 ≤ 52 + k) : m / 2 ^ k < 2 ^ 53 := by
  rw [Nat.div_lt_iff_lt_mul (Nat.two_pow_pos k), ← Nat.pow_add]
  exact Nat.lt_log2_self.trans_le (Nat.pow_le_pow_right (by decide) (by omega))

/-- What is rounded is a zero, or it is a finite float whose significand and exponent are not too
large and not too small.  It is a zero only if it was less than the least float. -/
theorem roundWithAccuracy_cases (s : Sign) (m : Nat) (e : Int) (accuracy : Accuracy) :
    roundWithAccuracy Format.binary64 s m e accuracy = .zero s ∧
        (m ≠ 0 → e + m.log2 < leastExponent) ∨
      ∃ k f hk, roundWithAccuracy Format.binary64 s m e accuracy = .finite s k f hk ∧ k < 2 ^ 53 ∧
        leastExponent ≤ f := by
  obtain ⟨k, hmantissa, hexponent, hleast, -, hk⟩ := exists_shift m e accuracy
  rw [roundWithAccuracy]
  generalize shiftToTargetExponent Format.binary64 m e accuracy = first at *
  obtain ⟨em, f⟩ := first
  obtain rfl : f = e + k := hexponent
  obtain ⟨l, hmantissa', hexponent', hleast', hlog', hl⟩ :=
    exists_shift em.roundedMantissa (e + k) .exact
  dsimp only
  split
  · next hzero =>
    refine .inl ⟨rfl, fun hm => ?_⟩
    -- The second shift takes no digit away if there is one, so there was none after the first
    -- shift.
    have hrounded : em.roundedMantissa = 0 := by
      by_contra hne
      rw [hmantissa'] at hzero
      exact div_two_pow_ne_zero hne (by omega) hzero
    have hnone : m / 2 ^ k = 0 := by
      rw [← hmantissa]
      exact Nat.le_zero.1 (hrounded ▸ mantissa_le_rounded em)
    by_contra hlarge
    exact div_two_pow_ne_zero hm (by omega) hnone
  · next hne =>
    refine .inr ⟨_, _, Nat.pos_of_ne_zero hne, rfl, ?_, ?_⟩
    · rw [hmantissa']
      exact div_two_pow_lt hlog'
    · rw [hexponent']
      exact hleast'

end Rounding

/-! ### Products and quotients -/

section Operations

variable {x y : Float} {negative other : Bool}

theorem mul_eq_pack (x y : Float) : x * y =
    Float.ofModel (pack (.mul Format.binary64 (unpacked (parts x)) (unpacked (parts y)))) := by
  rw [← unpack_toModel, ← unpack_toModel]
  rfl

theorem div_eq_pack (x y : Float) : x / y =
    Float.ofModel (pack (.div Format.binary64 (unpacked (parts x)) (unpacked (parts y)))) := by
  rw [← unpack_toModel, ← unpack_toModel]
  rfl

theorem signOf_mul (negative other : Bool) :
    signOf negative * signOf other = signOf (negative != other) := by
  cases negative <;> cases other <;> rfl

theorem signOf_div (negative other : Bool) :
    signOf negative / signOf other = signOf (negative != other) := by
  cases negative <;> cases other <;> rfl

theorem hasSign_pack_zero (negative : Bool) :
    HasSign negative (Float.ofModel (pack (.zero (signOf negative)))) :=
  .inr ⟨0, leastExponent, parts_pack_zero negative⟩

theorem hasSign_pack_infinity (negative : Bool) :
    HasSign negative (Float.ofModel (pack (.infinity (signOf negative)))) :=
  .inl (parts_pack_infinity negative)

/-- What is rounded keeps its sign. -/
theorem hasSign_pack_round (negative : Bool) (m : Nat) (e : Int) (accuracy : UnpackedFloat.Accuracy) :
    HasSign negative (Float.ofModel (pack
      (.roundWithAccuracy Format.binary64 (signOf negative) m e accuracy))) := by
  rcases roundWithAccuracy_cases (signOf negative) m e accuracy with ⟨hzero, -⟩ | ⟨k, f, hk, hfinite, -⟩
  · rw [hzero]
    exact hasSign_pack_zero negative
  · rw [hfinite]
    exact (parts_pack_finite negative k f hk).imp_right fun ⟨k, f, h, _⟩ => ⟨k, f, h⟩

/-- A quotient has a sign if not both sides are infinite and the right one is no zero. -/
theorem hasSign_div (hx : HasSign negative x) (hy : HasSign other y) (hzero : isZero y = false)
    (hinf : ¬ (x.isInf = true ∧ y.isInf = true)) : HasSign (negative != other) (x / y) := by
  rw [isInf_iff, isInf_iff] at hinf
  rw [div_eq_pack]
  rcases hy with hy | ⟨k, f, hy⟩
  · rcases hx with hx | ⟨m, e, hx⟩
    · exact absurd ⟨⟨_, hx⟩, _, hy⟩ hinf
    · rw [hx, hy]
      by_cases hm : m = 0
      · simp only [unpacked, hm, dif_pos, UnpackedFloat.div, signOf_div]
        exact hasSign_pack_zero _
      · simp only [unpacked, dif_neg hm, UnpackedFloat.div, signOf_div]
        exact hasSign_pack_zero _
  · have hk : k ≠ 0 := by simpa [isZero, hy] using hzero
    rcases hx with hx | ⟨m, e, hx⟩
    · rw [hx, hy]
      simp only [unpacked, dif_neg hk, UnpackedFloat.div, signOf_div]
      exact hasSign_pack_infinity _
    · rw [hx, hy]
      by_cases hm : m = 0
      · simp only [unpacked, hm, dif_pos, dif_neg hk, UnpackedFloat.div, signOf_div]
        exact hasSign_pack_zero _
      · simp only [unpacked, dif_neg hm, dif_neg hk, UnpackedFloat.div, signOf_div]
        exact hasSign_pack_round _ _ _ _

/-- A quotient by a float that is no zero is a number just when both sides are and not both of them
are infinite. -/
theorem isNaN_div (hzero : isZero y = false) : (x / y).isNaN = false ↔
    x.isNaN = false ∧ y.isNaN = false ∧ ¬ (x.isInf = true ∧ y.isInf = true) := by
  constructor
  · intro h
    refine ⟨?_, ?_, ?_⟩
    · by_contra hx
      rw [Bool.not_eq_false, isNaN_iff] at hx
      rw [div_eq_pack, hx] at h
      exact isNaN_pack_notANumber h
    · by_contra hy
      rw [Bool.not_eq_false, isNaN_iff] at hy
      have hnan : UnpackedFloat.div Format.binary64 (unpacked (parts x)) .notANumber = .notANumber := by
        cases unpacked (parts x) <;> rfl
      rw [div_eq_pack, hy, unpacked, hnan] at h
      exact isNaN_pack_notANumber h
    · rw [isInf_iff, isInf_iff]
      rintro ⟨⟨s, hx⟩, t, hy⟩
      rw [div_eq_pack, hx, hy] at h
      exact isNaN_pack_notANumber h
  · rintro ⟨hx, hy, hinf⟩
    obtain ⟨negative, hx⟩ := isNaN_eq_false_iff_hasSign.1 hx
    obtain ⟨other, hy⟩ := isNaN_eq_false_iff_hasSign.1 hy
    exact isNaN_eq_false_iff_hasSign.2 ⟨_, hasSign_div hx hy hzero hinf⟩

end Operations

section Scale

variable {x c : Float} {m : Nat} {e : Int} (hc : parts c = .finite false m e) (hm : 2 ^ 52 ≤ m)
  (he : -52 ≤ e)

include hc hm he

/-- A float that is scaled by one that is no less than one keeps its sign, and is a zero only if it
was. -/
theorem hasSign_scaled {negative : Bool} (hx : HasSign negative x) :
    HasSign negative (x * c) ∧ isZero (x * c) = isZero x := by
  have hne : m ≠ 0 := by omega
  have hsign : signOf negative * signOf false = signOf negative := by rw [signOf_mul, Bool.bne_false]
  rw [mul_eq_pack, hc]
  rcases hx with hx | ⟨k, f, hx⟩
  · rw [isZero, isZero, hx]
    simp only [unpacked, dif_neg hne, UnpackedFloat.mul, hsign]
    exact ⟨hasSign_pack_infinity negative, by rw [parts_pack_infinity]⟩
  · by_cases hk : k = 0
    · rw [isZero, isZero, hx]
      simp only [unpacked, hk, dif_pos, dif_neg hne, UnpackedFloat.mul, hsign]
      exact ⟨hasSign_pack_zero negative, by rw [parts_pack_zero]⟩
    · have hleast := (canonical_parts hx).least
      have hlarge : 52 ≤ (k * m).log2 := by
        rw [Nat.le_log2 (Nat.mul_ne_zero hk hne)]
        exact hm.trans (Nat.le_mul_of_pos_left m (Nat.pos_of_ne_zero hk))
      rw [isZero, isZero, hx]
      simp only [unpacked, dif_neg hk, dif_neg hne, UnpackedFloat.mul, hsign]
      refine ⟨hasSign_pack_round _ _ _ _, ?_⟩
      rcases roundWithAccuracy_cases (signOf negative) (k * m) (f + e) .exact with
        ⟨-, hsmall⟩ | ⟨l, g, hl, hfinite, hbound, hexponent⟩
      · have hless := hsmall (Nat.mul_ne_zero hk hne)
        omega
      · rw [hfinite, beq_false_of_ne hk]
        rcases parts_pack_finite negative l g hl with hparts | ⟨n, h, hparts, hn⟩
        · rw [hparts]
        · rw [hparts]
          exact beq_false_of_ne (hn hbound hexponent)

theorem isNaN_scaled : (x * c).isNaN = x.isNaN := by
  rw [Bool.eq_iff_iff, ← not_iff_not, Bool.not_eq_true, Bool.not_eq_true]
  constructor
  · intro h
    by_contra hx
    rw [Bool.not_eq_false, isNaN_iff] at hx
    rw [mul_eq_pack, hx] at h
    exact isNaN_pack_notANumber h
  · intro h
    obtain ⟨negative, hx⟩ := isNaN_eq_false_iff_hasSign.1 h
    exact isNaN_eq_false_iff_hasSign.2 ⟨negative, (hasSign_scaled hc hm he hx).1⟩

/-- A float that is scaled by one that is no less than one is below zero just when it was. -/
theorem scaled_lt_zero_iff : x * c < zero ↔ x < zero := by
  cases hnan : x.isNaN with
  | false =>
      obtain ⟨negative, hx⟩ := isNaN_eq_false_iff_hasSign.1 hnan
      obtain ⟨hscaled, hzero⟩ := hasSign_scaled hc hm he hx
      rw [lt_zero_iff_of_hasSign hscaled, lt_zero_iff_of_hasSign hx, hzero]
  | true =>
      have hscaled : (x * c).isNaN = true := (isNaN_scaled hc hm he).trans hnan
      rw [isNaN_iff] at hnan hscaled
      rw [lt_iff, lt_iff, hnan, hscaled]

end Scale

end TouchProbe.Number
