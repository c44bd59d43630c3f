import TouchProbe.Scalar
import Mathlib

/-!
The arithmetic of floats is defined on their unpacked form.  Here it is tied to the parts that
this library reads off the bits: a float unpacks to its parts, two floats with the same parts are
one, and the parts of a float that was built from a code below infinity are those of the code.
-/

namespace TouchProbe.Number

open Float.Model

def signOf (negative : Bool) : UnpackedFloat.Sign := if negative then .negative else .positive

def unpacked : Parts → UnpackedFloat
  | .nan => .notANumber
  | .infinite negative => .infinity (signOf negative)
  | .finite negative m e =>
    if h : m = 0 then .zero (signOf negative)
    else .finite (signOf negative) m e (Nat.pos_of_ne_zero h)

section Bits

variable (b : BitVec Format.binary64.numBits)

theorem toNat_unpackMantissa :
    (UnpackedFloat.unpackMantissa b).toNat = b.toNat % 2 ^ 52 := by
  simp [UnpackedFloat.unpackMantissa]

theorem toNat_unpackExponent :
    (UnpackedFloat.unpackExponent b).toNat = b.toNat % 2 ^ 63 / 2 ^ 52 := by
  have h : (UnpackedFloat.unpackExponent b).toNat = b.toNat / 2 ^ 52 % 2 ^ 11 := by
    simp [UnpackedFloat.unpackExponent, Nat.shiftRight_eq_div_pow]
  rw [h]
  omega

theorem ofBitVec_unpackSign :
    UnpackedFloat.Sign.ofBitVec (UnpackedFloat.unpackSign b) = signOf (b.toNat / 2 ^ 63 == 1) := by
  have h : (UnpackedFloat.unpackSign b).toNat = b.toNat / 2 ^ 63 := by
    have := b.isLt
    simp [UnpackedFloat.unpackSign, Nat.shiftRight_eq_div_pow]
    simp [Format.numBits] at this
    omega
  have hb := b.isLt
  simp [Format.numBits] at hb
  have hlt : b.toNat / 2 ^ 63 = 0 ∨ b.toNat / 2 ^ 63 = 1 := by omega
  have hzero : UnpackedFloat.unpackSign b = 0#1 ↔ b.toNat / 2 ^ 63 = 0 := by
    rw [← BitVec.toNat_inj, h]; rfl
  rcases hlt with h | h
  · rw [UnpackedFloat.Sign.ofBitVec, if_pos (hzero.2 h), h]; rfl
  · rw [UnpackedFloat.Sign.ofBitVec, if_neg (by rw [hzero, h]; decide), h]; rfl

theorem unpack_eq_unpacked :
    UnpackedFloat.unpack Format.binary64 b =
      unpacked (ofCode (b.toNat / 2 ^ 63 == 1) (b.toNat % 2 ^ 63)) := by
  have hm := toNat_unpackMantissa b
  have he := toNat_unpackExponent b
  have hlow : b.toNat % 2 ^ 63 % 2 ^ 52 = b.toNat % 2 ^ 52 := by omega
  have hzero : (UnpackedFloat.unpackMantissa b = 0#_) ↔ b.toNat % 2 ^ 52 = 0 := by
    rw [← BitVec.toNat_inj, hm]; rfl
  have hnone : (UnpackedFloat.unpackExponent b = 0#_) ↔ b.toNat % 2 ^ 63 / 2 ^ 52 = 0 := by
    rw [← BitVec.toNat_inj, he]; rfl
  have hall : (UnpackedFloat.unpackExponent b = -1#_) ↔ b.toNat % 2 ^ 63 / 2 ^ 52 = 2047 := by
    rw [← BitVec.toNat_inj, he]; rfl
  simp only [UnpackedFloat.unpack, ofCode, ofBitVec_unpackSign, hlow]
  by_cases h1 : b.toNat % 2 ^ 63 / 2 ^ 52 = 2047
  · rw [if_pos (hall.2 h1), if_pos h1]
    by_cases h2 : b.toNat % 2 ^ 52 = 0
    · rw [if_pos (hzero.2 h2), if_pos h2]; rfl
    · rw [if_neg (mt hzero.1 h2), if_neg h2]; rfl
  · rw [if_neg (mt hall.1 h1), if_neg h1]
    by_cases h3 : b.toNat % 2 ^ 63 / 2 ^ 52 = 0
    · rw [if_pos (hnone.2 h3), if_pos h3]
      by_cases h2 : b.toNat % 2 ^ 52 = 0
      · rw [dif_pos (hzero.2 h2), h2]; rfl
      · rw [dif_neg (mt hzero.1 h2)]
        simp only [unpacked, dif_neg h2, hm, he, h3]
        rfl
    · rw [if_neg (mt hnone.1 h3), if_neg h3]
      have hpos : ¬ 2 ^ 52 + b.toNat % 2 ^ 52 = 0 := by omega
      have hbits : (1#1 ++ UnpackedFloat.unpackMantissa b).toNat = 2 ^ 52 + b.toNat % 2 ^ 52 := by
        rw [BitVec.toNat_append, hm, Nat.shiftLeft_eq, ← Nat.shiftLeft_eq,
          ← Nat.shiftLeft_add_eq_or_of_lt]
        · rfl
        · exact Nat.mod_lt _ (by decide)
      simp only [unpacked, dif_neg hpos, hbits, he]
      rfl

theorem toNat_packComponents (negative : Bool) (e : BitVec 11) (m : BitVec 52) :
    (UnpackedFloat.packComponents Format.binary64 (signOf negative) e m).toNat =
      (if negative then 2 ^ 63 else 0) + e.toNat * 2 ^ 52 + m.toNat := by
  have he := e.isLt
  have hm := m.isLt
  rw [UnpackedFloat.packComponents, BitVec.toNat_append, ← Nat.shiftLeft_add_eq_or_of_lt hm,
    BitVec.toNat_append, ← Nat.shiftLeft_add_eq_or_of_lt he, Nat.shiftLeft_eq, Nat.shiftLeft_eq]
  cases negative <;> simp [signOf, UnpackedFloat.Sign.toBitVec]
  omega

theorem biasedExponent (e : Int) :
    (e + Format.binary64.exponentBias + Format.binary64.mantissaBitsWithoutImplicit).toNat =
      (e + 1075).toNat := by
  simp [Format.exponentBias]
  omega

section Pack

variable {negative : Bool} {m : Nat} {e : Int} (hm : 0 < m)

/-- A finite float is put into bits with its exponent if its significand has 53 digits. -/
theorem pack_finite (h : (e + 1075).toNat < 2047) :
    UnpackedFloat.pack Format.binary64 (.finite (signOf negative) m e hm) =
      UnpackedFloat.packComponents Format.binary64 (signOf negative)
        (if m.log2 = 52 then BitVec.ofNat 11 (e + 1075).toNat else 0#11) (BitVec.ofNat 52 m) := by
  have hlt : ¬ 2 ^ Format.binary64.exponentBits ≤ (e + 1075).toNat + 1 := by
    simp
    omega
  have hbits : m.log2 + 1 = Format.binary64.mantissaBits ↔ m.log2 = 52 := by
    simp [Format.mantissaBits]
  simp only [UnpackedFloat.pack]
  rw [biasedExponent, if_neg hlt]
  by_cases hlog : m.log2 = 52
  · rw [if_pos (hbits.2 hlog), if_pos hlog]
  · rw [if_neg (mt hbits.1 hlog), if_neg hlog]

/-- A finite float is put into bits as infinity if its exponent is too large. -/
theorem pack_finite_of_le (h : 2047 ≤ (e + 1075).toNat) :
    UnpackedFloat.pack Format.binary64 (.finite (signOf negative) m e hm) =
      UnpackedFloat.packComponents Format.binary64 (signOf negative) (-1#11) 0#52 := by
  have hle : 2 ^ Format.binary64.exponentBits ≤ (e + 1075).toNat + 1 := by
    simp
    omega
  simp only [UnpackedFloat.pack]
  rw [biasedExponent, if_pos hle]
  rfl

end Pack

theorem toNat_pack_unpacked {negative : Bool} {code : Nat} (h : code ≤ infinityCode) :
    (UnpackedFloat.pack Format.binary64 (unpacked (ofCode negative code))).toNat =
      (if negative then 2 ^ 63 else 0) + code := by
  rw [infinityCode] at h
  simp only [ofCode]
  by_cases h1 : code / 2 ^ 52 = 2047
  · have h2 : code % 2 ^ 52 = 0 := by omega
    rw [if_pos h1, if_pos h2]
    simp only [unpacked, UnpackedFloat.pack, UnpackedFloat.packedInfinity, toNat_packComponents]
    have : (-1#11).toNat = 2047 := rfl
    rw [this]
    simp
    omega
  · rw [if_neg h1]
    by_cases h2 : code / 2 ^ 52 = 0
    · rw [if_pos h2, unpacked]
      by_cases h3 : code % 2 ^ 52 = 0
      · rw [dif_pos h3]
        simp only [UnpackedFloat.pack, UnpackedFloat.packedZero, toNat_packComponents]
        simp
        omega
      · have hlog : (code % 2 ^ 52).log2 < 52 := (Nat.log2_lt h3).2 (Nat.mod_lt _ (by decide))
        rw [dif_neg h3, pack_finite _ (by decide), if_neg hlog.ne, toNat_packComponents]
        simp
        omega
    · have hpos : ¬ 2 ^ 52 + code % 2 ^ 52 = 0 := by omega
      have hlt : 2 ^ 52 + code % 2 ^ 52 < 2 ^ 53 := by omega
      have hlog : (2 ^ 52 + code % 2 ^ 52).log2 = 52 :=
        (Nat.log2_eq_iff hpos).2 ⟨Nat.le_add_right _ _, hlt⟩
      rw [if_neg h2, unpacked, dif_neg hpos, pack_finite _ (by omega), if_pos hlog,
        toNat_packComponents]
      simp
      omega

theorem pack_unpack_of_valid (h : Format.binary64.Valid b) :
    UnpackedFloat.pack Format.binary64 (UnpackedFloat.unpack Format.binary64 b) = b := by
  have hlt := b.isLt
  simp only [Format.numBits] at hlt
  by_cases hc : b.toNat % 2 ^ 63 ≤ infinityCode
  · rw [unpack_eq_unpacked, ← BitVec.toNat_inj, toNat_pack_unpacked hc]
    rcases (by omega : b.toNat / 2 ^ 63 = 0 ∨ b.toNat / 2 ^ 63 = 1) with h | h <;>
      rw [h] <;> simp <;> omega
  · rw [infinityCode] at hc
    have he : UnpackedFloat.unpackExponent b = -1#_ := by
      rw [← BitVec.toNat_inj, toNat_unpackExponent]
      exact (by omega : b.toNat % 2 ^ 63 / 2 ^ 52 = 2047)
    have hm : UnpackedFloat.unpackMantissa b ≠ 0#_ := by
      rw [ne_eq, ← BitVec.toNat_inj, toNat_unpackMantissa]
      exact (by omega : ¬ b.toNat % 2 ^ 52 = 0)
    rw [h.eq_packedNaN he hm]
    rfl

end Bits

theorem unpack_toModel (x : Float) : x.toModel.unpack = unpacked (parts x) :=
  unpack_eq_unpacked x.toModel.toBits.toBitVec

theorem pack_unpacked_parts (x : Float) : Float.ofModel (pack (unpacked (parts x))) = x := by
  obtain ⟨⟨bits, valid⟩⟩ := x
  rw [← unpack_toModel]
  congr 1
  simp only [Float.Model.pack, Float.Model.unpack, Float.Model.mk.injEq]
  rw [pack_unpack_of_valid _ valid]

theorem parts_injective {x y : Float} (h : parts x = parts y) : x = y := by
  rw [← pack_unpacked_parts x, h, pack_unpacked_parts]

theorem parts_pack_unpacked {negative : Bool} {code : Nat} (h : code ≤ infinityCode) :
    parts (Float.ofModel (pack (unpacked (ofCode negative code)))) = ofCode negative code := by
  have hn : (Float.ofModel (pack (unpacked (ofCode negative code)))).toBits.toNat =
      (if negative then 2 ^ 63 else 0) + code := toNat_pack_unpacked h
  rw [infinityCode] at h
  rw [parts]
  simp only [hn]
  cases negative
  · have h1 : (0 + code) / 2 ^ 63 = 0 := by omega
    have h2 : (0 + code) % 2 ^ 63 = code := by omega
    simp only [Bool.false_eq_true, if_false, h1, h2]
    rfl
  · have h1 : (2 ^ 63 + code) / 2 ^ 63 = 1 := by omega
    have h2 : (2 ^ 63 + code) % 2 ^ 63 = code := by omega
    simp only [if_true, h1, h2]
    rfl

theorem ofCode_infinityCode (negative : Bool) : ofCode negative infinityCode = .infinite negative := rfl

theorem parts_pack_infinity (negative : Bool) :
    parts (Float.ofModel (pack (.infinity (signOf negative)))) = .infinite negative := by
  have h : parts _ = ofCode negative infinityCode := parts_pack_unpacked le_rfl
  rwa [ofCode_infinityCode, unpacked] at h

theorem parts_pack_notANumber : parts (Float.ofModel (pack .notANumber)) = .nan := by
  rfl

theorem ofSignCode_eq_pack {negative : Bool} {code : Nat} (h : code < 2 ^ 63) :
    ofSignCode negative code = Float.ofModel (pack (unpacked (ofCode negative code))) := by
  have hn : (UInt64.ofNat (if negative then 2 ^ 63 + code else code)).toBitVec.toNat =
      if negative then 2 ^ 63 + code else code := by
    rw [UInt64.toNat_toBitVec, UInt64.toNat_ofNat_of_lt']
    cases negative <;> simp [UInt64.size] <;> omega
  have hu := unpack_eq_unpacked (UInt64.ofNat (if negative then 2 ^ 63 + code else code)).toBitVec
  rw [ofSignCode, Float.ofBits, Float.Model.ofBits, hu, hn]
  cases negative
  · have h1 : code / 2 ^ 63 = 0 := by omega
    have h2 : code % 2 ^ 63 = code := by omega
    simp only [Bool.false_eq_true, if_false, h1, h2]
    rfl
  · have h1 : (2 ^ 63 + code) / 2 ^ 63 = 1 := by omega
    have h2 : (2 ^ 63 + code) % 2 ^ 63 = code := by omega
    simp only [if_true, h1, h2]
    rfl

theorem parts_ofSignCode (negative : Bool) {code : Nat} (h : code ≤ infinityCode) :
    parts (ofSignCode negative code) = ofCode negative code := by
  rw [ofSignCode_eq_pack (by rw [infinityCode] at h; omega), parts_pack_unpacked h]

/-! ### Finite floats

A significand and an exponent are canonical when a finite float has them as its parts. -/

structure Canonical (m : Nat) (e : Int) : Prop where
  significand : m < 2 ^ 53
  least : leastExponent ≤ e
  greatest : e ≤ 971
  normal : e = leastExponent ∨ 2 ^ 52 ≤ m

/-- The bits below the sign of the float of a significand and an exponent. -/
def codeOf (m : Nat) (e : Int) : Nat := (e - leastExponent).toNat * 2 ^ 52 + m

theorem codeOf_lt {m : Nat} {e : Int} (h : Canonical m e) : codeOf m e < infinityCode := by
  obtain ⟨hm, hl, hg, -⟩ := h
  simp only [codeOf, infinityCode, leastExponent] at *
  omega

theorem ofCode_codeOf (negative : Bool) {m : Nat} {e : Int} (h : Canonical m e) :
    ofCode negative (codeOf m e) = .finite negative m e := by
  obtain ⟨hm, hl, hg, hn⟩ := h
  rw [leastExponent] at hl hn
  by_cases hsub : m < 2 ^ 52
  · have he : e = leastExponent := by rw [leastExponent]; omega
    have h1 : codeOf m e / 2 ^ 52 = 0 := by rw [codeOf, he, sub_self]; omega
    have h2 : codeOf m e % 2 ^ 52 = m := by rw [codeOf, he, sub_self]; omega
    simp only [ofCode, h1, h2]
    rw [he]
    rfl
  · have h1 : codeOf m e / 2 ^ 52 = (e + 1075).toNat := by rw [codeOf, leastExponent]; omega
    have h2 : codeOf m e % 2 ^ 52 = m - 2 ^ 52 := by rw [codeOf]; omega
    have hinf : (e + 1075).toNat ≠ 2047 := by omega
    have hpos : (e + 1075).toNat ≠ 0 := by omega
    have hm' : 2 ^ 52 + (m - 2 ^ 52) = m := by omega
    have he' : ((e + 1075).toNat : Int) - 1075 = e := by omega
    simp only [ofCode, h1, h2, if_neg hinf, if_neg hpos, hm', he']

theorem canonical_ofCode {negative sign : Bool} {code m : Nat} {e : Int} (hc : code < 2 ^ 63)
    (h : ofCode negative code = .finite sign m e) : Canonical m e := by
  simp only [ofCode] at h
  split at h
  · split at h <;> cases h
  · split at h
    · cases h
      exact ⟨by omega, le_refl _, by decide, .inl rfl⟩
    · cases h
      refine ⟨by omega, ?_, by omega, .inr (Nat.le_add_right _ _)⟩
      simp only [leastExponent]
      omega

theorem canonical_parts {x : Float} {negative : Bool} {m : Nat} {e : Int}
    (h : parts x = .finite negative m e) : Canonical m e :=
  canonical_ofCode (Nat.mod_lt _ (by decide)) h

theorem eq_ofSignCode {x : Float} {negative : Bool} {m : Nat} {e : Int}
    (h : parts x = .finite negative m e) : x = ofSignCode negative (codeOf m e) := by
  have hc := canonical_parts h
  apply parts_injective
  rw [parts_ofSignCode _ (codeOf_lt hc).le, ofCode_codeOf _ hc, h]

@[simp] theorem parts_zero : parts zero = .finite false 0 leastExponent :=
  parts_ofSignCode false (Nat.zero_le infinityCode)

theorem isZero_iff {x : Float} :
    isZero x = true ↔ ∃ negative, parts x = .finite negative 0 leastExponent := by
  rw [isZero]
  constructor
  · intro h
    split at h
    · rename_i negative m e hx
      have hm : m = 0 := by simpa using h
      subst hm
      obtain rfl | hn := (canonical_parts hx).normal
      · exact ⟨negative, hx⟩
      · simp at hn
    · cases h
  · rintro ⟨negative, h⟩
    rw [h]
    rfl

theorem isZero_zero : isZero zero = true := isZero_iff.2 ⟨false, parts_zero⟩

/-! ### Comparisons and the magnitude -/

theorem lt_iff (x y : Float) :
    x < y ↔ (unpacked (parts x)).lt (unpacked (parts y)) = true := by
  rw [← unpack_toModel, ← unpack_toModel]
  exact decide_eq_true_iff

theorem le_iff (x y : Float) :
    x ≤ y ↔ (unpacked (parts x)).le (unpacked (parts y)) = true := by
  rw [← unpack_toModel, ← unpack_toModel]
  exact decide_eq_true_iff

theorem beq_eq (x y : Float) : (x == y) = (unpacked (parts x)).beq (unpacked (parts y)) := by
  rw [← unpack_toModel, ← unpack_toModel]
  rfl

section Finite

variable {x : Float} {negative : Bool} {m : Nat} {e : Int} (h : parts x = .finite negative m e)

include h

theorem lt_zero_iff : x < zero ↔ negative = true ∧ m ≠ 0 := by
  rw [lt_iff, h, parts_zero]
  by_cases hm : m = 0 <;> cases negative <;> simp [unpacked, hm, signOf] <;> rfl

theorem zero_lt_iff : zero < x ↔ negative = false ∧ m ≠ 0 := by
  rw [lt_iff, h, parts_zero]
  by_cases hm : m = 0 <;> cases negative <;> simp [unpacked, hm, signOf] <;> rfl

theorem zero_le_iff : zero ≤ x ↔ negative = false ∨ m = 0 := by
  rw [le_iff, h, parts_zero]
  by_cases hm : m = 0 <;> cases negative <;> simp [unpacked, hm, signOf] <;> rfl

theorem beq_self : (x == x) = true := by
  rw [beq_eq, h]
  by_cases hm : m = 0 <;> cases negative <;>
    simp [unpacked, hm, signOf, UnpackedFloat.beq, UnpackedFloat.compare, Std.ReflCmp.compare_self]

theorem parts_abs : parts x.abs = .finite false m e := by
  have hc := canonical_parts h
  have habs : (unpacked (parts x)).abs = unpacked (ofCode false (codeOf m e)) := by
    rw [h, ofCode_codeOf _ hc]
    by_cases hm : m = 0 <;> simp [unpacked, hm, UnpackedFloat.abs, signOf]
  rw [Float.abs, Float.Model.abs, unpack_toModel, habs, parts_pack_unpacked (codeOf_lt hc).le,
    ofCode_codeOf _ hc]

end Finite

/-- Zeros of either sign are equal. -/
theorem beq_of_isZero {x y : Float} (hx : isZero x = true) (hy : isZero y = true) :
    (x == y) = true := by
  obtain ⟨n, hx⟩ := isZero_iff.1 hx
  obtain ⟨k, hy⟩ := isZero_iff.1 hy
  rw [beq_eq, hx, hy]
  rfl

theorem isNaN_eq_false {x : Float} : x.isNaN = false ↔ parts x ≠ .nan := by
  rw [Float.isNaN, Float.Model.isNaN, unpack_toModel]
  cases h : parts x with
  | nan => simp [unpacked, UnpackedFloat.isNaN]
  | infinite negative => simp [unpacked, UnpackedFloat.isNaN]
  | finite negative m e => by_cases hm : m = 0 <;> simp [unpacked, hm, UnpackedFloat.isNaN]

theorem zero_le_infinite {x : Float} (h : parts x = .infinite false) : zero ≤ x := by
  rw [le_iff, h, parts_zero]
  decide

/-- A float that is not below zero is a number without a sign, or a zero. -/
theorem parts_of_zero_le {x : Float} (h : zero ≤ x) :
    parts x = .infinite false ∨ ∃ negative m e, parts x = .finite negative m e ∧
      (negative = false ∨ m = 0) := by
  cases hparts : parts x with
  | finite negative m e => exact .inr ⟨negative, m, e, rfl, (zero_le_iff hparts).1 h⟩
  | infinite negative =>
      rw [le_iff, hparts, parts_zero] at h
      cases negative with
      | false => exact .inl rfl
      | true => exact absurd h (by decide)
  | nan =>
      rw [le_iff, hparts, parts_zero] at h
      exact absurd h (by decide)

theorem not_lt_zero_of_le {x : Float} (h : zero ≤ x) : ¬ x < zero := by
  rcases parts_of_zero_le h with hparts | ⟨negative, m, e, hparts, hsign⟩
  · rw [lt_iff, hparts, parts_zero]
    decide
  · rw [lt_zero_iff hparts]
    rintro ⟨rfl, hm⟩
    exact hsign.elim Bool.noConfusion hm

theorem isNaN_of_zero_le {x : Float} (h : zero ≤ x) : x.isNaN = false := by
  rw [isNaN_eq_false]
  rcases parts_of_zero_le h with hparts | ⟨negative, m, e, hparts, -⟩ <;> rw [hparts] <;> simp

theorem zero_lt_of_le {x : Float} (h : zero ≤ x) (hne : isZero x = false) : zero < x := by
  rcases parts_of_zero_le h with hparts | ⟨negative, m, e, hparts, hsign⟩
  · rw [lt_iff, hparts, parts_zero]
    decide
  · rw [isZero, hparts, beq_eq_false_iff_ne] at hne
    exact (zero_lt_iff hparts).2 ⟨hsign.resolve_right hne, hne⟩

/-! ### The floats of decimals -/

theorem nearestCode_le (num den : Nat) : nearestCode num den ≤ infinityCode := by
  rw [nearestCode]
  split
  · exact Nat.zero_le _
  · exact min_le_left _ _

/-- The float of a decimal is the nearest one of its sign, be it infinity. -/
theorem exists_code_nearestDecimal (negative : Bool) (digits : Nat) (power : Int) :
    ∃ code ≤ infinityCode, nearestDecimal negative digits power = ofSignCode negative code := by
  rw [nearestDecimal]
  split
  · exact ⟨0, Nat.zero_le _, rfl⟩
  · split
    · exact ⟨infinityCode, le_rfl, rfl⟩
    · split
      · exact ⟨0, Nat.zero_le _, rfl⟩
      · exact ⟨_, nearestCode_le _ _, rfl⟩

/-- The bits up to those of infinity encode a number. -/
theorem parts_of_code_le (negative : Bool) {code : Nat} (h : code ≤ infinityCode) :
    parts (ofSignCode negative code) = .infinite negative ∨
      ∃ m e, parts (ofSignCode negative code) = .finite negative m e := by
  rw [parts_ofSignCode negative h]
  simp only [ofCode]
  rw [infinityCode] at h
  split
  · next hfield =>
    have hlow : code % 2 ^ 52 = 0 := by omega
    exact .inl (if_pos hlow)
  · split
    · exact .inr ⟨_, _, rfl⟩
    · exact .inr ⟨_, _, rfl⟩

/-- The float of a decimal is a number. -/
theorem parts_nearestDecimal (negative : Bool) (digits : Nat) (power : Int) :
    parts (nearestDecimal negative digits power) = .infinite negative ∨
      ∃ m e, parts (nearestDecimal negative digits power) = .finite negative m e := by
  obtain ⟨code, hcode, hfloat⟩ := exists_code_nearestDecimal negative digits power
  rw [hfloat]
  exact parts_of_code_le negative hcode

theorem isNaN_nearestDecimal (negative : Bool) (digits : Nat) (power : Int) :
    (nearestDecimal negative digits power).isNaN = false := by
  rw [isNaN_eq_false]
  rcases parts_nearestDecimal negative digits power with h | ⟨m, e, h⟩ <;> rw [h] <;> simp

theorem zero_le_nearestDecimal (digits : Nat) (power : Int) :
    zero ≤ nearestDecimal false digits power := by
  rcases parts_nearestDecimal false digits power with h | ⟨m, e, h⟩
  · exact zero_le_infinite h
  · simp [zero_le_iff h]

theorem abs_eq (x : Float) : x.abs = Float.ofModel (pack (unpacked (parts x)).abs) := by
  rw [← unpack_toModel]
  rfl

theorem parts_abs_of_infinite {x : Float} {negative : Bool} (h : parts x = .infinite negative) :
    parts x.abs = .infinite false := by
  rw [abs_eq, h]
  exact parts_pack_infinity false

theorem parts_abs_of_nan {x : Float} (h : parts x = .nan) : parts x.abs = .nan := by
  rw [abs_eq, h]
  exact parts_pack_notANumber

/-- The magnitude of a number is not below zero. -/
theorem zero_le_abs {x : Float} (h : x.isNaN = false) : zero ≤ x.abs := by
  cases hparts : parts x with
  | finite negative m e => simp [zero_le_iff (parts_abs hparts)]
  | infinite negative => exact zero_le_infinite (parts_abs_of_infinite hparts)
  | nan => exact absurd hparts (isNaN_eq_false.1 h)

theorem not_lt_zero_of_isZero {x : Float} (h : isZero x = true) : ¬ x < zero := by
  obtain ⟨negative, hparts⟩ := isZero_iff.1 h
  simp [lt_zero_iff hparts]

/-- Only a zero has the magnitude zero. -/
theorem isZero_of_abs {x : Float} (h : isZero x.abs = true) : isZero x = true := by
  cases hparts : parts x with
  | finite negative m e =>
      rw [isZero, parts_abs hparts] at h
      rw [isZero, hparts]
      exact h
  | infinite negative =>
      rw [isZero, parts_abs_of_infinite hparts] at h
      cases h
  | nan =>
      rw [isZero, parts_abs_of_nan hparts] at h
      cases h

theorem isInf_iff {x : Float} : x.isInf = true ↔ ∃ negative, parts x = .infinite negative := by
  rw [Float.isInf, Float.Model.isInf, unpack_toModel]
  cases h : parts x with
  | nan => simp [unpacked, UnpackedFloat.isInf]
  | infinite negative => simp [unpacked, UnpackedFloat.isInf]
  | finite negative m e =>
      by_cases hm : m = 0 <;> simp [unpacked, hm, UnpackedFloat.isInf]

/-- The float of a decimal has no whole part just when it is infinite. -/
theorem isNone_truncate?_nearestDecimal (negative : Bool) (digits : Nat) (power : Int) :
    (truncate? (nearestDecimal negative digits power)).isNone =
      (nearestDecimal negative digits power).isInf := by
  rw [Bool.eq_iff_iff, isInf_iff, truncate?]
  rcases parts_nearestDecimal negative digits power with h | ⟨m, e, h⟩ <;> simp [h]

end TouchProbe.Number
