import TouchProbe.Proofs.Numerals
import TouchProbe.Path

/-!
A program does not show the sign of a zero.  The planned path does not depend on it: the arithmetic
of positions takes values that differ in nothing else to values that differ in nothing else, and
faults on both or on neither.
-/

namespace TouchProbe

namespace Number

open Float.Model

/-- Whether two unpacked floats differ in nothing but the sign of a zero. -/
def AlikeUnpacked (u v : UnpackedFloat) : Prop :=
  u = v ∨ ∃ s t, u = .zero s ∧ v = .zero t

theorem AlikeUnpacked.trans {u v w : UnpackedFloat} (huv : AlikeUnpacked u v)
    (hvw : AlikeUnpacked v w) : AlikeUnpacked u w := by
  obtain rfl | ⟨s, t, rfl, rfl⟩ := huv
  · exact hvw
  · obtain rfl | ⟨s', t', hs, rfl⟩ := hvw
    · exact .inr ⟨s, t, rfl, rfl⟩
    · exact .inr ⟨s, t', rfl, rfl⟩

/-- Whether two floats differ in nothing but the sign of a zero. -/
def AlikeFloats (x y : Float) : Prop := x = y ∨ isZero x = true ∧ isZero y = true

theorem isZero_iff_unpacked {x : Float} : isZero x = true ↔ ∃ s, unpacked (parts x) = .zero s := by
  rw [isZero]
  cases hx : parts x with
  | nan => simp [unpacked]
  | infinite negative => simp [unpacked]
  | finite negative m e => by_cases hm : m = 0 <;> simp [unpacked, hm]

theorem isZero_pack (s : UnpackedFloat.Sign) : isZero (Float.ofModel (pack (.zero s))) = true := by
  cases s <;> decide +kernel

theorem AlikeUnpacked.pack {u v : UnpackedFloat} (h : AlikeUnpacked u v) :
    AlikeFloats (Float.ofModel (Float.Model.pack u)) (Float.ofModel (Float.Model.pack v)) := by
  obtain rfl | ⟨s, t, rfl, rfl⟩ := h
  · exact .inl rfl
  · exact .inr ⟨isZero_pack s, isZero_pack t⟩

theorem AlikeFloats.unpacked {x y : Float} (h : AlikeFloats x y) :
    AlikeUnpacked (unpacked (parts x)) (Number.unpacked (parts y)) := by
  obtain rfl | ⟨hx, hy⟩ := h
  · exact .inl rfl
  · obtain ⟨s, hs⟩ := isZero_iff_unpacked.1 hx
    obtain ⟨t, ht⟩ := isZero_iff_unpacked.1 hy
    exact .inr ⟨s, t, hs, ht⟩

theorem alikeFloats_settled (x : Float) : AlikeFloats (settled x) x := by
  cases hz : isZero x with
  | true => exact .inr ⟨by rw [settled, hz]; exact isZero_zero, hz⟩
  | false => exact .inl (by rw [settled, hz, if_neg Bool.false_ne_true])

/-- An operation respects likeness if the sign of a zero does not matter on either side. -/
theorem AlikeUnpacked.op {op : UnpackedFloat → UnpackedFloat → UnpackedFloat}
    (hleft : ∀ s s' v, AlikeUnpacked (op (.zero s) v) (op (.zero s') v))
    (hright : ∀ u t t', AlikeUnpacked (op u (.zero t)) (op u (.zero t')))
    {u u' v v' : UnpackedFloat} (hu : AlikeUnpacked u u') (hv : AlikeUnpacked v v') :
    AlikeUnpacked (op u v) (op u' v') := by
  have hfirst : AlikeUnpacked (op u v) (op u' v) := by
    obtain rfl | ⟨s, s', rfl, rfl⟩ := hu
    · exact .inl rfl
    · exact hleft s s' v
  have hsecond : AlikeUnpacked (op u' v) (op u' v') := by
    obtain rfl | ⟨t, t', rfl, rfl⟩ := hv
    · exact .inl rfl
    · exact hright u' t t'
  exact hfirst.trans hsecond

theorem AlikeUnpacked.add {u u' v v' : UnpackedFloat} (hu : AlikeUnpacked u u')
    (hv : AlikeUnpacked v v') :
    AlikeUnpacked (.add Format.binary64 u v) (.add Format.binary64 u' v') := by
  refine AlikeUnpacked.op (fun s s' v => ?_) (fun u t t' => ?_) hu hv
  · cases v with
    | zero r => cases s <;> cases s' <;> cases r <;> exact .inr ⟨_, _, rfl, rfl⟩
    | _ => exact .inl rfl
  · cases u with
    | zero r => cases t <;> cases t' <;> cases r <;> exact .inr ⟨_, _, rfl, rfl⟩
    | _ => exact .inl rfl

theorem AlikeUnpacked.sub {u u' v v' : UnpackedFloat} (hu : AlikeUnpacked u u')
    (hv : AlikeUnpacked v v') :
    AlikeUnpacked (.sub Format.binary64 u v) (.sub Format.binary64 u' v') := by
  refine AlikeUnpacked.op (fun s s' v => ?_) (fun u t t' => ?_) hu hv
  · cases v with
    | zero r => cases s <;> cases s' <;> cases r <;> exact .inr ⟨_, _, rfl, rfl⟩
    | _ => exact .inl rfl
  · cases u with
    | zero r => cases t <;> cases t' <;> cases r <;> exact .inr ⟨_, _, rfl, rfl⟩
    | _ => exact .inl rfl

theorem AlikeUnpacked.mul {u u' v v' : UnpackedFloat} (hu : AlikeUnpacked u u')
    (hv : AlikeUnpacked v v') :
    AlikeUnpacked (.mul Format.binary64 u v) (.mul Format.binary64 u' v') := by
  refine AlikeUnpacked.op (fun s s' v => ?_) (fun u t t' => ?_) hu hv
  · cases v with
    | notANumber | infinity _ => exact .inl rfl
    | zero _ | finite _ _ _ _ => exact .inr ⟨_, _, rfl, rfl⟩
  · cases u with
    | notANumber | infinity _ => exact .inl rfl
    | zero _ | finite _ _ _ _ => exact .inr ⟨_, _, rfl, rfl⟩

section Floats

variable {x x' y y' : Float} (hx : AlikeFloats x x') (hy : AlikeFloats y y')

include hx hy

theorem AlikeFloats.add : AlikeFloats (x + y) (x' + y') := by
  have h := (hx.unpacked.add hy.unpacked).pack
  simp only [← unpack_toModel] at h
  exact h

theorem AlikeFloats.sub : AlikeFloats (x - y) (x' - y') := by
  have h := (hx.unpacked.sub hy.unpacked).pack
  simp only [← unpack_toModel] at h
  exact h

theorem AlikeFloats.mul : AlikeFloats (x * y) (x' * y') := by
  have h := (hx.unpacked.mul hy.unpacked).pack
  simp only [← unpack_toModel] at h
  exact h

end Floats

end Number

/-! ### Results that may be faults -/

/-- Whether two results are the same fault, or values that stand in a relation. -/
def Alongside {α β : Type} (R : α → β → Prop) : Except Fault α → Except Fault β → Prop
  | .ok a, .ok b => R a b
  | .error e, .error f => e = f
  | _, _ => False

namespace Alongside

variable {α β γ δ : Type} {R : α → β → Prop}

theorem refl {R : α → α → Prop} (h : ∀ a, R a a) (m : Except Fault α) : Alongside R m m := by
  cases m with
  | ok a => exact h a
  | error e => rfl

theorem bind {S : γ → δ → Prop} {m : Except Fault α} {n : Except Fault β}
    {f : α → Except Fault γ} {g : β → Except Fault δ} (h : Alongside R m n)
    (hnext : ∀ a b, R a b → Alongside S (f a) (g b)) : Alongside S (m >>= f) (n >>= g) := by
  cases m with
  | ok a =>
      cases n with
      | ok b => exact hnext a b h
      | error e => exact h.elim
  | error e =>
      cases n with
      | ok b => exact h.elim
      | error f => exact h

theorem map {S : γ → δ → Prop} {m : Except Fault α} {n : Except Fault β} {f : α → γ} {g : β → δ}
    (h : Alongside R m n) (hnext : ∀ a b, R a b → S (f a) (g b)) :
    Alongside S (m.map f) (n.map g) :=
  h.bind (f := fun a => .ok (f a)) (g := fun b => .ok (g b)) hnext

theorem eq_of_eq {m n : Except Fault α} (h : Alongside (· = ·) m n) : m = n := by
  cases m with
  | ok a =>
      cases n with
      | ok b => exact congrArg Except.ok h
      | error e => exact h.elim
  | error e =>
      cases n with
      | ok b => exact h.elim
      | error f => exact congrArg Except.error h

/-- Steps that start alike and do the same from what they have in common. -/
theorem eq_bind {S : γ → δ → Prop} {m n : Except Fault α} {f : α → Except Fault γ}
    {g : α → Except Fault δ} (h : m = n) (hnext : ∀ a, Alongside S (f a) (g a)) :
    Alongside S (m >>= f) (n >>= g) := by
  subst h
  cases m with
  | ok a => exact hnext a
  | error e => rfl

end Alongside

namespace Number

/-- Whether two numbers differ in nothing but the sign of a zero. -/
inductive Alike : Number → Number → Prop
  | whole (n : Int) : Alike (.whole n) (.whole n)
  | real {x y : Float} (h : AlikeFloats x y) : Alike (.real x) (.real y)

namespace Alike

theorem refl : ∀ n : Number, Alike n n
  | .whole n => .whole n
  | .real _ => .real (.inl rfl)

variable {m m' n n' : Number}

theorem toFloat (h : Alike n n') : Alongside AlikeFloats n.toFloat n'.toFloat := by
  cases h with
  | whole n => exact Alongside.refl (fun x => .inl rfl) _
  | real h => exact h

theorem combine {onWhole : Int → Int → Int} {onReal : Float → Float → Float}
    (hreal : ∀ {x x' y y' : Float}, AlikeFloats x x' → AlikeFloats y y' →
      AlikeFloats (onReal x y) (onReal x' y')) (hm : Alike m m') (hn : Alike n n') :
    Alongside Alike (Number.combine onWhole onReal m n) (Number.combine onWhole onReal m' n') := by
  have hfloats : Alongside Alike
      (do let x ← m.toFloat; let y ← n.toFloat; .ok (.real (onReal x y)))
      (do let x ← m'.toFloat; let y ← n'.toFloat; .ok (.real (onReal x y))) :=
    hm.toFloat.bind fun _ _ hx => hn.toFloat.bind fun _ _ hy => Alike.real (hreal hx hy)
  cases hm with
  | whole m =>
      cases hn with
      | whole n => exact .whole _
      | real hy => exact hfloats
  | real hx =>
      cases hn with
      | whole n => exact hfloats
      | real hy => exact .real (hreal hx hy)

theorem add (hm : Alike m m') (hn : Alike n n') : Alongside Alike (m.add n) (m'.add n') :=
  combine (fun hx hy => hx.add hy) hm hn

theorem sub (hm : Alike m m') (hn : Alike n n') : Alongside Alike (m.sub n) (m'.sub n') :=
  combine (fun hx hy => hx.sub hy) hm hn

/-- A square does not show the sign of a zero, so from here on the two are one. -/
theorem square (h : Alike n n') : n.square = n'.square := by
  cases h with
  | whole n => rfl
  | real h =>
      obtain rfl | ⟨hx, hy⟩ := h
      · rfl
      · rw [Number.square, Number.square, if_pos hx, if_pos hy]

end Alike

end Number

namespace Datum

inductive Alike : Datum → Datum → Prop
  | refl (d : Datum) : Alike d d
  | float {x y : Float} (h : Number.AlikeFloats x y) : Alike (.float x) (.float y)

namespace Alike

variable {a a' b b' : Datum}

theorem toNumber (h : Alike a a') : Alongside Number.Alike a.toNumber a'.toNumber := by
  cases h with
  | refl d => exact Alongside.refl Number.Alike.refl _
  | float h => exact .real h

theorem ofNumber {m n : Number} (h : Number.Alike m n) :
    Alike (.scalar m.toScalar) (.scalar n.toScalar) := by
  cases h with
  | whole n => exact .refl _
  | real h => exact .float h

theorem minus (ha : Alike a a') (hb : Alike b b') : Alongside Alike (a.minus b) (a'.minus b') :=
  ha.toNumber.bind fun _ _ hm => hb.toNumber.bind fun _ _ hn =>
    (hm.sub hn).bind fun _ _ h => ofNumber h

theorem plus (ha : Alike a a') (hb : Alike b b') : Alongside Alike (a.plus b) (a'.plus b') := by
  have hsum : Alongside Alike
      (do return .scalar (← (← a.toNumber).add (← b.toNumber)).toScalar)
      (do return .scalar (← (← a'.toNumber).add (← b'.toNumber)).toScalar) :=
    ha.toNumber.bind fun _ _ hm => hb.toNumber.bind fun _ _ hn =>
      (hm.add hn).bind fun _ _ h => ofNumber h
  cases ha with
  | refl a =>
      cases hb with
      | refl b => exact Alongside.refl Alike.refl _
      | float h =>
          -- Texts and lists join only with their own kind, so a float is added to a number.
          rcases a with (_ | _ | _ | _ | _) | _ <;> exact hsum
  | float h => exact hsum

end Alike

end Datum

def Position.Alike (p q : Position) : Prop := ∀ a, (p.get a).Alike (q.get a)

theorem Position.Alike.refl (p : Position) : p.Alike p := fun _ => .refl _

theorem Position.Alike.set {p q : Position} (h : p.Alike q) (a : Axis) {v w : Datum}
    (hv : v.Alike w) : (p.set a v).Alike (q.set a w) := by
  intro b
  by_cases hb : b = a
  · subst hb
    simpa using hv
  · simpa [Position.get_set_of_ne _ _ hb] using h b

theorem squaredWay_alike {a a' b b' : Datum} (ha : a.Alike a') (hb : b.Alike b') :
    squaredWay a b = squaredWay a' b' := by
  apply Alongside.eq_of_eq
  refine hb.toNumber.bind fun _ _ hn => ha.toNumber.bind fun _ _ hm => (hn.sub hm).bind ?_
  intro m n h
  rw [h.square]
  exact Alongside.refl (fun _ => rfl) _

theorem Position.Alike.distance {p p' q q' : Position} (hp : p.Alike p') (hq : q.Alike q') :
    p.distance q = p'.distance q' := by
  have hx : squaredWay p.x q.x = squaredWay p'.x q'.x := squaredWay_alike (hp .x) (hq .x)
  have hy : squaredWay p.y q.y = squaredWay p'.y q'.y := squaredWay_alike (hp .y) (hq .y)
  have hz : squaredWay p.z q.z = squaredWay p'.z q'.z := squaredWay_alike (hp .z) (hq .z)
  rw [Position.distance, Position.distance, hx, hy, hz]

end TouchProbe
