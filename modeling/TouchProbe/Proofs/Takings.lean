import TouchProbe.Defaults
import TouchProbe.Proofs.Written

/-!
A configuration is read by taking values out of it, one after the other.  A taking goes well, or it
fails with a fault that is told as one of the configuration, or it slips: it fails with a fault that
nothing tells so.  Three kinds of values slip: what should be a mapping and is none, a whole number
beyond all floats where a float is taken, and an infinite float where a whole number is taken.

`Follows r ts d` says that the result `r` is there just when the takings `ts` of the value `d` go
well, and slips just when one of them does and all before it go well.  The takings of a loader that
takes one value after the other are those of its parts, joined.
-/

namespace TouchProbe

open Number

namespace Defaults

/-! ### Uses and takings -/

inductive Use where
  | any
  | mapping
  | shown
  | float
  | count
  | named (names : List String)

def Use.Takes : Use → Datum → Prop
  | any, _ => True
  | mapping, v => ∃ entries, v.bare = .mapping entries
  | shown, v => v.isTooLongIn [] = false
  | float, v => v.toFloat.isOk = true
  | count, v => v.toInt.isOk = true
  | named names, v => v.plain ∈ names

/-- Whether the taking of a value fails in a way that is not told as a fault of the
configuration. -/
def Use.Slips : Use → Datum → Prop
  | mapping, v => ∀ entries, v.bare ≠ .mapping entries
  | float, v => ∃ n, v = .int n ∧ ofInt? n = none
  | count, v => ∃ x, v = .float x ∧ x.isInf = true
  | any, _ | shown, _ | named _, _ => False

/-- The taking of one value: the keys that lead to it, what stands for it where it is missing, and
what it is taken as. -/
structure Taking where
  keys : List String
  missing : Option Datum := none
  use : Use

def member? (d : Datum) (key : String) : Option Datum :=
  match d.bare with
  | .mapping entries => Record.get? entries key
  | _ => none

def Taking.value? (d : Datum) (t : Taking) : Option Datum := (t.keys.foldlM member? d).or t.missing

def Taking.Goes (d : Datum) (t : Taking) : Prop := ∃ v, t.value? d = some v ∧ t.use.Takes v

def Taking.Slips (d : Datum) (t : Taking) : Prop := ∃ v, t.value? d = some v ∧ t.use.Slips v

/-- Whether a taking of a list slips while all takings before it go well. -/
def SlipsAt (d : Datum) (ts : List Taking) : Prop :=
  ∃ before t after, ts = before ++ t :: after ∧ (∀ b ∈ before, b.Goes d) ∧ t.Slips d

theorem slipsAt_nil (d : Datum) : ¬ SlipsAt d [] := by
  rintro ⟨before, t, after, h, -⟩
  simp at h

theorem slipsAt_cons (d : Datum) (t : Taking) (ts : List Taking) :
    SlipsAt d (t :: ts) ↔ t.Slips d ∨ t.Goes d ∧ SlipsAt d ts := by
  constructor
  · rintro ⟨before, u, after, h, hbefore, hslips⟩
    cases before with
    | nil =>
        obtain ⟨rfl, -⟩ := List.cons.inj h
        exact .inl hslips
    | cons b before =>
        obtain ⟨rfl, rfl⟩ := List.cons.inj h
        have hrest : ∀ c ∈ before, c.Goes d := fun c hc => hbefore c (List.mem_cons_of_mem _ hc)
        exact .inr ⟨hbefore _ List.mem_cons_self, before, u, after, rfl, hrest, hslips⟩
  · rintro (hslips | ⟨hgoes, before, u, after, rfl, hbefore, hslips⟩)
    · exact ⟨[], t, ts, rfl, by simp, hslips⟩
    · refine ⟨t :: before, u, after, rfl, fun b hb => ?_, hslips⟩
      rcases List.mem_cons.1 hb with rfl | hb
      · exact hgoes
      · exact hbefore b hb

theorem slipsAt_append (d : Datum) (ts us : List Taking) :
    SlipsAt d (ts ++ us) ↔ SlipsAt d ts ∨ (∀ t ∈ ts, t.Goes d) ∧ SlipsAt d us := by
  induction ts with
  | nil => simp [slipsAt_nil]
  | cons t ts ih =>
      rw [List.cons_append, slipsAt_cons, ih, slipsAt_cons, List.forall_mem_cons]
      tauto

/-! ### Results of takings -/

/-- Whether a result is a fault that is not told as one of the configuration. -/
def Slip {α : Type} (r : Except Fault α) : Prop :=
  ∃ f, r = .error f ∧ isBadValue f = false ∧ f.family ≠ .badConfig

theorem not_slip_ok {α : Type} (a : α) : ¬ Slip (Except.ok a : Except Fault α) := by
  rintro ⟨f, h, -⟩
  cases h

theorem slip_error {α : Type} (f : Fault) :
    Slip (Except.error f : Except Fault α) ↔ isBadValue f = false ∧ f.family ≠ .badConfig := by
  constructor
  · rintro ⟨g, h, hslip⟩
    cases h
    exact hslip
  · exact fun hslip => ⟨f, rfl, hslip⟩

theorem not_slip_of_isBadValue {α : Type} {f : Fault} (h : isBadValue f = true) :
    ¬ Slip (Except.error f : Except Fault α) := by
  rw [slip_error, h]
  exact fun hslip => Bool.noConfusion hslip.1

theorem slip_bind {α β : Type} {x : Except Fault α} {f : α → Except Fault β} :
    Slip (x >>= f) ↔ Slip x ∨ ∃ a, x = .ok a ∧ Slip (f a) := by
  cases x with
  | ok a => simp [bind, Except.bind, not_slip_ok]
  | error e => simp [bind, Except.bind, slip_error]

/-- Whether a result is there just when some takings go well, and slips just when they do. -/
structure Follows {α : Type} (r : Except Fault α) (ts : List Taking) (d : Datum) : Prop where
  ok : (∃ a, r = .ok a) ↔ ∀ t ∈ ts, t.Goes d
  slip : Slip r ↔ SlipsAt d ts

section Follows

variable {α β : Type} {d : Datum} {ts us : List Taking}

theorem follows_ok (a : α) : Follows (.ok a) [] d where
  ok := by simp
  slip := iff_of_false (not_slip_ok a) (slipsAt_nil d)

theorem Follows.bind {x : Except Fault α} {f : α → Except Fault β} (h : Follows x ts d)
    (hnext : ∀ a, x = .ok a → Follows (f a) us d) : Follows (x >>= f) (ts ++ us) d := by
  cases x with
  | ok a =>
      have hgoes : ∀ t ∈ ts, t.Goes d := h.ok.1 ⟨a, rfl⟩
      have hslips : ¬ SlipsAt d ts := fun hs => not_slip_ok a (h.slip.2 hs)
      have hf := hnext a rfl
      change Follows (f a) (ts ++ us) d
      refine ⟨hf.ok.trans ?_, hf.slip.trans ?_⟩
      · rw [List.forall_mem_append]
        exact ⟨fun hu => ⟨hgoes, hu⟩, And.right⟩
      · rw [slipsAt_append]
        exact ⟨fun hu => .inr ⟨hgoes, hu⟩, fun hu => (hu.resolve_left hslips).2⟩
  | error fault =>
      have hgoes : ¬ ∀ t ∈ ts, t.Goes d := by
        intro hall
        obtain ⟨a, ha⟩ := h.ok.2 hall
        cases ha
      have hslip := h.slip
      change Follows (.error fault) (ts ++ us) d
      constructor
      · refine iff_of_false (fun ⟨a, ha⟩ => nomatch ha) fun hall => hgoes ?_
        exact fun t ht => hall t (List.mem_append_left us ht)
      · rw [slip_error] at hslip ⊢
        rw [hslip, slipsAt_append]
        exact ⟨.inl, fun hs => hs.resolve_right fun hu => hgoes hu.1⟩

theorem Follows.cons {r : Except Fault α} {t : Taking} (h : Follows r ts d) (hgoes : t.Goes d)
    (hslips : ¬ t.Slips d) : Follows r (t :: ts) d where
  ok := by rw [h.ok, List.forall_mem_cons, and_iff_right hgoes]
  slip := by rw [h.slip, slipsAt_cons, and_iff_right hgoes, or_iff_right hslips]

theorem follows_error (f : Fault) {t : Taking} (hgoes : ¬ t.Goes d)
    (hslip : Slip (Except.error f : Except Fault α) ↔ t.Slips d) :
    Follows (Except.error f : Except Fault α) (t :: ts) d where
  ok := by
    rw [List.forall_mem_cons]
    exact iff_of_false (fun ⟨a, ha⟩ => nomatch ha) fun h => hgoes h.1
  slip := by rw [hslip, slipsAt_cons, or_iff_left fun h => hgoes h.1]

end Follows

/-! ### What values can be taken as -/

structure IsUse {α : Type} (take : Datum → Except Fault α) (use : Use) : Prop where
  ok : ∀ v, (∃ a, take v = .ok a) ↔ use.Takes v
  slip : ∀ v, Slip (take v) ↔ use.Slips v

theorem isUse_write : IsUse Datum.write .shown where
  ok v := by
    rw [Use.Takes, Datum.write]
    cases v.isTooLongIn [] <;> simp
  slip v := by
    refine iff_of_false ?_ id
    rw [Datum.write]
    split
    · exact not_slip_of_isBadValue rfl
    · exact not_slip_ok _

theorem isUse_toFloat : IsUse Datum.toFloat .float where
  ok v := isOk_iff.symm
  slip v := by
    have hread (s shown : String) : ¬ Slip (Scalar.readFloat s shown) := by
      rw [Scalar.readFloat]
      split
      · exact not_slip_ok _
      · exact not_slip_of_isBadValue rfl
    have hnumber (n : Int) : Slip (Number.whole n).toFloat ↔ ofInt? n = none := by
      rw [Number.toFloat]
      cases ofInt? n with
      | some x => simpa using not_slip_ok x
      | none => simp [slip_error, isBadValue, Fault.family]
    cases v with
    | scalar s =>
        cases s with
        | null => exact iff_of_false (not_slip_of_isBadValue rfl) (by simp [Use.Slips])
        | bool b =>
            have hsmall : ofInt? (if b then 1 else 0) ≠ none := by cases b <;> decide +kernel
            exact iff_of_false (fun h => hsmall ((hnumber _).1 h)) (by simp [Use.Slips])
        | int n => exact (hnumber n).trans (by simp [Use.Slips])
        | float x => exact iff_of_false (not_slip_ok x) (by simp [Use.Slips])
        | text s => exact iff_of_false (hread s _) (by simp [Use.Slips])
    | bytes bs => exact iff_of_false (hread _ _) (by simp [Use.Slips])
    | _ => exact iff_of_false (not_slip_of_isBadValue rfl) (by simp [Use.Slips])

theorem slip_toInt_float (x : Float) : Slip (Number.real x).toInt ↔ x.isInf = true := by
  rw [Number.toInt, truncate?]
  cases hx : parts x with
  | finite negative m e =>
      have hinf : ¬ x.isInf = true := by simp [isInf_iff, hx]
      exact iff_of_false (not_slip_ok _) hinf
  | infinite negative =>
      have hinf : x.isInf = true := isInf_iff.2 ⟨negative, hx⟩
      have hnan : x.isNaN = false := isNaN_eq_false.2 (by simp [hx])
      refine iff_of_true ?_ hinf
      change Slip (.error (if x.isNaN = true then .nanToInt else .infiniteToInt) : Except Fault Int)
      rw [slip_error, hnan]
      exact ⟨rfl, by decide⟩
  | nan =>
      have hinf : ¬ x.isInf = true := by simp [isInf_iff, hx]
      have hnan : x.isNaN = true := by
        rw [← Bool.not_eq_false, isNaN_eq_false, hx]
        simp
      refine iff_of_false ?_ hinf
      change ¬ Slip (.error (if x.isNaN = true then .nanToInt else .infiniteToInt) : Except Fault Int)
      rw [hnan]
      exact not_slip_of_isBadValue rfl

theorem isUse_toInt : IsUse Datum.toInt .count where
  ok v := isOk_iff.symm
  slip v := by
    have hread (s shown : String) : ¬ Slip (Scalar.readInt s shown) := by
      rw [Scalar.readInt]
      split
      · split
        · exact not_slip_of_isBadValue rfl
        · exact not_slip_ok _
      · exact not_slip_of_isBadValue rfl
    cases v with
    | scalar s =>
        cases s with
        | null => exact iff_of_false (not_slip_of_isBadValue rfl) (by simp [Use.Slips])
        | bool b => exact iff_of_false (not_slip_ok _) (by simp [Use.Slips])
        | int n => exact iff_of_false (not_slip_ok n) (by simp [Use.Slips])
        | float x => exact (slip_toInt_float x).trans (by simp [Use.Slips])
        | text s => exact iff_of_false (hread s _) (by simp [Use.Slips])
    | bytes bs => exact iff_of_false (hread _ _) (by simp [Use.Slips])
    | _ => exact iff_of_false (not_slip_of_isBadValue rfl) (by simp [Use.Slips])

end Defaults

end TouchProbe
