import TouchProbe.Proofs.Reopening
import TouchProbe.Sequence.Naming

/-!
Accepted documents.  Nothing fails in the building of a document that was accepted, and every probe
operation and every step of it gets an id: its own if it has one, else a new one.  What was built
can be stored, and its document is accepted and built as the same sequence again.
-/

namespace TouchProbe

open Number
open Program (floatOf)

namespace Document

open Validated

/-! ### Settings -/

/-- The positions that are accepted are those of floats. -/
theorem start_of_position {d : Datum} {p : Position} (h : position d = valid p) (a : Axis) :
    (p.get a).IsExact := by
  obtain ⟨entries, h⟩ := exists_of_record h
  simp only [seq_eq_valid, map_eq_valid] at h
  obtain ⟨_, ⟨_, ⟨x, -, rfl⟩, y, -, rfl⟩, z, -, rfl⟩ := h
  cases a <;> exact Datum.isExact_float _

/-- A float that is read as a length is exact and not below zero. -/
theorem isExact_of_nonNegative {d e : Datum} (h : (nonNegative d).map .float = valid e) :
    e.IsExact ∧ zero ≤ floatOf e := by
  obtain ⟨x, hx, rfl⟩ := validatedMap_eq_valid.1 h
  exact ⟨Datum.isExact_float x, (nonNegative_eq_valid.1 hx).2⟩

theorem isStorable_of_tool {d : Datum} {t : Tool} (h : tool d = valid t) : t.IsStorable := by
  have husual := Settings.isStorable_default.tool
  obtain ⟨entries, h⟩ := exists_of_record h
  simp only [seq_eq_valid, map_eq_valid] at h
  obtain ⟨_, ⟨_, ⟨input, hinput, rfl⟩, unit, -, rfl⟩, size, hsize, rfl⟩ := h
  have htext : ∃ s, input = .text s := by
    rcases exists_of_optional hinput with rfl | ⟨e, he⟩
    · exact husual.input
    · obtain ⟨s, -, rfl⟩ := validatedMap_eq_valid.1 he
      exact ⟨s, rfl⟩
  have hlength : size.IsExact ∧ zero ≤ floatOf size := by
    rcases exists_of_optional hsize with rfl | ⟨e, he⟩
    · exact ⟨husual.size, husual.size_nonneg⟩
    · exact isExact_of_nonNegative he
  exact ⟨htext, hlength.1, hlength.2⟩

theorem isStorable_of_settings {d : Datum} {s : Settings} (h : settings d = valid s) :
    s.IsStorable := by
  have husual := Settings.isStorable_default
  obtain ⟨entries, h⟩ := exists_of_record h
  simp only [seq_eq_valid, map_eq_valid] at h
  obtain ⟨_, ⟨_, ⟨_, ⟨_, ⟨start, hstart, rfl⟩, dwells, hdwells, rfl⟩, spindle, hspindle, rfl⟩, units, -,
    rfl⟩, tool, htool, rfl⟩ := h
  -- A field that is missing has its usual value; one that is there passed its check.
  have hspeed : spindle.IsExact ∧ zero ≤ floatOf spindle := by
    rcases exists_of_optional hspindle with rfl | ⟨e, he⟩
    · exact ⟨husual.spindle, husual.spindle_nonneg⟩
    · exact isExact_of_nonNegative he
  constructor
  · intro a
    rcases exists_of_optional hstart with rfl | ⟨e, he⟩
    · exact husual.start a
    · exact start_of_position he a
  · rcases exists_of_optional hdwells with rfl | ⟨e, he⟩
    · exact husual.dwells
    · obtain ⟨n, hn, rfl⟩ := validatedMap_eq_valid.1 he
      exact ⟨n, rfl, (count_eq_valid.1 hn).2⟩
  · exact hspeed.1
  · exact hspeed.2
  · rcases exists_of_optional htool with rfl | ⟨e, he⟩
    · exact husual.tool
    · exact isStorable_of_tool he

/-- The settings of a document that is accepted can be stored. -/
theorem isStorable_of_sequenceFile {d : Datum} {f : SequenceFile} (h : sequenceFile d = valid f) :
    f.settings.IsStorable := by
  obtain ⟨entries, h⟩ := exists_of_record h
  simp only [seq_eq_valid, map_eq_valid] at h
  obtain ⟨_, ⟨_, ⟨_, -, rfl⟩, settings, hsettings, rfl⟩, operations, -, rfl⟩ := h
  rcases exists_of_optional hsettings with rfl | ⟨e, he⟩
  · exact Settings.isStorable_default
  · exact isStorable_of_settings he

/-! ### Operations -/

theorem isStorable_idOf (id : Option String) : (idOf id).IsStorable := by
  cases id with
  | none => exact .inl rfl
  | some s =>
      rw [idOf]
      split
      · exact .inl rfl
      · next hne =>
        refine .inr ⟨s, ?_, rfl⟩
        rintro rfl
        exact hne rfl

theorem isStorable_step {s : StoredStep} (h : s.IsSound) : s.step.IsStorable := by
  cases s with
  | rapid id description axes mode system =>
      refine ⟨isStorable_idOf id, ⟨description, rfl⟩, _, rfl, fun e he => ?_⟩
      obtain ⟨e, -, rfl⟩ := List.mem_map.1 he
      exact Datum.isExact_float e.2
  | dwell id description time =>
      exact ⟨isStorable_idOf id, ⟨description, rfl⟩, Datum.isExact_float time, h⟩

theorem isStorable_steps {moves : List StoredStep} (h : ∀ m ∈ moves, m.IsSound) :
    ∀ m ∈ moves.map StoredStep.step, m.IsStorable := by
  rw [List.forall_mem_map]
  exact fun m hm => isStorable_step (h m hm)

/-- What a sound operation of a document is built as can be stored. -/
theorem isStorable_probe {p : StoredProbe} (h : p.IsSound) : p.probe.IsStorable where
  id := isStorable_idOf p.id
  direction := h.direction.imp (congrArg Scalar.int) (congrArg Scalar.int)
  distance := Datum.isExact_float _
  distance_nonneg := h.distance
  feedRate := Datum.isExact_float _
  backoff := Datum.isExact_float _
  backoff_nonneg := h.backoff
  offset := Datum.isExact_float _
  preMoves := isStorable_steps h.preMoves
  postMoves := isStorable_steps h.postMoves

end Document

/-! ### Names -/

open Naming

theorem Ident.isStorable_orNamed {i : Ident} (h : i.IsStorable) {name : String} (hname : name ≠ "") :
    (i.orNamed name).IsStorable := by
  rcases h with rfl | ⟨s, hs, rfl⟩
  · exact .inr ⟨name, hname, rfl⟩
  · exact .inr ⟨s, hs, rfl⟩

theorem append_ne_empty {s : String} (h : s ≠ "") (t : String) : s ++ t ≠ "" := by
  intro hempty
  exact h (String.append_eq_empty_iff.1 hempty).1

theorem isStorable_nameStep {s : Step} (h : s.IsStorable) (ending : String) :
    (nameStep ending s).IsStorable := by
  have hname : "step-" ++ ending ≠ "" := append_ne_empty (by decide) ending
  cases s with
  | rapid r => exact ⟨Ident.isStorable_orNamed h.1 hname, h.2⟩
  | dwell d => exact ⟨Ident.isStorable_orNamed h.1 hname, h.2⟩

theorem isStorable_nameSteps {moves : List Step} (h : ∀ m ∈ moves, m.IsStorable)
    (endings : Nat → String) (first : Nat) : ∀ m ∈ nameSteps endings first moves, m.IsStorable := by
  intro m hm
  obtain ⟨s, hs, rfl⟩ := List.mem_map.1 hm
  exact isStorable_nameStep (h s.1 (List.fst_mem_of_mem_zipIdx hs)) _

theorem isStorable_nameProbe {p : Probe} (h : p.IsStorable) (endings : Nat → String) (first : Nat) :
    (nameProbe endings first p).IsStorable :=
  { h with
    id := Ident.isStorable_orNamed h.id (append_ne_empty (by decide) _)
    preMoves := isStorable_nameSteps h.preMoves endings _
    postMoves := isStorable_nameSteps h.postMoves endings _ }

theorem exists_of_mem_nameProbes {endings : Nat → String} {first : Nat} {ops : List Probe} {q : Probe}
    (h : q ∈ nameProbes endings first ops) : ∃ p ∈ ops, ∃ k, q = nameProbe endings k p := by
  induction ops generalizing first with
  | nil => cases h
  | cons p ops ih =>
      rcases List.mem_cons.1 h with rfl | h
      · exact ⟨p, List.mem_cons_self, first, rfl⟩
      · obtain ⟨r, hr, k, hk⟩ := ih h
        exact ⟨r, List.mem_cons_of_mem p hr, k, hk⟩

theorem isStorable_nameProbes {ops : List Probe} (h : ∀ p ∈ ops, p.IsStorable)
    (endings : Nat → String) (first : Nat) : ∀ q ∈ nameProbes endings first ops, q.IsStorable := by
  intro q hq
  obtain ⟨p, hp, k, rfl⟩ := exists_of_mem_nameProbes hq
  exact isStorable_nameProbe (h p hp) endings k

theorem forall₂_nameSteps {α : Type} {R : α → Step → Prop} {step : α → Step}
    (h : ∀ a ending, R a (nameStep ending (step a))) (endings : Nat → String) (first : Nat)
    (as : List α) : List.Forall₂ R as (nameSteps endings first (as.map step)) := by
  rw [nameSteps, List.forall₂_map_right_iff]
  apply List.forall₂_of_length_eq_of_get
  · rw [List.length_zipIdx, List.length_map]
  · intro i _ _
    simpa using h _ _

theorem forall₂_nameProbes {α : Type} {R : α → Probe → Prop} {probe : α → Probe}
    {endings : Nat → String} (h : ∀ a k, R a (nameProbe endings k (probe a))) (as : List α)
    (first : Nat) : List.Forall₂ R as (nameProbes endings first (as.map probe)) := by
  induction as generalizing first with
  | nil => exact .nil
  | cons a as ih => exact .cons (h a first) (ih _)

namespace Document

def StoredStep.id : StoredStep → Option String
  | rapid id .. => id
  | dwell id .. => id

/-- Whether an id is a text that is not empty, and the one of a document if the document has such a
text. -/
def Keeps (stored : Option String) (i : Ident) : Prop :=
  ∃ name, name ≠ "" ∧ i = .given (.text name) ∧
    ∀ given, stored = some given → given ≠ "" → name = given

/-- Whether a probe operation and its steps have ids, those of a document where it has them. -/
structure StoredProbe.Keeps (p : StoredProbe) (q : Probe) : Prop where
  id : Document.Keeps p.id q.id
  preMoves : List.Forall₂ (fun s t => Document.Keeps s.id t.id) p.preMoves q.preMoves
  postMoves : List.Forall₂ (fun s t => Document.Keeps s.id t.id) p.postMoves q.postMoves

theorem keeps_orNamed (stored : Option String) {name : String} (hname : name ≠ "") :
    Keeps stored ((idOf stored).orNamed name) := by
  cases stored with
  | none => exact ⟨name, hname, rfl, fun given h => by cases h⟩
  | some s =>
      rw [idOf]
      split
      · next hempty =>
        refine ⟨name, hname, rfl, fun given h hne => absurd ?_ hne⟩
        rw [← Option.some.inj h]
        exact String.isEmpty_iff.1 hempty
      · next hfull =>
        refine ⟨s, fun hempty => hfull (String.isEmpty_iff.2 hempty), rfl, fun given h _ => ?_⟩
        exact Option.some.inj h

theorem keeps_nameStep (s : StoredStep) (ending : String) :
    Keeps s.id (nameStep ending s.step).id := by
  have hname : "step-" ++ ending ≠ "" := append_ne_empty (by decide) ending
  cases s with
  | rapid id description axes mode system => exact keeps_orNamed id hname
  | dwell id description time => exact keeps_orNamed id hname

theorem keeps_nameProbe (p : StoredProbe) (endings : Nat → String) (k : Nat) :
    p.Keeps (nameProbe endings k p.probe) where
  id := keeps_orNamed p.id (append_ne_empty (by decide) _)
  preMoves := forall₂_nameSteps keeps_nameStep endings _ p.preMoves
  postMoves := forall₂_nameSteps keeps_nameStep endings _ p.postMoves

/-! ### Accepted documents -/

/-- The sequence of a document that is accepted can be stored. -/
theorem isStorable_sequence {d : Datum} {f : SequenceFile} (h : sequenceFile d = .valid f) :
    f.sequence.IsStorable ∧ ∀ p ∈ f.sequence.operations, p.IsStorable := by
  refine ⟨{ isStorable_of_sequenceFile h with }, ?_⟩
  rw [SequenceFile.sequence, List.forall_mem_map]
  exact fun p hp => isStorable_probe (operations_of_sequenceFile h p hp)

theorem floatOf_nameProbes {ops : List Probe} (h : ∀ p ∈ ops, zero < floatOf p.feedRate)
    (endings : Nat → String) (first : Nat) :
    ∀ q ∈ nameProbes endings first ops, zero < floatOf q.feedRate := by
  intro q hq
  obtain ⟨p, hp, k, rfl⟩ := exists_of_mem_nameProbes hq
  exact h p hp

/-- A document is refused for its violations, or nothing fails in its building.  Then every probe
operation and every step has an id, the one of the document where it has one, and the document that
is made of the result is accepted and built as the same operations and settings. -/
theorem build_of_check (source : String) (d : Datum) :
    (∃ violations, check source d = .error (.invalidSequence source violations) ∧
      toSequence source d = .error (.invalidSequence source violations)) ∨
    ∃ f s, check source d = .ok f ∧ toSequence source d = .ok s ∧
      f.operations.mapM StoredProbe.build = .ok s.operations ∧
      ∀ endings, List.Forall₂ StoredProbe.Keeps f.operations (nameProbes endings 0 s.operations) ∧
        ∃ e t, ofSequence (nameProbes endings 0 s.operations) s = .ok e ∧
          (∀ source, toSequence source e = .ok t) ∧
          List.Forall₂ Probe.Same (nameProbes endings 0 s.operations) t.operations ∧ s.Same t := by
  rw [toSequence_eq, check]
  cases h : sequenceFile d with
  | invalid violations => exact .inl ⟨violations, rfl, rfl⟩
  | valid f =>
      have hsound := operations_of_sequenceFile h
      have hbuilt := Program.mapM_eq_ok fun p hp => StoredProbe.build_eq (hsound p hp)
      refine .inr ⟨f, f.sequence, rfl, rfl, hbuilt, ?_⟩
      intro endings
      refine ⟨forall₂_nameProbes (fun p k => keeps_nameProbe p endings k) f.operations 0, ?_⟩
      obtain ⟨hsettings, hops⟩ := isStorable_sequence h
      have hfeeds : ∀ p ∈ f.sequence.operations, zero < floatOf p.feedRate := by
        rw [SequenceFile.sequence, List.forall_mem_map]
        exact fun p hp => (hsound p hp).feedRate
      -- Names change no number, so what was accepted once is accepted again.
      have hnamed := isStorable_nameProbes hops endings 0
      obtain ⟨e, he, hback⟩ := toSequence_ofSequence hnamed hsettings
      exact ⟨e, _, he, fun source => (hback source _).2 ⟨floatOf_nameProbes hfeeds endings 0, rfl⟩,
        forall₂_same_reopened hnamed f.sequence, same_reopened _ hsettings⟩

/-- Numbers may be texts or truth values, and axes may be in small letters. -/
example : (match toSequence "" (.record [("operations", .list [.record [("axis", .text "y"),
      ("direction", .int (-1)), ("distance", .text " 5.5 "), ("feed_rate", .bool true),
      ("backoff_distance", .int 0), ("pre_moves", .list [.record [("type", .text "rapid"),
        ("axes_values", .record [("x", .int 1), ("X", .int 2)])]])]])]) with
    | .ok s => s.operations.map fun p => (p.axis, p.preMoves.map Step.kind)
    | .error _ => []) = [(.y, ["rapid"])] := by decide +kernel

end Document

end TouchProbe
