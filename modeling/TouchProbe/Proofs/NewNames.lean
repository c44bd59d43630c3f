import TouchProbe.Proofs.EditRuns

/-!
Where an edit changes a sequence, and which names are made up after it.  Edits find a probe operation
or a step by an id, so they change the first member of a list that has it.  Where all other ids are
there, nothing but the changed member gets names.
-/

namespace TouchProbe

namespace Edit

/-! ### The first member that passes a test -/

section First

variable {α : Type} {test : α → Bool}

/-- Whether a member passes a test and none before it does. -/
structure IsFirst (test : α → Bool) (before : List α) (a : α) : Prop where
  skipped : ∀ b ∈ before, test b = false
  found : test a = true

/-- Whether two lists are the same but for the first member that passes a test, and how the two
members there are related. -/
def AtFirst (test : α → Bool) (R : α → α → Prop) (as bs : List α) : Prop :=
  ∃ before a after b, IsFirst test before a ∧ as = before ++ a :: after ∧ R a b ∧
    bs = before ++ b :: after

theorem atFirst_of_changeFirst {missing : Fault} {change : α → Except Fault α} {as bs : List α}
    (h : changeFirst test missing change as = .ok bs) :
    AtFirst test (fun a b => change a = .ok b) as bs := by
  induction as generalizing bs with
  | nil => cases h
  | cons a as ih =>
      rw [changeFirst] at h
      split at h
      · next ha =>
        obtain ⟨b, hb, rfl⟩ := map_eq_ok.1 h
        exact ⟨[], a, as, b, ⟨by simp, ha⟩, rfl, hb, rfl⟩
      · next ha =>
        obtain ⟨cs, hcs, rfl⟩ := map_eq_ok.1 h
        obtain ⟨before, c, after, b, hfirst, rfl, hb, rfl⟩ := ih hcs
        refine ⟨a :: before, c, after, b, ⟨?_, hfirst.found⟩, rfl, hb, rfl⟩
        exact List.forall_mem_cons.2 ⟨Bool.eq_false_iff.2 ha, hfirst.skipped⟩

theorem exists_eraseP {as : List α} (h : as.any test = true) :
    ∃ before a after, IsFirst test before a ∧ as = before ++ a :: after ∧
      as.eraseP test = before ++ after := by
  obtain ⟨a, ha, htest⟩ := List.any_eq_true.1 h
  obtain ⟨a, before, after, hbefore, htest, hsplit, herased⟩ := List.exists_of_eraseP ha htest
  exact ⟨before, a, after, ⟨fun b hb => Bool.eq_false_iff.2 (hbefore b hb), htest⟩, hsplit, herased⟩

end First

/-! ### Relations that keep all members but one -/

section Around

variable {α : Type} {R : α → α → Prop} {P : α → Prop}

theorem eq_of_forall₂ (hkeeps : ∀ a b, P a → R a b → b = a) {as bs : List α} (has : ∀ a ∈ as, P a)
    (h : List.Forall₂ R as bs) : bs = as := by
  induction h with
  | nil => rfl
  | cons hR _ ih =>
      obtain ⟨ha, has⟩ := List.forall_mem_cons.1 has
      rw [hkeeps _ _ ha hR, ih has]

/-- A relation that keeps all members but one relates a list to the same list with that one
replaced. -/
theorem around_of_forall₂ (hkeeps : ∀ a b, P a → R a b → b = a) {before after bs : List α} {a : α}
    (hbefore : ∀ x ∈ before, P x) (hafter : ∀ x ∈ after, P x)
    (h : List.Forall₂ R (before ++ a :: after) bs) : ∃ b, R a b ∧ bs = before ++ b :: after := by
  induction before generalizing bs with
  | nil =>
      cases h with
      | cons hR hrest => exact ⟨_, hR, by rw [eq_of_forall₂ hkeeps hafter hrest]; rfl⟩
  | cons c before ih =>
      obtain ⟨hc, hbefore⟩ := List.forall_mem_cons.1 hbefore
      cases h with
      | cons hR hrest =>
          obtain ⟨b, hb, rfl⟩ := ih hbefore hrest
          exact ⟨b, hb, by rw [hkeeps _ _ hc hR]; rfl⟩

end Around

end Edit

/-! ### Names -/

open Naming

/-- Whether the id of a step is there. -/
def Step.IsNamed (s : Step) : Prop := s.id ≠ .made

/-- Whether the ids of a probe operation and of its moves are there. -/
structure Probe.IsNamed (p : Probe) : Prop where
  id : p.id ≠ .made
  preMoves : ∀ m ∈ p.preMoves, m.IsNamed
  postMoves : ∀ m ∈ p.postMoves, m.IsNamed

theorem Probe.IsNamed.moves {p : Probe} (h : p.IsNamed) (side : Side) :
    ∀ m ∈ side.moves p, m.IsNamed := by
  cases side with
  | pre => exact h.preMoves
  | post => exact h.postMoves

theorem Ident.orNamed_of_ne {i : Ident} (h : i ≠ .made) (name : String) : i.orNamed name = i := by
  cases i with
  | given d => rfl
  | made => exact absurd rfl h

theorem Ident.orNamed_ne_made (i : Ident) (name : String) : i.orNamed name ≠ .made := by
  cases i <;> exact Ident.noConfusion

namespace Edit

theorem nameStep_of_isNamed {s : Step} (h : s.IsNamed) (ending : String) : nameStep ending s = s := by
  cases s with
  | rapid r =>
      have hid : r.id.orNamed ("step-" ++ ending) = r.id := Ident.orNamed_of_ne h _
      rw [nameStep, hid]
  | dwell d =>
      have hid : d.id.orNamed ("step-" ++ ending) = d.id := Ident.orNamed_of_ne h _
      rw [nameStep, hid]

theorem isNamed_nameStep (s : Step) (ending : String) : (nameStep ending s).IsNamed := by
  cases s <;> exact Ident.orNamed_ne_made _ _

/-- Whether a step is another one, perhaps with a name for its id. -/
def NamesStep (s t : Step) : Prop := ∃ ending, t = nameStep ending s

theorem eq_of_names (s t : Step) (hs : s.IsNamed) (h : NamesStep s t) : t = s := by
  obtain ⟨ending, rfl⟩ := h
  exact nameStep_of_isNamed hs ending

theorem names_nameSteps (endings : Nat → String) (first : Nat) (ms : List Step) :
    List.Forall₂ NamesStep ms (nameSteps endings first ms) := by
  have h : List.Forall₂ NamesStep ms (nameSteps endings first (ms.map id)) :=
    forall₂_nameSteps (fun _ ending => ⟨ending, rfl⟩) endings first ms
  rwa [List.map_id] at h

theorem nameSteps_of_isNamed {ms : List Step} (h : ∀ m ∈ ms, m.IsNamed) (endings : Nat → String)
    (first : Nat) : nameSteps endings first ms = ms :=
  eq_of_forall₂ eq_of_names h (names_nameSteps endings first ms)

theorem nameProbe_of_isNamed {p : Probe} (h : p.IsNamed) (endings : Nat → String) (first : Nat) :
    nameProbe endings first p = p := by
  rw [nameProbe, Ident.orNamed_of_ne h.id, nameSteps_of_isNamed h.preMoves,
    nameSteps_of_isNamed h.postMoves]

/-- Of a probe operation with other moves on one side only these moves get names. -/
theorem nameProbe_withMoves {p : Probe} (h : p.IsNamed) (endings : Nat → String) (first : Nat)
    (side : Side) (ms : List Step) :
    ∃ k, nameProbe endings first (side.withMoves p ms) = side.withMoves p (nameSteps endings k ms) := by
  cases side with
  | pre =>
      refine ⟨first + 1, ?_⟩
      rw [nameProbe, Side.withMoves, Ident.orNamed_of_ne h.id, nameSteps_of_isNamed h.postMoves]
      rfl
  | post =>
      refine ⟨first + 1 + p.preMoves.length, ?_⟩
      rw [nameProbe, Side.withMoves, Ident.orNamed_of_ne h.id, nameSteps_of_isNamed h.preMoves]
      rfl

/-- Whether a probe operation is another one, perhaps with names for ids. -/
def NamesProbe (endings : Nat → String) (p q : Probe) : Prop := ∃ k, q = nameProbe endings k p

theorem eq_of_namesProbe {endings : Nat → String} (p q : Probe) (hp : p.IsNamed)
    (h : NamesProbe endings p q) : q = p := by
  obtain ⟨k, rfl⟩ := h
  exact nameProbe_of_isNamed hp endings k

theorem names_nameProbes (endings : Nat → String) (ps : List Probe) :
    List.Forall₂ (NamesProbe endings) ps (nameProbes endings 0 ps) := by
  have h : List.Forall₂ (NamesProbe endings) ps (nameProbes endings 0 (ps.map id)) :=
    forall₂_nameProbes (fun _ k => ⟨k, rfl⟩) ps 0
  rwa [List.map_id] at h

theorem nameProbes_of_isNamed {ps : List Probe} (h : ∀ p ∈ ps, p.IsNamed) (endings : Nat → String) :
    nameProbes endings 0 ps = ps :=
  eq_of_forall₂ eq_of_namesProbe h (names_nameProbes endings ps)

theorem isNamed_nameSteps (endings : Nat → String) (first : Nat) (ms : List Step) :
    ∀ m ∈ nameSteps endings first ms, m.IsNamed := by
  intro m hm
  obtain ⟨s, -, rfl⟩ := List.mem_map.1 hm
  exact isNamed_nameStep _ _

theorem isNamed_nameProbes (ps : List Probe) (endings : Nat → String) :
    ∀ q ∈ nameProbes endings 0 ps, q.IsNamed := by
  intro q hq
  obtain ⟨p, -, k, rfl⟩ := exists_of_mem_nameProbes hq
  exact ⟨Ident.orNamed_ne_made _ _, isNamed_nameSteps endings _ _, isNamed_nameSteps endings _ _⟩

/-- Names come to the changed member only. -/
theorem AtFirst.nameProbes {test : Probe → Bool} {R S : Probe → Probe → Prop} {ps qs : List Probe}
    (h : AtFirst test R ps qs) (hps : ∀ p ∈ ps, p.IsNamed) (endings : Nat → String)
    (hnamed : ∀ p q k, p.IsNamed → R p q → S p (nameProbe endings k q)) :
    AtFirst test S ps (nameProbes endings 0 qs) := by
  obtain ⟨before, p, after, q, hfirst, rfl, hR, rfl⟩ := h
  obtain ⟨hbefore, hrest⟩ := List.forall_mem_append.1 hps
  obtain ⟨hp, hafter⟩ := List.forall_mem_cons.1 hrest
  obtain ⟨_, ⟨k, rfl⟩, hq⟩ :=
    around_of_forall₂ eq_of_namesProbe hbefore hafter (names_nameProbes endings (before ++ q :: after))
  exact ⟨before, p, after, _, hfirst, rfl, hnamed p q k hp hR, hq⟩

theorem AtFirst.nameSteps {test : Step → Bool} {R S : Step → Step → Prop} {ms ns : List Step}
    (h : AtFirst test R ms ns) (hms : ∀ m ∈ ms, m.IsNamed) (endings : Nat → String) (first : Nat)
    (hnamed : ∀ s t ending, s.IsNamed → R s t → S s (nameStep ending t)) :
    AtFirst test S ms (nameSteps endings first ns) := by
  obtain ⟨before, s, after, t, hfirst, rfl, hR, rfl⟩ := h
  obtain ⟨hbefore, hrest⟩ := List.forall_mem_append.1 hms
  obtain ⟨hs, hafter⟩ := List.forall_mem_cons.1 hrest
  obtain ⟨_, ⟨ending, rfl⟩, ht⟩ :=
    around_of_forall₂ eq_of_names hbefore hafter (names_nameSteps endings first (before ++ t :: after))
  exact ⟨before, s, after, _, hfirst, rfl, hnamed s t ending hs hR, ht⟩

end Edit

end TouchProbe
