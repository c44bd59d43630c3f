import TouchProbe.FileTree.Load

/-!
Changes that fail.  A change of a file tree that ends with a fault leaves every file as it was, and
makes none; only folders on the way to the file may have come into being, since making a folder does
nothing else, whether or not it ends with a fault.
-/

namespace TouchProbe.FileTree

variable {t t' t'' : FileTree}

/-- Whether a tree has the files of another one, each with the same bytes, and all its folders. -/
structure KeepsFiles (t t' : FileTree) : Prop where
  here : t'.here = t.here
  files : ∀ way bytes, t'.lookup? way = some (.file bytes) ↔ t.lookup? way = some (.file bytes)
  folders : ∀ way, t.lookup? way = some .folder → t'.lookup? way = some .folder

theorem KeepsFiles.refl (t : FileTree) : t.KeepsFiles t := ⟨rfl, fun _ _ => Iff.rfl, fun _ => id⟩

/-! ### Folders that are added -/

/-- Whether a tree is another one with folders where nothing stood, all of them at ways of a
kind. -/
structure AddsFolders (Added : List String → Prop) (t t' : FileTree) : Prop where
  here : t'.here = t.here
  entries : ∀ way, t'.lookup? way = t.lookup? way ∨
    t.lookup? way = none ∧ t'.lookup? way = some .folder ∧ Added way

section AddsFolders

variable {Added Added' : List String → Prop}

theorem AddsFolders.refl (Added : List String → Prop) (t : FileTree) : AddsFolders Added t t :=
  ⟨rfl, fun _ => .inl rfl⟩

theorem AddsFolders.mono (h : AddsFolders Added t t') (himp : ∀ way, Added way → Added' way) :
    AddsFolders Added' t t' where
  here := h.here
  entries way := (h.entries way).imp_right fun ⟨hnone, hfolder, hadded⟩ =>
    ⟨hnone, hfolder, himp way hadded⟩

theorem AddsFolders.trans (h : AddsFolders Added t t') (h' : AddsFolders Added t' t'') :
    AddsFolders Added t t'' where
  here := h'.here.trans h.here
  entries way := by
    rcases h.entries way with hsame | ⟨hnone, hfolder, hadded⟩ <;>
      rcases h'.entries way with hsame' | ⟨hnone', hfolder', hadded'⟩
    · exact .inl (hsame'.trans hsame)
    · exact .inr ⟨hsame ▸ hnone', hfolder', hadded'⟩
    · exact .inr ⟨hnone, hsame'.trans hfolder, hadded⟩
    · exact .inr ⟨hnone, hfolder', hadded'⟩

theorem AddsFolders.keepsFiles (h : AddsFolders Added t t') : t.KeepsFiles t' where
  here := h.here
  files way bytes := by
    rcases h.entries way with hsame | ⟨hnone, hfolder, -⟩
    · rw [hsame]
    · simp [hnone, hfolder]
  folders way hfolder := by
    rcases h.entries way with hsame | ⟨hnone, -, -⟩
    · exact hsame.trans hfolder
    · rw [hnone] at hfolder
      cases hfolder

end AddsFolders

theorem addsFolders_addFolder (t : FileTree) (way : List String) :
    AddsFolders (· = way) t (t.addFolder way) := by
  rw [addFolder]
  split
  · exact .refl _ t
  · next hnone =>
    rw [Bool.not_eq_true, Option.isSome_eq_false_iff, Option.isNone_iff_eq_none] at hnone
    have hroot : way ≠ [] := by
      rintro rfl
      cases hnone
    refine ⟨rfl, fun v => ?_⟩
    rw [lookup?_set t hroot]
    split
    · next hv => exact .inr ⟨hv ▸ hnone, rfl, hv⟩
    · exact .inl rfl

theorem addsFolders_makeLast (t : FileTree) (a : Address) :
    AddsFolders (· = t.way a) t (t.makeLast a).1 := by
  rw [makeLast]
  split
  · exact .refl _ t
  · exact .refl _ t
  · exact .refl _ t
  · split
    · exact addsFolders_addFolder t _
    · exact .refl _ t

/-- Whether a way leads to an address or to a folder around it. -/
def IsOnWay (t : FileTree) (a : Address) (way : List String) : Prop :=
  ∃ names, names <+: a.names ∧ way = t.way { a with names }

theorem way_congr (h : t'.here = t.here) (a : Address) : t'.way a = t.way a := by
  rw [way, way, base, base, h]

theorem addsFolders_makeAll (t : FileTree) (rooted : Bool) (names : List String) :
    AddsFolders (t.IsOnWay ⟨rooted, names.reverse⟩) t (t.makeAll rooted names).1 := by
  induction names generalizing t with
  | nil => exact .refl _ t
  | cons n around ih =>
      let a : Address := ⟨rooted, (n :: around).reverse⟩
      -- The folder itself is made in a tree that has other folders but starts where this one does.
      have hlast {t₁ : FileTree} (hhere : t₁.here = t.here) :
          AddsFolders (t.IsOnWay a) t₁ (t₁.makeLast a).1 :=
        (addsFolders_makeLast t₁ a).mono fun way hway =>
          ⟨a.names, List.prefix_refl _, hway.trans (way_congr hhere a)⟩
      have haround {t₁ : FileTree} (hhere : t₁.here = t.here) :
          AddsFolders (t.IsOnWay a) t₁ (t₁.makeAll rooted around).1 := by
        refine (ih t₁).mono fun way => ?_
        rintro ⟨names, hnames, hway⟩
        refine ⟨names, hnames.trans ?_, hway.trans (way_congr hhere _)⟩
        exact ⟨[n], List.reverse_cons.symm⟩
      have h := hlast (rfl : t.here = t.here)
      rw [makeAll]
      split
      · next t₁ path heq =>
        rw [heq] at h
        have h₁ := h.trans (haround h.here)
        generalize t₁.makeAll rooted around = o at h₁ ⊢
        obtain ⟨t₂, _ | _⟩ := o
        · exact h₁
        · exact h₁.trans (hlast h₁.here)
      · exact h

/-- Making a folder adds only folders on the way to it. -/
theorem addsFolders_makeFolder (t : FileTree) (a : Address) :
    AddsFolders (t.IsOnWay a) t (t.makeFolder a).1 := by
  rw [makeFolder]
  split
  · exact .refl _ t
  · have h := addsFolders_makeAll t a.rooted a.names.reverse
    rwa [List.reverse_reverse] at h

theorem keepsFiles_makeFolder (t : FileTree) (a : Address) : t.KeepsFiles (t.makeFolder a).1 :=
  (addsFolders_makeFolder t a).keepsFiles

/-! ### Changes that fail -/

/-- Whether a change of a tree keeps all files if it fails. -/
def SparesFiles (t : FileTree) (o : Outcome) : Prop := ∀ f, o.2 = .error f → t.KeepsFiles o.1

theorem sparesFiles_unchanged (t : FileTree) (f : Fault) : t.SparesFiles (t.unchanged f) :=
  fun _ _ => KeepsFiles.refl t

/-- A write that fails has done nothing but make folders. -/
theorem fst_write_of_error {a : Address} {bytes : List UInt8} {f : Fault}
    (h : (t.write a bytes).2 = .error f) : (t.write a bytes).1 = (t.makeFolder a.parent).1 := by
  rw [write] at h ⊢
  generalize t.makeFolder a.parent = o at h ⊢
  obtain ⟨t₁, _ | _⟩ := o
  · rfl
  · rw [andThen_ok] at h ⊢
    split at h
    · rfl
    · rfl
    · cases h

theorem sparesFiles_write (t : FileTree) (a : Address) (bytes : List UInt8) :
    t.SparesFiles (t.write a bytes) := by
  intro f hf
  rw [fst_write_of_error hf]
  exact keepsFiles_makeFolder t a.parent

theorem sparesFiles_writeText (t : FileTree) (a : Address) (encoding : Text.Encoding) (s : String) :
    t.SparesFiles (t.writeText a encoding s) := by
  rw [writeText]
  split
  · exact sparesFiles_write t a _
  · exact sparesFiles_unchanged t _

theorem sparesFiles_saveSequence (t : FileTree) (a : Address) (operations : List Probe)
    (s : Settings) : t.SparesFiles (t.saveSequence a operations s) := by
  rw [saveSequence]
  split
  · exact sparesFiles_writeText t a .utf8 _
  · exact sparesFiles_unchanged t _

end TouchProbe.FileTree
