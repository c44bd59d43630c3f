import TouchProbe.Proofs.KeptFiles
import TouchProbe.Proofs.Reopening

/-!
What was written is found.  An address is followed name by name; a file that is set where nothing
but a file stands does not change what the names before the last one lead to, so following the
address again ends at the file.  A sequence that was saved is loaded as the sequence that its
document holds.
-/

namespace TouchProbe

namespace FileTree

/-! ### Following names -/

/-- The way to which a name leads from another one, both with their last names first. -/
def enter (here : List String) (n : String) : List String := if n = ".." then here.drop 1 else n :: here

variable {t t' : FileTree} {here w : List String} {ns : List String} {n : String}

theorem follow_cons (t : FileTree) (here : List String) (n : String) (ns : List String) :
    t.follow here (n :: ns) =
      match t.lookup? (enter here n).reverse, ns with
      | some .folder, ns => t.follow (enter here n) ns
      | some (.file bytes), [] => .file bytes
      | some (.file _), _ :: _ => .blocked
      | none, _ => .missing := by
  rw [follow.eq_def]
  rfl

/-- Names lead to a folder just when each of them does. -/
theorem follow_cons_folder : t.follow here (n :: ns) = .folder ↔
    t.lookup? (enter here n).reverse = some .folder ∧ t.follow (enter here n) ns = .folder := by
  rw [follow_cons]
  cases t.lookup? (enter here n).reverse with
  | none => simp
  | some e =>
      cases e with
      | folder => simp
      | file bytes => cases ns <;> simp

theorem follow_append (h : t.follow here ns = .folder) (ms : List String) :
    t.follow here (ns ++ ms) = t.follow (ns.foldl enter here) ms := by
  induction ns generalizing here with
  | nil => rfl
  | cons n ns ih =>
      obtain ⟨hfolder, hrest⟩ := follow_cons_folder.1 h
      rw [List.cons_append, follow_cons, hfolder]
      exact ih hrest

theorem follow_singleton (t : FileTree) (here : List String) (n : String) :
    t.follow here [n] =
      match t.lookup? (enter here n).reverse with
      | some .folder => .folder
      | some (.file bytes) => .file bytes
      | none => .missing := by
  rw [follow_cons]
  cases t.lookup? (enter here n).reverse with
  | none => rfl
  | some e => cases e <;> rfl

/-- Names that lead to a folder do so in every tree that has all folders of the first one. -/
theorem follow_of_folders (hfolders : ∀ v, t.lookup? v = some .folder → t'.lookup? v = some .folder)
    (h : t.follow here ns = .folder) : t'.follow here ns = .folder := by
  induction ns generalizing here with
  | nil => rfl
  | cons n ns ih =>
      obtain ⟨hfolder, hrest⟩ := follow_cons_folder.1 h
      exact follow_cons_folder.2 ⟨hfolders _ hfolder, ih hrest⟩

theorem lookup?_set_folder (hw : w ≠ []) {v : List String} (h : t.lookup? v = some .folder) :
    (t.set w .folder).lookup? v = some .folder := by
  rw [lookup?_set t hw]
  split
  · rfl
  · exact h

theorem lookup?_set_file (hw : t.lookup? w ≠ some .folder) (bytes : List UInt8) {v : List String}
    (h : t.lookup? v = some .folder) : (t.set w (.file bytes)).lookup? v = some .folder := by
  have hne : w ≠ [] := fun hnil => hw (by rw [hnil]; rfl)
  have hother : v ≠ w := fun hv => hw (hv ▸ h)
  rw [lookup?_set t hne, if_neg hother]
  exact h

/-! ### Ways -/

/-- The way of an address, where addresses start in a folder that is named without going back. -/
theorem way_eq (hhere : ".." ∉ t.here) (a : Address) :
    t.way a = (a.names.foldl enter (t.base a).reverse).reverse := by
  have hbase : ".." ∉ t.base a := by
    rw [base]
    split
    · exact List.not_mem_nil
    · exact hhere
  have hdirect (start base : List String) (hnot : ".." ∉ base) :
      base.foldl enter start = base.reverse ++ start := by
    induction base generalizing start with
    | nil => rfl
    | cons n base ih =>
        rw [List.mem_cons, not_or] at hnot
        rw [List.foldl_cons, ih _ hnot.2, enter, if_neg (Ne.symm hnot.1)]
        simp
  -- Names that do not go back are entered one after the other, so the way starts in the folder
  -- itself.
  rw [way, Address.direct, List.foldl_append]
  change (a.names.foldl enter ((t.base a).foldl enter [])).reverse = _
  rw [hdirect [] _ hbase, List.append_nil]

theorem find_eq_follow {a : Address} (h : a.fault? = none) :
    t.find a = t.follow (t.base a).reverse a.names := by
  rw [find, h]
  rfl

theorem follow_of_find_folder {a : Address} (h : t.find a = .folder) :
    t.follow (t.base a).reverse a.names = .folder := by
  rw [find] at h
  split at h
  · cases h
  · exact h

/-- Where the names before the last one lead to a folder, the entry at the end of the way is
found. -/
theorem follow_names (hhere : ".." ∉ t.here) {a : Address} (hnames : a.names = ns ++ [n])
    (h : t.follow (t.base a).reverse ns = .folder) :
    t.follow (t.base a).reverse a.names =
      match t.lookup? (t.way a) with
      | some .folder => .folder
      | some (.file bytes) => .file bytes
      | none => .missing := by
  have hway : t.way a = (enter (ns.foldl enter (t.base a).reverse) n).reverse := by
    rw [way_eq hhere, hnames, List.foldl_append]
    rfl
  rw [hway, hnames, follow_append h, follow_singleton]

/-! ### Changes that succeed -/

theorem andThen_eq_ok {o : Outcome} {next : FileTree → Outcome} :
    andThen o next = (t', .ok ()) ↔ ∃ t, o = (t, .ok ()) ∧ next t = (t', .ok ()) := by
  obtain ⟨t, r⟩ := o
  cases r <;> simp [andThen]

/-- After a folder was made at an address, the address leads to a folder. -/
theorem follow_of_makeLast (hhere : ".." ∉ t.here) {a : Address} (hfault : a.fault? = none)
    (hnames : a.names = ns ++ [n]) (h : t.makeLast a = (t', .ok ())) :
    t'.follow (t.base a).reverse a.names = .folder := by
  rw [makeLast] at h
  split at h
  · next hfolder =>
    obtain rfl := congrArg Prod.fst h
    exact follow_of_find_folder hfolder
  · cases h
  · cases h
  · next hmissing =>
    split at h
    · next hparent =>
      have haround : t.follow (t.base a).reverse ns = .folder := by
        have hfollow := follow_of_find_folder hparent
        rwa [Address.parent, hnames, List.dropLast_concat] at hfollow
      have hnone : t.lookup? (t.way a) = none := by
        rw [find_eq_follow hfault, follow_names hhere hnames haround] at hmissing
        cases hentry : t.lookup? (t.way a) with
        | none => rfl
        | some e => cases e <;> simp [hentry] at hmissing
      have hroot : t.way a ≠ [] := by
        intro hnil
        rw [hnil] at hnone
        cases hnone
      -- Nothing stands at the end of the way, so the folder is set there and the ways to it stay.
      have hset : t' = t.set (t.way a) .folder := by
        have ht := congrArg Prod.fst h
        rw [addFolder, hnone] at ht
        exact ht.symm
      have hway : t'.way a = t.way a := by rw [hset]; rfl
      have hstill : t'.follow (t'.base a).reverse ns = .folder := by
        rw [hset]
        exact follow_of_folders (fun v => lookup?_set_folder hroot) haround
      have hfound := follow_names (by rwa [hset]) hnames hstill
      rw [hway, hset, lookup?_set t hroot, if_pos rfl] at hfound
      rw [hset]
      exact hfound
    · cases h

theorem follow_of_makeFolder (hhere : ".." ∉ t.here) {a : Address}
    (h : t.makeFolder a = (t', .ok ())) :
    t'.follow (t.base a).reverse a.names = .folder ∧ t'.here = t.here := by
  rw [makeFolder] at h
  split at h
  · cases h
  · next hfault =>
    have hkept := (addsFolders_makeAll t a.rooted a.names.reverse).here
    rw [h] at hkept
    refine ⟨?_, hkept⟩
    cases hreverse : a.names.reverse with
    | nil =>
        rw [List.reverse_eq_nil_iff] at hreverse
        rw [hreverse]
        rfl
    | cons n around =>
        have hnames : a.names = around.reverse ++ [n] := by
          rw [← List.reverse_reverse a.names, hreverse, List.reverse_cons]
        have haddress : (⟨a.rooted, (n :: around).reverse⟩ : Address) = a := by
          rw [← hreverse, List.reverse_reverse]
        rw [hreverse, makeAll, haddress] at h
        split at h
        · next t₁ text heq =>
          obtain ⟨t₂, ht₂, hlast⟩ := andThen_eq_ok.1 h
          have hhere₂ : t₂.here = t.here := by
            have h₁ := (addsFolders_makeLast t a).here
            have h₂ := (addsFolders_makeAll t₁ a.rooted around).here
            rw [heq] at h₁
            rw [ht₂] at h₂
            exact h₂.trans h₁
          have hfollow := follow_of_makeLast (by rwa [hhere₂]) hfault hnames hlast
          rwa [base, hhere₂] at hfollow
        · exact follow_of_makeLast hhere hfault hnames h

/-- Writing a file makes the folders on the way to it, and then sets the file where no folder
stands. -/
theorem exists_of_write (hhere : ".." ∉ t.here) {a : Address} {bytes : List UInt8}
    (h : t.write a bytes = (t', .ok ())) :
    ∃ t₁ ns n, t.makeFolder a.parent = (t₁, .ok ()) ∧ t₁.here = t.here ∧ a.fault? = none ∧
      a.names = ns ++ [n] ∧ t₁.follow (t₁.base a).reverse ns = .folder ∧
      t₁.lookup? (t₁.way a) ≠ some .folder ∧ t' = t₁.set (t₁.way a) (.file bytes) := by
  obtain ⟨t₁, hmade, hwritten⟩ := andThen_eq_ok.1 h
  obtain ⟨haround, hkept⟩ := follow_of_makeFolder hhere hmade
  have hhere₁ : ".." ∉ t₁.here := by rwa [hkept]
  have hbase : t₁.base a.parent = t.base a.parent := by rw [base, base, hkept]
  rw [← hbase] at haround
  split at hwritten
  · cases hwritten
  · cases hwritten
  · next hfault hfolder =>
    obtain ⟨ns, n, hnames⟩ : ∃ ns n, a.names = ns ++ [n] := by
      rcases List.eq_nil_or_concat a.names with hnil | ⟨ns, n, hnames⟩
      · exact absurd (by rw [find_eq_follow hfault, hnil]; rfl) hfolder
      · exact ⟨ns, n, by rw [hnames, List.concat_eq_append]⟩
    rw [Address.parent, hnames, List.dropLast_concat] at haround
    refine ⟨t₁, ns, n, hmade, hkept, hfault, hnames, haround, fun hfound => ?_,
      (congrArg Prod.fst hwritten).symm⟩
    apply hfolder
    rw [find_eq_follow hfault, follow_names hhere₁ hnames haround, hfound]

/-- A file that was written is found. -/
theorem find_of_write (hhere : ".." ∉ t.here) {a : Address} {bytes : List UInt8}
    (h : t.write a bytes = (t', .ok ())) : t'.find a = .file bytes := by
  obtain ⟨t₁, ns, n, -, hkept, hfault, hnames, haround, hentry, rfl⟩ := exists_of_write hhere h
  have hroot : t₁.way a ≠ [] := fun hnil => hentry (by rw [hnil]; rfl)
  -- No folder stands where the file is set, so the folders around it are found as before.
  have hstill := follow_of_folders (fun v => lookup?_set_file hentry bytes) haround
  have hfound := follow_names (t := t₁.set (t₁.way a) (.file bytes))
    (show ".." ∉ t₁.here by rwa [hkept]) hnames hstill
  have hlookup : (t₁.set (t₁.way a) (.file bytes)).lookup? (t₁.way a) = some (.file bytes) := by
    rw [lookup?_set t₁ hroot, if_pos rfl]
  have hway : (t₁.set (t₁.way a) (.file bytes)).way a = t₁.way a := rfl
  rw [find_eq_follow hfault, hfound, hway, hlookup]

/-- A sequence that was saved is loaded from the document that was made of it, if its text is read
as the document that it was written for. -/
theorem loadSequence_of_saveSequence (hhere : ".." ∉ t.here) {a : Address} {operations : List Probe}
    {s : Settings} {d : Datum} (hd : Document.ofSequence operations s = .ok d)
    (hread : ∀ bytes, Text.encode .utf8 (Yaml.write d) = .ok bytes → Yaml.read bytes = .ok d)
    (hsave : t.saveSequence a operations s = (t', .ok ())) :
    t'.loadSequence a = Document.toSequence a.text d := by
  rw [saveSequence, hd] at hsave
  simp only [saveYaml, writeText] at hsave
  split at hsave
  · next bytes hbytes =>
    have hfind := find_of_write hhere hsave
    have hhas : t'.has a = true := by rw [has, hfind]
    have hload : t'.loadYaml a = .ok d := by
      rw [loadYaml, hfind]
      simp only [hread bytes hbytes]
    rw [loadSequence, hhas, hload]
    rfl
  · cases hsave

end FileTree

namespace Document

open Number
open Program (floatOf)

/-- Stored sequences come back unchanged.  The document of a sequence that can be stored, with feed
rates above zero, is built as the same operations and the same settings, and these have the same
program.  If the text of the document is read as the document, loading what was saved gives them
too. -/
theorem reopen_of_store {operations : List Probe} {settings : Settings}
    (hops : ∀ p ∈ operations, p.IsStorable) (hfeeds : ∀ p ∈ operations, zero < floatOf p.feedRate)
    (hsettings : settings.IsStorable) :
    ∃ d s program, ofSequence operations settings = .ok d ∧ (∀ source, toSequence source d = .ok s) ∧
      List.Forall₂ Probe.Same operations s.operations ∧ settings.Same s ∧
      Program.write operations settings = .ok program ∧ Program.write s.operations s = .ok program ∧
      ((∀ bytes, Text.encode .utf8 (Yaml.write d) = .ok bytes → Yaml.read bytes = .ok d) →
        ∀ (t t' : FileTree) (a : Address), ".." ∉ t.here →
          t.saveSequence a operations settings = (t', .ok ()) → t'.loadSequence a = .ok s) := by
  obtain ⟨d, hd, hback⟩ := toSequence_ofSequence hops hsettings
  have hopened : ∀ source, toSequence source d = .ok (reopened operations settings) := fun source =>
    (hback source _).2 ⟨hfeeds, rfl⟩
  obtain ⟨program, hprogram⟩ := Program.exists_write_of_isStorable hops hsettings
  refine ⟨d, reopened operations settings, program, hd, hopened, forall₂_same_reopened hops settings,
    same_reopened operations hsettings, hprogram, ?_, fun hread t t' a hhere hsave => ?_⟩
  · rw [Program.write_reopened hops hsettings, hprogram]
  · rw [FileTree.loadSequence_of_saveSequence hhere hd hread hsave]
    exact hopened a.text

/-- A probe along Y with a move before it and a pause after it. -/
def alongY : Probe where
  axis := .y
  direction := .int (-1)
  distance := .int 25
  feedRate := decimal false 75 (-1)
  backoff := .int 2
  offset := decimal true 1 (-1)
  preMoves := [.rapid {
    axes := .values (.ofList [(.z, .int 5), (.x, decimal true 5 (-1))])
    mode := .absolute
    system := .wcs
    description := .text "Over (the stock)"
    id := .given (.text "step-1") }]
  postMoves := [.dwell { time := .int 2, description := .text "", id := .given (.text "step-2") }]
  id := .given (.text "probe-1")

theorem isStorable_alongY : alongY.IsStorable where
  id := .inr ⟨_, by decide, rfl⟩
  direction := .inr rfl
  distance := Datum.isExact_int (n := 25) (by decide +kernel)
  distance_nonneg := show zero ≤ floatOf (.int 25) by decide +kernel
  feedRate := Datum.isExact_float _
  backoff := Datum.isExact_int (n := 2) (by decide +kernel)
  backoff_nonneg := show zero ≤ floatOf (.int 2) by decide +kernel
  offset := Datum.isExact_float _
  preMoves := by
    intro m hm
    obtain rfl := List.mem_singleton.1 hm
    refine ⟨.inr ⟨_, by decide, rfl⟩, ⟨_, rfl⟩, _, rfl, ?_⟩
    intro e he
    rcases List.mem_cons.1 he with rfl | he
    · exact Datum.isExact_int (n := 5) (by decide +kernel)
    · obtain rfl := List.mem_singleton.1 he
      exact Datum.isExact_float _
  postMoves := by
    intro m hm
    obtain rfl := List.mem_singleton.1 hm
    exact ⟨.inr ⟨_, by decide, rfl⟩, ⟨_, rfl⟩,
      Datum.isExact_int (n := 2) (by decide +kernel),
      show zero ≤ floatOf (.int 2) by decide +kernel⟩

/-- A sequence of one probe that is stored with the settings of a new sequence. -/
theorem reopen_of_store_alongY :
    ∃ d s program, ofSequence [alongY] Settings.default = .ok d ∧
      (∀ source, toSequence source d = .ok s) ∧ List.Forall₂ Probe.Same [alongY] s.operations ∧
      Settings.default.Same s ∧ Program.write [alongY] Settings.default = .ok program ∧
      Program.write s.operations s = .ok program ∧
      ((∀ bytes, Text.encode .utf8 (Yaml.write d) = .ok bytes → Yaml.read bytes = .ok d) →
        ∀ (t t' : FileTree) (a : Address), ".." ∉ t.here →
          t.saveSequence a [alongY] Settings.default = (t', .ok ()) → t'.loadSequence a = .ok s) := by
  have hfeed : zero < floatOf alongY.feedRate := by decide +kernel
  exact reopen_of_store (by simpa using isStorable_alongY) (by simpa using hfeed)
    Settings.isStorable_default

end Document

end TouchProbe
