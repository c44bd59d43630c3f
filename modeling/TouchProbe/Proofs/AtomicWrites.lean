import TouchProbe.Proofs.SavedFiles

/-!
Writes are all or nothing.  The bytes of a file go to a temporary file beside it, which is then
renamed.  What a system may refuse is a parameter here: to make the temporary file, to write more
than some of its bytes, or to rename it.  Whatever is refused, the temporary file is taken away
again and at most folders around the file have come into being.  If nothing is refused, the outcome
is that of a write to the tree, in which no temporary file shows.
-/

namespace TouchProbe

/-- The address of a temporary file beside a file, with what tells it from others. -/
def Address.temporary (a : Address) (free : String) : Address :=
  { a with names := a.names.dropLast ++ ["." ++ a.names.getLast?.getD "" ++ "." ++ free ++ ".tmp"] }

namespace FileTree

structure Disk where
  /-- What tells the temporary file from others, or why there is none. -/
  temporary : Except Fault String
  /-- The number of bytes that it writes, where it does not write all of them. -/
  full? : Option Nat
  /-- Whether it renames a file that no folder is in the way of. -/
  renames : Bool

/-! ### The steps of a write -/

def remove (t : FileTree) (way : List String) : FileTree :=
  { t with entries := t.entries.filter (·.1 != way) }

/-- Makes an empty file at the end of a way where nothing stands. -/
def create (t : FileTree) (way : List String) : Outcome :=
  if (t.lookup? way).isSome then t.unchanged (.alreadyExists (Address.text ⟨true, way⟩))
  else (t.set way (.file []), .ok ())

/-- Writes bytes to the file at the end of a way, for a file at an address. -/
def fill (t : FileTree) (disk : Disk) (way : List String) (a : Address) (bytes : List UInt8) : Outcome :=
  match disk.full? with
  | none => (t.set way (.file bytes), .ok ())
  | some n => (t.set way (.file (bytes.take n)), .error (.notWritten a.text))

/-- Puts the file at the end of a way in the place of an address, where no folder stands.  This is
done at once or not at all. -/
def rename (t : FileTree) (disk : Disk) (way : List String) (a : Address) : Outcome :=
  match t.lookup? way with
  | some (.file bytes) =>
    if disk.renames ∧ t.find a ≠ .folder then ((t.remove way).set (t.way a) (.file bytes), .ok ())
    else t.unchanged (.notWritten a.text)
  | _ => t.unchanged (.notWritten a.text)

/-- A change that takes away what stands at the end of a way if it fails. -/
def clearing (way : List String) (o : Outcome) : Outcome :=
  match o with
  | (t, .error f) => (t.remove way, .error f)
  | done => done

/-- Writes a file at an address by way of a temporary file, after making the folders around it that
are missing. -/
def replace (t : FileTree) (disk : Disk) (a : Address) (bytes : List UInt8) : Outcome :=
  andThen (t.makeFolder a.parent) fun t =>
    match a.fault?, disk.temporary with
    | some f, _ => t.unchanged f
    | none, .error f => t.unchanged f
    | none, .ok free =>
      let way := t.way (a.temporary free)
      andThen (t.create way) fun t =>
        clearing way (andThen (t.fill disk way a bytes) fun t => t.rename disk way a)

def replaceText (t : FileTree) (disk : Disk) (a : Address) (encoding : Text.Encoding) (s : String) :
    Outcome :=
  match Text.encode encoding s with
  | .ok bytes => t.replace disk a bytes
  | .error f => t.unchanged (.unencodable f)

variable {t t' : FileTree} {w : List String}

theorem filter_ne_of_lookup_none {es : List (List String × Entry)} (h : es.lookup w = none) :
    es.filter (·.1 != w) = es := by
  rw [List.filter_eq_self]
  intro e he
  have hne : (w != e.1) = true := List.lookup_eq_none_iff.1 h e he
  exact bne_iff_ne.2 (bne_iff_ne.1 hne).symm

theorem lookup_entries_of_none (h : t.lookup? w = none) : t.entries.lookup w = none := by
  rw [lookup?] at h
  split at h
  · cases h
  · exact h

/-- What is set where nothing stood is taken away without a trace. -/
theorem remove_set_of_none (h : t.lookup? w = none) (e : Entry) : (t.set w e).remove w = t := by
  have hentries := filter_ne_of_lookup_none (lookup_entries_of_none h)
  simp [remove, set, hentries]

theorem set_set (t : FileTree) (w : List String) (e e' : Entry) : (t.set w e).set w e' = t.set w e' := by
  simp [set]

/-- A file that is set where nothing stood is on the way to no folder. -/
theorem find_set_folder_iff (h : t.lookup? w = none) (bytes : List UInt8) (a : Address) :
    (t.set w (.file bytes)).find a = .folder ↔ t.find a = .folder := by
  have hroot : w ≠ [] := by
    rintro rfl
    cases h
  have hbase : (t.set w (.file bytes)).base a = t.base a := rfl
  rw [find, find, hbase]
  split
  · simp
  · constructor
    · refine follow_of_folders fun v hv => ?_
      rw [lookup?_set t hroot] at hv
      split at hv
      · cases hv
      · exact hv
    · exact follow_of_folders fun v => lookup?_set_file (by simp [h]) bytes

/-- From a temporary file that could be made, a file comes to its place if the system writes all
bytes and renames the file and no folder stands there; otherwise the tree is as it was. -/
theorem clearing_fill_rename (disk : Disk) (h : t.lookup? w = none) (a : Address)
    (bytes : List UInt8) :
    clearing w (andThen ((t.set w (.file [])).fill disk w a bytes) fun t => t.rename disk w a) =
      if disk.full? = none ∧ disk.renames ∧ t.find a ≠ .folder then
        (t.set (t.way a) (.file bytes), .ok ())
      else t.unchanged (.notWritten a.text) := by
  have hroot : w ≠ [] := by
    rintro rfl
    cases h
  cases hfull : disk.full? with
  | some n =>
      simp only [fill, hfull, andThen_error, clearing, set_set, remove_set_of_none h]
      simp [unchanged]
  | none =>
      have hlookup : (t.set w (.file bytes)).lookup? w = some (.file bytes) := by
        rw [lookup?_set t hroot, if_pos rfl]
      have hway : (t.set w (.file bytes)).way a = t.way a := rfl
      simp only [fill, hfull, andThen_ok, set_set, rename, hlookup, ne_eq, find_set_folder_iff h,
        remove_set_of_none h, hway, true_and]
      split
      · rfl
      · simp [clearing, unchanged, remove_set_of_none h]

/-- What a system grants a write in a tree: a temporary file, all of its bytes, and the renaming. -/
structure Disk.Grants (t : FileTree) (disk : Disk) (a : Address) : Prop where
  temporary : ∃ free, disk.temporary = .ok free ∧ t.lookup? (t.way (a.temporary free)) = none
  full : disk.full? = none
  renames : disk.renames = true

section Made

variable {t₁ : FileTree} {a : Address} {bytes : List UInt8}

theorem write_of_made (hmade : t.makeFolder a.parent = (t₁, .ok ())) (hfault : a.fault? = none) :
    t.write a bytes =
      if t₁.find a ≠ .folder then (t₁.set (t₁.way a) (.file bytes), .ok ())
      else t₁.unchanged (.notWritten a.text) := by
  rw [write, hmade, andThen_ok, hfault]
  cases t₁.find a <;> rfl

theorem replace_of_made {disk : Disk} {free : String} (hmade : t.makeFolder a.parent = (t₁, .ok ()))
    (hfault : a.fault? = none) (htemporary : disk.temporary = .ok free)
    (hfree : t₁.lookup? (t₁.way (a.temporary free)) = none) :
    t.replace disk a bytes =
      if disk.full? = none ∧ disk.renames ∧ t₁.find a ≠ .folder then
        (t₁.set (t₁.way a) (.file bytes), .ok ())
      else t₁.unchanged (.notWritten a.text) := by
  rw [replace, hmade, andThen_ok, hfault, htemporary]
  simp only [create, hfree, Option.isSome_none, Bool.false_eq_true, if_false, andThen_ok]
  exact clearing_fill_rename disk hfree a bytes

/-- Where everything is granted, no temporary file shows. -/
theorem replace_of_grants {disk : Disk} (h : disk.Grants (t.makeFolder a.parent).1 a) :
    t.replace disk a bytes = t.write a bytes := by
  obtain ⟨free, htemporary, hfree⟩ := h.temporary
  cases hmade : t.makeFolder a.parent with
  | mk t₁ r =>
      rw [hmade] at hfree
      cases r with
      | error f => rw [replace, write, hmade, andThen_error, andThen_error]
      | ok =>
          cases hfault : a.fault? with
          | some f =>
              rw [replace, write, hmade, andThen_ok, andThen_ok, hfault]
          | none =>
              rw [replace_of_made hmade hfault htemporary hfree, write_of_made hmade hfault]
              simp [h.full, h.renames]

/-- A write by way of a temporary file is a write, or it does nothing but make folders. -/
theorem replace_cases (t : FileTree) (disk : Disk) (a : Address) (bytes : List UInt8) :
    t.replace disk a bytes = t.write a bytes ∨
      ∃ f, t.replace disk a bytes = ((t.makeFolder a.parent).1, .error f) := by
  cases hmade : t.makeFolder a.parent with
  | mk t₁ r =>
      cases r with
      | error f =>
          refine .inr ⟨f, ?_⟩
          rw [replace, hmade, andThen_error]
      | ok =>
          cases hfault : a.fault? with
          | some f =>
              refine .inr ⟨f, ?_⟩
              rw [replace, hmade, andThen_ok, hfault]
              rfl
          | none =>
              cases htemporary : disk.temporary with
              | error f =>
                  refine .inr ⟨f, ?_⟩
                  rw [replace, hmade, andThen_ok, hfault, htemporary]
                  rfl
              | ok free =>
                  cases hfree : t₁.lookup? (t₁.way (a.temporary free)) with
                  | some e =>
                      refine .inr ⟨.alreadyExists (Address.text ⟨true, t₁.way (a.temporary free)⟩), ?_⟩
                      rw [replace, hmade, andThen_ok, hfault, htemporary]
                      simp only [create, hfree, Option.isSome_some, if_true]
                      rfl
                  | none =>
                      rw [replace_of_made hmade hfault htemporary hfree, write_of_made hmade hfault]
                      by_cases hgranted : disk.full? = none ∧ disk.renames
                      · simp [hgranted]
                      · refine .inr ⟨.notWritten a.text, if_neg ?_⟩
                        exact fun h => hgranted ⟨h.1, h.2.1⟩

end Made

/-! ### All or nothing -/

/-- Whether the file at an address holds some bytes, and everything else in a tree is as it was in
another one, but for folders around the file. -/
structure IsWritten (t : FileTree) (a : Address) (bytes : List UInt8) (t' : FileTree) : Prop where
  here : t'.here = t.here
  found : t'.find a = .file bytes
  entry : t'.lookup? (t.way a) = some (.file bytes)
  others : ∀ way, way ≠ t.way a → t'.lookup? way = t.lookup? way ∨
    t.lookup? way = none ∧ t'.lookup? way = some .folder ∧ t.IsOnWay a.parent way

/-- Whether a text is written to a file as a whole, or nothing happens but that folders around the
file come into being. -/
structure AllOrNothing (t : FileTree) (a : Address) (encoding : Text.Encoding) (s : String)
    (o : Outcome) : Prop where
  all : o.2 = .ok () → ∃ bytes, Text.encode encoding s = .ok bytes ∧ t.IsWritten a bytes o.1
  nothing : ∀ f, o.2 = .error f → AddsFolders (t.IsOnWay a.parent) t o.1

theorem isWritten_of_write (hhere : ".." ∉ t.here) {a : Address} {bytes : List UInt8}
    (h : t.write a bytes = (t', .ok ())) : t.IsWritten a bytes t' := by
  have hfound := find_of_write hhere h
  obtain ⟨t₁, ns, n, hmade, hkept, -, -, -, hentry, rfl⟩ := exists_of_write hhere h
  have hfolders := addsFolders_makeFolder t a.parent
  rw [hmade] at hfolders
  have hroot : t₁.way a ≠ [] := fun hnil => hentry (by rw [hnil]; rfl)
  have hway : t₁.way a = t.way a := way_congr hkept a
  refine ⟨hkept, hfound, ?_, fun way hother => ?_⟩
  · rw [lookup?_set t₁ hroot, hway, if_pos rfl]
  · rw [lookup?_set t₁ hroot, hway, if_neg hother]
    exact hfolders.entries way

theorem allOrNothing_write (hhere : ".." ∉ t.here) {encoding : Text.Encoding} {s : String}
    {bytes : List UInt8} (hbytes : Text.encode encoding s = .ok bytes) (a : Address) :
    AllOrNothing t a encoding s (t.write a bytes) where
  all h := ⟨bytes, hbytes, isWritten_of_write hhere (Prod.ext rfl h)⟩
  nothing f hf := by
    rw [fst_write_of_error hf]
    exact addsFolders_makeFolder t a.parent

theorem allOrNothing_of_error {a : Address} (h : AddsFolders (t.IsOnWay a.parent) t t') (f : Fault)
    (encoding : Text.Encoding) (s : String) : AllOrNothing t a encoding s (t', .error f) where
  all hok := by cases hok
  nothing _ _ := h

theorem allOrNothing_replace (hhere : ".." ∉ t.here) {encoding : Text.Encoding} {s : String}
    {bytes : List UInt8} (hbytes : Text.encode encoding s = .ok bytes) (disk : Disk) (a : Address) :
    AllOrNothing t a encoding s (t.replace disk a bytes) := by
  rcases replace_cases t disk a bytes with hsame | ⟨f, hf⟩
  · rw [hsame]
    exact allOrNothing_write hhere hbytes a
  · rw [hf]
    exact allOrNothing_of_error (addsFolders_makeFolder t a.parent) f encoding s

/-- A text that is written to a file is there as a whole, with everything else as it was, or the
write fails and every file is as it was.  So it is whatever the system refuses on the way, and if
nothing is refused the outcome is the same as that of a write to the tree. -/
theorem allOrNothing_writeText (hhere : ".." ∉ t.here) (a : Address) (encoding : Text.Encoding)
    (s : String) :
    AllOrNothing t a encoding s (t.writeText a encoding s) ∧
      ∀ disk : Disk, AllOrNothing t a encoding s (t.replaceText disk a encoding s) ∧
        (disk.Grants (t.makeFolder a.parent).1 a →
          t.replaceText disk a encoding s = t.writeText a encoding s) := by
  rw [writeText]
  simp only [replaceText]
  cases hbytes : Text.encode encoding s with
  | error f =>
      have h : AllOrNothing t a encoding s (t.unchanged (.unencodable f)) :=
        allOrNothing_of_error (.refl _ t) _ encoding s
      exact ⟨h, fun disk => ⟨h, fun _ => rfl⟩⟩
  | ok bytes =>
      have h := allOrNothing_write hhere hbytes a
      exact ⟨h, fun disk => ⟨allOrNothing_replace hhere hbytes disk a, replace_of_grants⟩⟩

/-- A folder with a program in it. -/
def bench : FileTree := (emptyAt ["bench"]).set ["bench", "a.nc"] (.file [71, 48])

/-- A disk that grants all that a write of a program there needs. -/
def roomy : Disk := ⟨.ok "x1", none, true⟩

/-- A program that replaces another one stands there as a whole.  One that does not fit on the disk
leaves nothing, and one whose place is taken by a folder leaves the folder. -/
theorem allOrNothing_writeText_bench :
    ".." ∉ bench.here ∧
      bench.IsWritten ⟨false, ["a.nc"]⟩ [77, 51, 48]
        (bench.replaceText roomy ⟨false, ["a.nc"]⟩ .utf8 "M30").1 ∧
      AddsFolders (bench.IsOnWay ⟨false, ["out"]⟩) bench
        (bench.replaceText { roomy with full? := some 3 } ⟨false, ["out", "a.nc"]⟩ .utf8 "G0 X1").1 ∧
      AddsFolders (bench.IsOnWay ⟨true, []⟩) bench
        (bench.replaceText roomy ⟨true, ["bench"]⟩ .utf8 "M30").1 := by
  have hhere : ".." ∉ bench.here := by decide
  have hfails {o : Outcome} (h : o.2.isOk = false) : ∃ f, o.2 = .error f := by
    cases ho : o.2 with
    | ok u =>
        rw [ho] at h
        cases h
    | error f => exact ⟨f, rfl⟩
  obtain ⟨-, hdone⟩ := allOrNothing_writeText hhere ⟨false, ["a.nc"]⟩ .utf8 "M30"
  obtain ⟨-, hpartial⟩ := allOrNothing_writeText hhere ⟨false, ["out", "a.nc"]⟩ .utf8 "G0 X1"
  obtain ⟨-, htaken⟩ := allOrNothing_writeText hhere ⟨true, ["bench"]⟩ .utf8 "M30"
  refine ⟨hhere, ?_, ?_, ?_⟩
  · obtain ⟨u, hu⟩ := isOk_iff.1 (by decide +kernel :
      (bench.replaceText roomy ⟨false, ["a.nc"]⟩ .utf8 "M30").2.isOk = true)
    obtain ⟨bytes, hbytes, hwritten⟩ := (hdone roomy).1.all hu
    have hencoded : (Text.encode .utf8 "M30").toOption = some [77, 51, 48] := by decide +kernel
    rw [hbytes] at hencoded
    obtain rfl := Option.some.inj hencoded
    exact hwritten
  · obtain ⟨f, hf⟩ := hfails (by decide +kernel : (bench.replaceText { roomy with full? := some 3 }
      ⟨false, ["out", "a.nc"]⟩ .utf8 "G0 X1").2.isOk = false)
    exact (hpartial _).1.nothing f hf
  · obtain ⟨f, hf⟩ := hfails (by decide +kernel :
      (bench.replaceText roomy ⟨true, ["bench"]⟩ .utf8 "M30").2.isOk = false)
    exact (htaken _).1.nothing f hf

end FileTree

end TouchProbe
