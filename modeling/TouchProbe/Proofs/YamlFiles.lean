import TouchProbe.Proofs.Utf8
import TouchProbe.Yaml.Meaning
import TouchProbe.Yaml.Writer

/-!
Documents in files.  A document comes back if its text is read as it again, which can be tested:
values that are built alike are equal, and a text that has no line ends but newlines is read from
its UTF-8 as it stands.
-/

namespace TouchProbe

deriving instance DecidableEq for Scalar

namespace Datum

/-! ### Values that are built alike -/

mutual

/-- Whether two values are built alike: of the same parts in the same order. -/
def identical : Datum → Datum → Bool
  | .scalar a, .scalar b => a = b
  | .date a, .date b => a = b
  | .moment a, .moment b => a = b
  | .bytes a, .bytes b => a = b
  | .list xs, .list ys | .set xs, .set ys => identicalEach xs ys
  | .pair a b, .pair c d => a.identical c && b.identical d
  | .mapping es, .mapping fs => identicalEntries es fs
  | .loop m d, .loop n e => m = n && d.identical e
  | _, _ => false

def identicalEach : List Datum → List Datum → Bool
  | [], [] => true
  | x :: xs, y :: ys => x.identical y && identicalEach xs ys
  | _, _ => false

def identicalEntries : List (Datum × Datum) → List (Datum × Datum) → Bool
  | [], [] => true
  | (k, v) :: es, (l, w) :: fs => k.identical l && v.identical w && identicalEntries es fs
  | _, _ => false

end

mutual

/-- Values that are built alike are equal. -/
theorem eq_of_identical {a b : Datum} (h : a.identical b = true) : a = b := by
  cases a <;> cases b <;>
    simp only [identical, decide_eq_true_eq, Bool.and_eq_true, reduceCtorEq] at h
  · rw [h]
  · rw [h]
  · rw [h]
  · rw [h]
  · rw [eq_of_identicalEach h]
  · rw [eq_of_identical h.1, eq_of_identical h.2]
  · rw [eq_of_identicalEach h]
  · rw [eq_of_identicalEntries h]
  · rw [h.1, eq_of_identical h.2]

theorem eq_of_identicalEach {xs ys : List Datum} (h : identicalEach xs ys = true) : xs = ys := by
  cases xs <;> cases ys <;> simp only [identicalEach, Bool.and_eq_true, reduceCtorEq] at h
  · rfl
  · rw [eq_of_identical h.1, eq_of_identicalEach h.2]

theorem eq_of_identicalEntries {es fs : List (Datum × Datum)} (h : identicalEntries es fs = true) :
    es = fs := by
  cases es with
  | nil => cases fs <;> simp_all [identicalEntries]
  | cons e es =>
      cases fs with
      | nil => simp [identicalEntries] at h
      | cons f fs =>
          obtain ⟨k, v⟩ := e
          obtain ⟨l, w⟩ := f
          simp only [identicalEntries, Bool.and_eq_true] at h
          rw [eq_of_identical h.1.1, eq_of_identical h.1.2, eq_of_identicalEntries h.2]

end

end Datum

namespace Yaml

open Text

/-! ### Documents that come back -/

/-- Whether a document is read from the text that it is written as. -/
def ComesBack (d : Datum) : Prop :=
  ∃ bytes, encode .utf8 (write d) = .ok bytes ∧ read bytes = .ok d

/-- Whether a character is looked at as it was written. -/
def isSeen (c : Char) : Bool := staysInFile c && isAllowed c

/-- The UTF-8 of a text is looked at as the text. -/
theorem ofBytes_toUTF8 {s : String} (h : s.toList.all isSeen = true) :
    Supply.ofBytes s.toUTF8.toList = { chars := s.toList } := by
  have hseen : ∀ c ∈ s.toList, staysInFile c = true ∧ isAllowed c = true := fun c hc =>
    Bool.and_eq_true_iff.1 (List.all_eq_true.1 h c hc)
  have hpieces : decodePieces pieceSize s.toUTF8.toList = (s.toList, none) := by
    rw [decodePieces, toList_toUTF8, decodeFrom_flatMap]
  have hlines : universalNewlines s.toList = s.toList :=
    universalNewlines_of_stays fun c hc => (hseen c hc).1
  have hnone : s.toList.findIdx? (fun c => !isAllowed c) = none := by
    rw [List.findIdx?_eq_none_iff]
    exact fun c hc => by simp [(hseen c hc).2]
  rw [Supply.ofBytes, hpieces]
  simp only [hlines, hnone]

def holds (s : List Char) (d : Datum) : Bool :=
  match graphOf { chars := s } with
  | .ok (_, none) => d.identical .null
  | .ok (g, some root) =>
    match cellsOf g root with
    | .ok (cells, cell) => (datumOf cells cell).identical d
    | .error _ => false
  | .error _ => false

def collectionChars (d : Datum) : List Char := ((putNode none false {} d).indentTo 0).chars.reverse

/-- Whether a value is a collection whose text is looked at as it was written and read as the
value. -/
def isReread (d : Datum) : Bool :=
  !isPlainRoot d && (collectionChars d).all isSeen && holds (collectionChars d) d

theorem comesBack_of_isReread {d : Datum} (h : isReread d = true) : ComesBack d := by
  simp only [isReread, Bool.and_eq_true, Bool.not_eq_true'] at h
  obtain ⟨⟨hroot, hseen⟩, hholds⟩ := h
  have htext : (write d).toList = collectionChars d := by
    rw [write, hroot]
    exact String.toList_ofList
  have hstays : ∀ c ∈ (write d).toList, staysInFile c = true := fun c hc =>
    (Bool.and_eq_true_iff.1 (List.all_eq_true.1 hseen c (htext ▸ hc))).1
  refine ⟨_, encode_utf8 hstays, ?_⟩
  rw [read, ofBytes_toUTF8 (htext ▸ hseen), htext]
  rw [holds] at hholds
  cases hgraph : graphOf { chars := collectionChars d } with
  | error problem => simp [hgraph] at hholds
  | ok found =>
      obtain ⟨g, _ | root⟩ := found
      · rw [hgraph] at hholds
        rw [Datum.eq_of_identical hholds]
        rfl
      · rw [hgraph] at hholds
        dsimp only at hholds
        cases hcells : cellsOf g root with
        | error problem => simp [hcells] at hholds
        | ok cells =>
            rw [hcells] at hholds
            change (cellsOf g root >>= fun p => pure (datumOf p.1 p.2)) = _
            rw [hcells, ← Datum.eq_of_identical hholds]
            rfl

end Yaml

end TouchProbe
