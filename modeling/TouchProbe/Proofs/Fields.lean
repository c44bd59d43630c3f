import TouchProbe.Document.Store
import TouchProbe.Proofs.Checks

/-!
What the checks of document values accept.  A joined check accepts what all its parts accept.  What
is written for a value is read as this value, or refused where the check does not let the value
pass; this goes from single values to lists and to the fields of records.
-/

namespace TouchProbe.Document

open Number

/-! ### Checks that pass -/

namespace Validated

variable {α β : Type}

theorem map_eq_valid {f : α → β} {a : Validated α} {b : β} :
    f <$> a = valid b ↔ ∃ x, a = valid x ∧ f x = b := by
  change join (valid f) a = valid b ↔ _
  cases a <;> simp [join]

theorem seq_eq_valid {f : Validated (α → β)} {a : Validated α} {b : β} :
    f <*> a = valid b ↔ ∃ g, f = valid g ∧ ∃ x, a = valid x ∧ g x = b := by
  change join f a = valid b ↔ _
  cases f <;> cases a <;> simp [join]

@[simp] theorem validatedMap_valid (f : α → β) (a : α) : (valid a).map f = valid (f a) := rfl

theorem validatedMap_eq_valid {f : α → β} {a : Validated α} {b : β} :
    a.map f = valid b ↔ ∃ x, a = valid x ∧ f x = b := by
  cases a <;> simp [Validated.map]

theorem within_eq_valid {p : Place} {a : Validated α} {x : α} :
    a.within p = valid x ↔ a = valid x := by
  cases a <;> simp [within]

theorem andThen_eq_valid {a : Validated α} {f : α → Validated β} {b : β} :
    a.andThen f = valid b ↔ ∃ x, a = valid x ∧ f x = valid b := by
  cases a <;> simp [andThen]

theorem ensure_eq_valid {a : Validated α} {test : α → Bool} {b : Breach} {x : α} :
    a.ensure test b = valid x ↔ a = valid x ∧ test x = true := by
  rw [ensure, andThen_eq_valid]
  constructor
  · rintro ⟨y, rfl, hy⟩
    split at hy
    · next htest =>
      obtain rfl := Validated.valid.inj hy
      exact ⟨rfl, htest⟩
    · cases hy
  · rintro ⟨rfl, htest⟩
    exact ⟨x, rfl, by rw [htest, if_pos rfl]⟩

theorem mem_of_each {check : α → Validated β} {index : Nat} {as : List α} {bs : List β}
    (h : each check index as = valid bs) : ∀ b ∈ bs, ∃ a ∈ as, check a = valid b := by
  induction as generalizing index bs with
  | nil =>
      obtain rfl := Validated.valid.inj h
      simp
  | cons a as ih =>
      obtain ⟨g, hg, rest, hrest, rfl⟩ := seq_eq_valid.1 h
      obtain ⟨b, hb, rfl⟩ := map_eq_valid.1 hg
      intro c hc
      rcases List.mem_cons.1 hc with rfl | hc
      · exact ⟨a, List.mem_cons_self, within_eq_valid.1 hb⟩
      · obtain ⟨d, hd, hcheck⟩ := ih hrest c hc
        exact ⟨d, List.mem_cons_of_mem a hd, hcheck⟩

end Validated

open Validated

/-! ### Lists -/

section List

variable {α : Type} {check : Datum → Validated α} {written : α → Datum} {passes : α → Prop}
  (h : ∀ a b, check (written a) = valid b ↔ a = b ∧ passes a)

include h

theorem each_written (index : Nat) (as bs : List α) :
    each check index (as.map written) = valid bs ↔ as = bs ∧ ∀ a ∈ as, passes a := by
  induction as generalizing index bs with
  | nil => simp [each, eq_comm]
  | cons a as ih =>
      -- The checks are joined: the list passes just when its head and its tail do.
      rw [List.map_cons, each, seq_eq_valid]
      simp only [map_eq_valid, within_eq_valid, h a, ih]
      constructor
      · rintro ⟨g, ⟨b, ⟨rfl, ha⟩, rfl⟩, rest, ⟨rfl, has⟩, rfl⟩
        exact ⟨rfl, List.forall_mem_cons.2 ⟨ha, has⟩⟩
      · rintro ⟨rfl, hall⟩
        obtain ⟨ha, has⟩ := List.forall_mem_cons.1 hall
        exact ⟨_, ⟨a, ⟨rfl, ha⟩, rfl⟩, as, ⟨rfl, has⟩, rfl⟩

/-- If what is written for a value is read as this value just when the value passes, the same goes
for lists of values. -/
theorem list_written (as bs : List α) :
    list check (.list (as.map written)) = valid bs ↔ as = bs ∧ ∀ a ∈ as, passes a :=
  each_written h 0 as bs

end List

theorem mem_of_list {α : Type} {check : Datum → Validated α} {d : Datum} {as : List α}
    (h : list check d = valid as) : ∀ a ∈ as, ∃ e, check e = valid a := by
  intro a ha
  rw [list] at h
  split at h
  · obtain ⟨e, -, he⟩ := mem_of_each h a ha
    exact ⟨e, he⟩
  · obtain ⟨e, -, he⟩ := mem_of_each h a ha
    exact ⟨e, he⟩
  · obtain ⟨e, -, he⟩ := mem_of_each h a ha
    exact ⟨e, he⟩
  · cases h

/-! ### Fields -/

theorem same_text (s t : String) : Datum.same (.text s) (.text t) = (s == t) := by
  rw [Datum.same]
  rfl

theorem same_int (n k : Int) : Datum.same (.int n) (.int k) = (n == k) := by
  rw [Datum.same]
  rfl

def entriesOf (fields : List (String × Datum)) : Record.Entries :=
  fields.map fun f => (.text f.1, f.2)

@[simp] theorem get?_entriesOf_cons (key : String) (d : Datum) (fields : List (String × Datum))
    (name : String) : Record.get? (entriesOf ((key, d) :: fields)) name =
      if key == name then some d else Record.get? (entriesOf fields) name := by
  rw [Record.get?, Datum.lookup?, entriesOf, List.map_cons, List.find?_cons, same_text]
  split
  · next h => rw [h, if_pos rfl, Option.map_some]
  · next h =>
    rw [h, if_neg Bool.false_ne_true]
    rfl

@[simp] theorem bare_record (fields : List (String × Datum)) :
    (Datum.record fields).bare = .mapping (entriesOf fields) := rfl

section Field

variable {α : Type} {check : Datum → Validated α} {name : String} {entries : Record.Entries}

theorem exists_of_required {a : α} (h : required name check entries = valid a) :
    ∃ d, check d = valid a := by
  rw [required] at h
  split at h
  · exact ⟨_, within_eq_valid.1 h⟩
  · cases h

theorem exists_of_optional {usual a : α} (h : optional name usual check entries = valid a) :
    a = usual ∨ ∃ d, check d = valid a := by
  rw [optional] at h
  split at h
  · exact .inr ⟨_, within_eq_valid.1 h⟩
  · exact .inl (Validated.valid.inj h).symm

theorem exists_of_record {check : Record.Entries → Validated α} {d : Datum} {a : α}
    (h : record name check d = valid a) : ∃ entries, check entries = valid a := by
  rw [record] at h
  split at h
  · exact ⟨_, h⟩
  · cases h

end Field

/-! ### Single values -/

@[simp] theorem text_text (s : String) : text (.text s) = valid s := rfl

@[simp] theorem optionalText_idDatum (id : Option String) : optionalText (idDatum id) = valid id := by
  cases id <;> rfl

@[simp] theorem float_float (x : Float) : float (.float x) = valid x := rfl

theorem nonNegative_eq_valid {d : Datum} {x : Float} :
    nonNegative d = valid x ↔ float d = valid x ∧ zero ≤ x := by
  rw [nonNegative, ensure_eq_valid, decide_eq_true_eq]

theorem positive_eq_valid {d : Datum} {x : Float} :
    positive d = valid x ↔ float d = valid x ∧ zero < x := by
  rw [positive, ensure_eq_valid, decide_eq_true_eq]

@[simp] theorem int_int (n : Int) : int (.int n) = valid n := rfl

theorem count_eq_valid {d : Datum} {n : Int} : count d = valid n ↔ int d = valid n ∧ 0 ≤ n := by
  rw [count, ensure_eq_valid, decide_eq_true_eq]

theorem direction_eq_valid {d : Datum} {n : Int} (h : direction d = valid n) : n = 1 ∨ n = -1 := by
  rw [direction.eq_def] at h
  split at h
  · exact .inl (Validated.valid.inj h).symm
  · split at h
    · exact .inr (Validated.valid.inj h).symm
    · cases d with
      | scalar s => cases s <;> cases h
      | _ => cases h

theorem direction_int {n k : Int} : direction (.int n) = valid k ↔ n = k ∧ (n = 1 ∨ n = -1) := by
  constructor
  · intro h
    simp only [direction, same_int, beq_iff_eq] at h
    split at h
    · next hn =>
      obtain rfl := Validated.valid.inj h
      exact ⟨hn, .inl hn⟩
    · split at h
      · next hn =>
        obtain rfl := Validated.valid.inj h
        exact ⟨hn, .inr hn⟩
      · cases h
  · rintro ⟨rfl, rfl | rfl⟩
    · simp [direction, same_int]
    · simp [direction, same_int]

theorem oneOf_name {α : Type} {all : List α} {name : α → String} {a : α}
    (hfind : all.find? (name · == name a) = some a) (hhalf : Text.hasHalf (name a).toList = false) :
    oneOf all name (.text (name a)) = valid a := by
  simp only [oneOf, wholeText, hhalf, Bool.false_eq_true, if_false, andThen, hfind]

@[simp] theorem oneOf_mode (mode : PositionMode) :
    oneOf PositionMode.all PositionMode.name (.text mode.name) = valid mode :=
  oneOf_name mode.find?_name (by cases mode <;> decide +kernel)

@[simp] theorem oneOf_system (system : CoordinateSystem) :
    oneOf CoordinateSystem.all CoordinateSystem.name (.text system.name) = valid system :=
  oneOf_name system.find?_name (by cases system <;> decide +kernel)

@[simp] theorem oneOf_units (units : Units) :
    oneOf Units.all Units.name (.text units.name) = valid units :=
  oneOf_name units.find?_name (by cases units <;> decide +kernel)

@[simp] theorem oneOf_toolUnit (unit : ToolUnit) :
    oneOf ToolUnit.all ToolUnit.name (.text unit.name) = valid unit :=
  oneOf_name unit.find?_name (by cases unit <;> decide +kernel)

/-! ### Axes -/

theorem upper_name (a : Axis) : String.ofList (Text.upper a.name.toList) = a.name := by
  cases a <;> decide +kernel

@[simp] theorem axis_name (a : Axis) : axis (.text a.name) = valid a := by
  have hfind : Axis.all.find? (Axis.name · == a.name) = some a := Axis.ofName?_name a
  simp only [axis, upper_name]
  exact oneOf_name hfind (by cases a <;> decide +kernel)

theorem keyAxis_name (a : Axis) : keyAxis a.name = valid a := by
  rw [keyAxis, upper_name, Axis.ofName?_name]

theorem floatEntries_written (es : List (Axis × Float)) :
    floatEntries (es.map fun e => (.text e.1.name, .float e.2)) =
      valid (es.map fun e => (e.1.name, e.2)) := by
  induction es with
  | nil => rfl
  | cons e es ih =>
      rw [List.map_cons, floatEntries, ih]
      rfl

theorem axisEntries_written (es : List (Axis × Float)) :
    axisEntries (es.map fun e => (e.1.name, e.2)) = valid es := by
  induction es with
  | nil => rfl
  | cons e es ih =>
      rw [List.map_cons, axisEntries, keyAxis_name, ih]
      rfl

@[simp] theorem axes_written (vs : ByAxis Float) :
    axes (.mapping (vs.entries.map fun e => (.text e.1.name, .float e.2))) = valid vs := by
  simp only [axes, Datum.bare, floatEntries_written, andThen, axisEntries_written, Validated.map,
    ByAxis.ofList_entries]

end TouchProbe.Document
