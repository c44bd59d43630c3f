import TouchProbe.Datum

/-! # Axes and positions

The three axes of the machine, values by axis, and positions.  Values by axis keep the order in
which the axes were first named, and hold each axis at most once.
-/

namespace TouchProbe

inductive Axis where
  | x
  | y
  | z
  deriving DecidableEq, Repr

namespace Axis

def all : List Axis := [x, y, z]

def letter : Axis → Char
  | x => 'X'
  | y => 'Y'
  | z => 'Z'

def name : Axis → String
  | x => "X"
  | y => "Y"
  | z => "Z"

def ofLetter? : Char → Option Axis
  | 'X' => some x
  | 'Y' => some y
  | 'Z' => some z
  | _ => none

def ofName? (s : String) : Option Axis := all.find? (·.name == s)

def ofDatum (d : Datum) : Except Fault Axis :=
  let fault := Fault.notOneOf "axis" (all.map name) d.shown
  match d with
  | .text s => match ofName? s with
    | some a => .ok a
    | none => .error fault
  | _ => .error fault

@[simp] theorem ofLetter?_letter (a : Axis) : ofLetter? a.letter = some a := by
  cases a <;> rfl

@[simp] theorem ofName?_name (a : Axis) : ofName? a.name = some a := by
  cases a <;> decide +kernel

theorem mem_all (a : Axis) : a ∈ all := by cases a <;> decide

end Axis

/-- Values by axis, in the order in which the axes were first named. -/
structure ByAxis (α : Type) where
  entries : List (Axis × α)
  nodup : (entries.map (·.1)).Nodup

/-- The values by axis of a movement, as they were given. -/
abbrev AxisValues := ByAxis Datum

namespace ByAxis

variable {α β : Type}

def setEntry (a : Axis) (v : α) : List (Axis × α) → List (Axis × α)
  | [] => [(a, v)]
  | e :: rest => if e.1 = a then (a, v) :: rest else e :: setEntry a v rest

theorem map_fst_setEntry (a : Axis) (v : α) (es : List (Axis × α)) :
    (setEntry a v es).map (·.1) =
      if a ∈ es.map (·.1) then es.map (·.1) else es.map (·.1) ++ [a] := by
  induction es with
  | nil => simp [setEntry]
  | cons e rest ih =>
    by_cases h : e.1 = a
    · simp [setEntry, h]
    · have h' : ¬ a = e.1 := fun q => h q.symm
      simp only [setEntry, h, if_false, List.map_cons, ih, List.mem_cons, h', false_or]
      split <;> simp

theorem nodup_setEntry (a : Axis) (v : α) {es : List (Axis × α)}
    (h : (es.map (·.1)).Nodup) : ((setEntry a v es).map (·.1)).Nodup := by
  rw [map_fst_setEntry]
  split
  · exact h
  · rename_i hn
    rw [List.nodup_append]
    refine ⟨h, by simp, ?_⟩
    intro b hb c hc
    simp only [List.mem_singleton] at hc
    subst hc
    exact fun q => hn (q ▸ hb)

def empty : ByAxis α := ⟨[], by simp⟩

instance : Inhabited (ByAxis α) := ⟨empty⟩

/-- The values with the one of an axis set: a new axis comes last. -/
def set (vs : ByAxis α) (a : Axis) (v : α) : ByAxis α :=
  ⟨setEntry a v vs.entries, nodup_setEntry a v vs.nodup⟩

/-- The values of a list of entries; of an axis that occurs twice the last value counts. -/
def ofList (es : List (Axis × α)) : ByAxis α :=
  es.foldl (fun vs e => vs.set e.1 e.2) empty

def get? (vs : ByAxis α) (a : Axis) : Option α := vs.entries.lookup a

def isEmpty (vs : ByAxis α) : Bool := vs.entries.isEmpty

def map (f : α → β) (vs : ByAxis α) : ByAxis β :=
  ⟨vs.entries.map fun e => (e.1, f e.2), by rw [List.map_map]; exact vs.nodup⟩

/-- The values, joined by those of other axes that they do not have yet. -/
def fill (vs : ByAxis α) (es : List (Axis × α)) : ByAxis α :=
  es.foldl (fun vs e => if (vs.get? e.1).isSome then vs else vs.set e.1 e.2) vs

theorem lookup_setEntry (a b : Axis) (v : α) (es : List (Axis × α)) :
    (setEntry a v es).lookup b = if b = a then some v else es.lookup b := by
  induction es with
  | nil => by_cases h : b = a <;> simp [setEntry, List.lookup_cons, h, beq_false_of_ne]
  | cons e rest ih =>
    obtain ⟨c, w⟩ := e
    by_cases ha : c = a
    · by_cases h : b = a <;> simp [setEntry, List.lookup_cons, ha, h, beq_false_of_ne]
    · by_cases h : b = c
      · subst h
        simp [setEntry, ha]
      · simp [setEntry, List.lookup_cons, ha, h, beq_false_of_ne, ih]

/-- Setting the value of one axis does not touch the others. -/
theorem get?_set (vs : ByAxis α) (a b : Axis) (v : α) :
    (vs.set a v).get? b = if b = a then some v else vs.get? b :=
  lookup_setEntry a b v vs.entries

@[ext] theorem ext {vs ws : ByAxis α} (h : vs.entries = ws.entries) : vs = ws := by
  cases vs; cases ws; simp_all

end ByAxis

/-- A point of the machine, by its coordinates as they were given. -/
structure Position where
  x : Datum
  y : Datum
  z : Datum

namespace Position

def origin : Position := ⟨.float Number.zero, .float Number.zero, .float Number.zero⟩

instance : Inhabited Position := ⟨origin⟩

def get (p : Position) : Axis → Datum
  | .x => p.x
  | .y => p.y
  | .z => p.z

def set (p : Position) (a : Axis) (v : Datum) : Position :=
  match a with
  | .x => { p with x := v }
  | .y => { p with y := v }
  | .z => { p with z := v }

@[simp] theorem get_set_self (p : Position) (a : Axis) (v : Datum) : (p.set a v).get a = v := by
  cases a <;> rfl

theorem get_set_of_ne (p : Position) {a b : Axis} (v : Datum) (h : b ≠ a) :
    (p.set a v).get b = p.get b := by
  cases a <;> cases b <;> first | rfl | exact absurd rfl h

end Position

end TouchProbe
