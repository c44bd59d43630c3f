import TouchProbe.Proofs.Takings

/-!
The takings of a configuration.  The settings come first, the template for new probes after them, and
the names of units are tested when all other settings are there.  What a taking finds is told by the
keys that lead to it from the whole configuration, so a part that is missing makes the first taking
from it fail.
-/

namespace TouchProbe

open Number

namespace Defaults

def toolTakings : List Taking := [
  ⟨["settings", "endmill_size", "input"], some Tool.default.input, .shown⟩,
  ⟨["settings", "endmill_size", "unit"], some (.text Tool.default.unit.name), .shown⟩]

/-- The takings of the settings, in the order in which they are made.  The names of units are tested
when all other values are there. -/
def settingsTakings : List Taking := [
  ⟨["settings", "initial_position"], none, .any⟩,
  ⟨["settings", "endmill_size"], some (.mapping []), .mapping⟩] ++ toolTakings ++ [
  ⟨["settings", "initial_position", "x"], none, .float⟩,
  ⟨["settings", "initial_position", "y"], none, .float⟩,
  ⟨["settings", "initial_position", "z"], none, .float⟩,
  ⟨["settings", "dwells_before_probe"], none, .count⟩,
  ⟨["settings", "spindle_speed"], none, .float⟩,
  ⟨["settings", "units"], some (.text Units.mm.name), .shown⟩,
  ⟨["settings", "endmill_size", "unit"], some (.text Tool.default.unit.name),
    .named (ToolUnit.all.map ToolUnit.name)⟩,
  ⟨["settings", "units"], some (.text Units.mm.name), .named (Units.all.map Units.name)⟩]

def templateTakings : List Taking := [
  ⟨["probe_template", "axis"], none, .shown⟩,
  ⟨["probe_template", "direction"], none, .count⟩,
  ⟨["probe_template", "distance"], none, .float⟩,
  ⟨["probe_template", "feed_rate"], none, .float⟩,
  ⟨["probe_template", "backoff_distance"], none, .float⟩,
  ⟨["probe_template", "wcs_offset"], some (.float zero), .float⟩]

def takings : List Taking := settingsTakings ++ templateTakings

/-! ### Keys -/

section Keys

variable {α β : Type} {d : Datum} {ts : List Taking}

/-- Whether the members of a value are what the keys to it lead to with one key more. -/
def Leads (d : Datum) (keys : List String) (v : Datum) : Prop :=
  ∀ key more, (keys ++ key :: more).foldlM member? d = (member? v key).bind (more.foldlM member?)

theorem leads_nil (d : Datum) : Leads d [] d := fun _ _ => List.foldlM_cons

theorem leads_of_foldlM {keys : List String} {v : Datum} (h : keys.foldlM member? d = some v) :
    Leads d keys v := by
  intro key more
  simp only [List.foldlM_append, h, List.foldlM_cons, Option.bind_eq_bind, Option.bind_some]

/-- Whether a result is the value of a taking where there is one, and else a fault that does not
slip. -/
structure Gets (x : Except Fault Datum) (t : Taking) (d : Datum) : Prop where
  ok : ∀ v, x = .ok v ↔ t.value? d = some v
  slip : ¬ Slip x

theorem need_eq_ok {e v : Datum} {key : String} : need e key = .ok v ↔ member? e key = some v := by
  rw [need, member?]
  cases e.bare with
  | mapping entries =>
      dsimp only
      cases Record.get? entries key <;> simp
  | _ => simp

theorem not_slip_need (e : Datum) (key : String) : ¬ Slip (need e key) := by
  rw [need]
  split
  · split
    · exact not_slip_ok _
    · rw [slip_error]
      exact fun h => h.2 rfl
  · exact not_slip_of_isBadValue rfl

theorem gets_need {keys : List String} {e : Datum} (h : Leads d keys e) (key : String) (use : Use) :
    Gets (need e key) ⟨keys ++ [key], none, use⟩ d where
  ok v := by
    rw [need_eq_ok, Taking.value?, h key []]
    simp
  slip := not_slip_need e key

theorem getOr_eq {e : Datum} {entries : Record.Entries} (he : e.bare = .mapping entries) (key : String)
    (missing : Datum) : getOr e key missing = .ok ((member? e key).getD missing) := by
  rw [getOr, member?, he]

theorem gets_getOr {keys : List String} {e : Datum} (h : Leads d keys e) {entries : Record.Entries}
    (he : e.bare = .mapping entries) (key : String) (missing : Datum) (use : Use) :
    Gets (getOr e key missing) ⟨keys ++ [key], some missing, use⟩ d where
  ok v := by
    rw [getOr_eq he, Taking.value?, h key []]
    cases member? e key <;> simp
  slip := by
    rw [getOr_eq he]
    exact not_slip_ok _

theorem Gets.first {x : Except Fault Datum} {t : Taking} (hx : Gets x t d) (hany : t.use = .any)
    {rest : Datum → Except Fault α} (hrest : ∀ v, t.value? d = some v → Follows (rest v) ts d) :
    Follows (x >>= rest) (t :: ts) d := by
  have hgoes : t.Goes d ↔ ∃ v, t.value? d = some v := by simp [Taking.Goes, hany, Use.Takes]
  have hslips : ¬ t.Slips d := by simp [Taking.Slips, hany, Use.Slips]
  have hfollows : Follows x [t] d := by
    constructor
    · simp [hgoes, hx.ok]
    · rw [slipsAt_cons]
      exact iff_of_false hx.slip fun h => h.elim hslips fun h => slipsAt_nil d h.2
  exact hfollows.bind fun v hv => hrest v ((hx.ok v).1 hv)

theorem Gets.follows {x : Except Fault Datum} {t : Taking} (hx : Gets x t d)
    {take : Datum → Except Fault α} (htake : IsUse take t.use) : Follows (x >>= take) [t] d := by
  constructor
  · simp only [bind_eq_ok, List.mem_singleton, forall_eq, Taking.Goes, ← hx.ok, ← htake.ok]
    exact exists_comm.trans (by simp)
  · rw [slip_bind, slipsAt_cons]
    simp only [hx.slip, hx.ok, htake.slip, Taking.Slips, slipsAt_nil, and_false, or_false, false_or]

theorem Gets.bind {x : Except Fault Datum} {t : Taking} (hx : Gets x t d)
    {take : Datum → Except Fault α} (htake : IsUse take t.use) {rest : α → Except Fault β}
    (hrest : ∀ v a, t.value? d = some v → take v = .ok a → Follows (rest a) ts d) :
    Follows (x >>= fun v => take v >>= rest) (t :: ts) d := by
  rw [← bind_assoc]
  refine (hx.follows htake).bind fun a ha => ?_
  obtain ⟨v, hv, ha⟩ := bind_eq_ok.1 ha
  exact hrest v a ((hx.ok v).1 hv) ha

end Keys

/-- The value of a member of what keys lead to, or what stands for it. -/
theorem value?_of_leads {d e : Datum} {keys : List String} (h : Leads d keys e) (key : String)
    (missing : Datum) (use : Use) :
    Taking.value? d ⟨keys ++ [key], some missing, use⟩ = some ((member? e key).getD missing) := by
  rw [Taking.value?, h key []]
  cases member? e key <;> simp

theorem member?_of_value? {d e v : Datum} {keys : List String} (h : Leads d keys e) (key : String)
    {use : Use} (hv : Taking.value? d ⟨keys ++ [key], none, use⟩ = some v) :
    member? e key = some v := by
  rw [Taking.value?, h key []] at hv
  simpa using hv

theorem leads_of_need {d e v : Datum} {keys : List String} (h : Leads d keys e) {key : String}
    (hv : member? e key = some v) : Leads d (keys ++ [key]) v := by
  apply leads_of_foldlM
  rw [h key [], hv]
  rfl

/-- A member that is missing has no members. -/
theorem leads_getD {d e : Datum} {keys : List String} (h : Leads d keys e) (key : String) :
    Leads d (keys ++ [key]) ((member? e key).getD (.mapping [])) := by
  cases hv : member? e key with
  | some v => exact leads_of_need h hv
  | none =>
      intro next more
      rw [List.append_assoc, List.singleton_append, h, hv]
      rfl

theorem exists_mapping_of_member? {e v : Datum} {key : String} (h : member? e key = some v) :
    ∃ entries, e.bare = .mapping entries := by
  rw [member?] at h
  split at h
  · next entries hentries => exact ⟨entries, hentries⟩
  · cases h

/-! ### The takings of the loader -/

theorem follows_tool {d e : Datum} (h : Leads d ["settings", "endmill_size"] e)
    (hvalue :
      Taking.value? d ⟨["settings", "endmill_size"], some (.mapping []), .mapping⟩ = some e) :
    Follows (tool e)
      (⟨["settings", "endmill_size"], some (.mapping []), .mapping⟩ :: toolTakings) d := by
  by_cases he : ∃ entries, e.bare = .mapping entries
  · obtain ⟨entries, hentries⟩ := he
    have hfollows : Follows (tool e) toolTakings d := by
      rw [tool]
      refine (gets_getOr h hentries "input" _ .shown).bind isUse_write fun _ input _ _ => ?_
      refine (gets_getOr h hentries "unit" _ .shown).bind isUse_write fun _ unit _ _ => ?_
      exact follows_ok _
    refine hfollows.cons ⟨e, hvalue, entries, hentries⟩ ?_
    rintro ⟨v, hv, hslips⟩
    obtain rfl := Option.some.inj (hvalue.symm.trans hv)
    exact hslips entries hentries
  · have hfault : tool e = .error .noSuchMember := by
      rw [tool, getOr]
      split
      · next entries hentries => exact absurd ⟨entries, hentries⟩ he
      · rfl
    rw [hfault]
    apply follows_error
    · rintro ⟨v, hv, hmapping⟩
      obtain rfl := Option.some.inj (hvalue.symm.trans hv)
      exact he hmapping
    · have hslip : Slip (Except.error .noSuchMember : Except Fault (String × String)) :=
        (slip_error _).2 ⟨rfl, by decide⟩
      refine iff_of_true hslip ⟨e, hvalue, fun entries hentries => ?_⟩
      exact he ⟨entries, hentries⟩

/-- The texts of a tool are the values that are taken for it. -/
theorem exists_of_tool {d e : Datum} (h : Leads d ["settings", "endmill_size"] e) {input unit : String}
    (htool : tool e = .ok (input, unit)) :
    ∃ v, Taking.value? d ⟨["settings", "endmill_size", "unit"], some (.text Tool.default.unit.name),
      .named (ToolUnit.all.map ToolUnit.name)⟩ = some v ∧ v.write = .ok unit := by
  refine ⟨_, value?_of_leads h "unit" _ _, ?_⟩
  obtain ⟨v, hv, htool⟩ := bind_eq_ok.1 htool
  obtain ⟨_, -, htool⟩ := bind_eq_ok.1 htool
  obtain ⟨w, hw, htool⟩ := bind_eq_ok.1 htool
  obtain ⟨_, hunit, htool⟩ := bind_eq_ok.1 htool
  obtain ⟨entries, hentries⟩ : ∃ entries, e.bare = .mapping entries := by
    rw [getOr] at hv
    split at hv
    · next entries hentries => exact ⟨entries, hentries⟩
    · cases hv
  rw [getOr_eq hentries] at hw
  rw [Except.ok.inj hw, hunit]
  exact congrArg Except.ok (congrArg Prod.snd (Except.ok.inj htool))

theorem follows_named {α : Type} {all : List α} {name : α → String} {fault : String → Fault}
    (hfault : ∀ s, isBadValue (fault s) = true) {d v : Datum} {s : String} {keys : List String}
    {missing : Option Datum} (hv : Taking.value? d ⟨keys, missing, .named (all.map name)⟩ = some v)
    (hs : v.write = .ok s) :
    Follows (chooseNamed all name fault (.text s)) [⟨keys, missing, .named (all.map name)⟩] d := by
  obtain rfl : v.plain = s := by
    rw [Datum.write] at hs
    split at hs
    · cases hs
    · exact Except.ok.inj hs
  have hslips : ¬ Taking.Slips d ⟨keys, missing, .named (all.map name)⟩ := by
    rintro ⟨w, -, hslip⟩
    exact hslip
  rw [chooseNamed]
  cases hfound : all.find? (name · == v.plain) with
  | some a =>
      have hmem : v.plain ∈ all.map name := by
        have hname := List.find?_some hfound
        exact List.mem_map.2 ⟨a, List.mem_of_find?_eq_some hfound, beq_iff_eq.1 hname⟩
      exact (follows_ok a).cons ⟨v, hv, hmem⟩ hslips
  | none =>
      apply follows_error
      · rintro ⟨w, hw, hmem⟩
        obtain rfl := Option.some.inj (hv.symm.trans hw)
        obtain ⟨a, ha, hname⟩ := List.mem_map.1 hmem
        exact List.find?_eq_none.1 hfound a ha (beq_iff_eq.2 hname)
      · exact iff_of_false (not_slip_of_isBadValue (hfault _)) hslips

theorem follows_settingsOf {d s : Datum} (h : Leads d ["settings"] s) :
    Follows (settingsOf s) settingsTakings d := by
  rw [settingsOf]
  refine (gets_need h "initial_position" .any).first rfl fun start hstart => ?_
  have hmember := member?_of_value? h "initial_position" hstart
  have hs : Leads d ["settings", "initial_position"] start := leads_of_need h hmember
  obtain ⟨entries, hentries⟩ := exists_mapping_of_member? hmember
  rw [getOr_eq hentries]
  have he := leads_getD h "endmill_size"
  refine (follows_tool he (value?_of_leads h _ _ _)).bind fun (input, unit) htool => ?_
  obtain ⟨v, hv, hunit⟩ := exists_of_tool he htool
  refine (gets_need hs "x" .float).bind isUse_toFloat fun _ x _ _ => ?_
  refine (gets_need hs "y" .float).bind isUse_toFloat fun _ y _ _ => ?_
  refine (gets_need hs "z" .float).bind isUse_toFloat fun _ z _ _ => ?_
  refine (gets_need h "dwells_before_probe" .count).bind isUse_toInt fun _ dwells _ _ => ?_
  refine (gets_need h "spindle_speed" .float).bind isUse_toFloat fun _ spindle _ _ => ?_
  refine (gets_getOr h hentries "units" _ .shown).bind isUse_write fun w units hw hunits => ?_
  change Follows _ ([_] ++ [_]) d
  refine Follows.bind ((follows_named (fun _ => rfl) hv hunit).bind fun _ _ => follows_ok _)
    fun _ _ => ?_
  exact (follows_named (fun _ => rfl) hw hunits).bind fun _ _ => follows_ok _

/-- A part of a configuration that is missing has no first value. -/
theorem Follows.need {α : Type} {d e : Datum} {keys : List String} (h : Leads d keys e)
    {key next : String} {use : Use} {ts : List Taking} {rest : Datum → Except Fault α}
    (hrest : ∀ v, Leads d (keys ++ [key]) v →
      Follows (rest v) (⟨keys ++ [key, next], none, use⟩ :: ts) d) :
    Follows (need e key >>= rest) (⟨keys ++ [key, next], none, use⟩ :: ts) d := by
  cases hneed : Defaults.need e key with
  | ok v => exact hrest v (leads_of_need h (need_eq_ok.1 hneed))
  | error f =>
      have hmember : member? e key = none := by
        rw [Option.eq_none_iff_forall_not_mem]
        intro v hv
        rw [need_eq_ok.2 hv] at hneed
        cases hneed
      have hvalue : Taking.value? d ⟨keys ++ [key, next], none, use⟩ = none := by
        rw [Taking.value?, h key [next], hmember]
        rfl
      have hslip : ¬ Slip (Except.error f : Except Fault Datum) := hneed ▸ not_slip_need e key
      apply follows_error
      · rintro ⟨v, hv, -⟩
        rw [hvalue] at hv
        cases hv
      · rw [slip_error] at hslip ⊢
        refine iff_of_false hslip ?_
        rintro ⟨v, hv, -⟩
        rw [hvalue] at hv
        cases hv

/-- The defaults are there just when all takings go well, and slip just when one of them does and
all before it go well. -/
theorem follows_values (d : Datum) : Follows (values d) takings d := by
  rw [values]
  refine Follows.need (leads_nil d) fun s hs => ?_
  refine (follows_settingsOf hs).bind fun settings _ => ?_
  refine Follows.need (leads_nil d) fun t ht => ?_
  refine (gets_need ht "axis" .shown).bind isUse_write fun v axis hv _ => ?_
  refine (gets_need ht "direction" .count).bind isUse_toInt fun _ direction _ _ => ?_
  refine (gets_need ht "distance" .float).bind isUse_toFloat fun _ distance _ _ => ?_
  refine (gets_need ht "feed_rate" .float).bind isUse_toFloat fun _ feedRate _ _ => ?_
  refine (gets_need ht "backoff_distance" .float).bind isUse_toFloat fun _ backoff _ _ => ?_
  obtain ⟨entries, hentries⟩ := exists_mapping_of_member? (member?_of_value? ht "axis" hv)
  refine (gets_getOr ht hentries "wcs_offset" _ .float).bind isUse_toFloat fun _ offset _ _ => ?_
  exact follows_ok _

end Defaults

end TouchProbe
