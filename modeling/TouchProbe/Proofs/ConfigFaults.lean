import TouchProbe.Proofs.ConfigTakings
import TouchProbe.Proofs.ConfigRanges

/-!
How the loading of a configuration can fail.  Nearly all faults are told as faults of the
configuration.  Three of them are not: a size of the tool that is no mapping, a whole number beyond
all floats where a float is taken, and an infinite float where a whole number is taken.  Besides
these, a value that is out of range may be too long to be shown in the message that says so.
-/

namespace TouchProbe

namespace Config

open Defaults

/-- Whether a configuration is there or the fault is one of the configuration. -/
def Settles (r : Except Fault Config) : Prop :=
  (∃ c, r = .ok c) ∨ ∃ f, r = .error f ∧ f.family = .badConfig

instance (r : Except Fault Config) : Decidable (Settles r) :=
  match r with
  | .ok c => isTrue (.inl ⟨c, rfl⟩)
  | .error f => decidable_of_iff (f.family = .badConfig) (by simp [Settles])

/-- The defaults of a value pass their tests or fail with a fault of the configuration, unless a
taking slips while all before it go well, or the first value that is out of range is too long to be
shown. -/
theorem settles_ofDatum_iff (d : Datum) :
    Settles (ofDatum d >>= check) ↔
      ¬ SlipsAt d takings ∧ ∀ c, values d = .ok c → ¬ c.IsTooLong := by
  have hslip := (follows_values d).slip
  rw [← hslip, ofDatum]
  cases hvalues : values d with
  | ok c =>
      have hno : ¬ Slip (Except.ok c : Except Fault Defaults) := not_slip_ok c
      simp only [hno, not_false_eq_true, true_and, Except.ok.injEq, forall_eq']
      change Settles c.check ↔ ¬ c.IsTooLong
      rcases check_cases (hasKinds_of_values hvalues) with ⟨hlong, hfault⟩ | ⟨hshort, hfaults⟩
      · rw [hfault]
        refine iff_of_false ?_ (not_not.2 hlong)
        rintro (⟨config, h⟩ | ⟨f, h, hfamily⟩)
        · cases h
        · cases h
          cases hfamily
      · refine iff_of_true ?_ hshort
        cases hcheck : c.check with
        | ok config => exact .inl ⟨config, rfl⟩
        | error f => exact .inr ⟨f, rfl, hfaults f hcheck⟩
  | error f =>
      change Settles (.error (if isBadValue f then .badConfigValue f else f)) ↔ _
      have hempty : ∀ c, (Except.error f : Except Fault Defaults) = .ok c → ¬ c.IsTooLong :=
        fun c h => nomatch h
      rw [slip_error, and_iff_left hempty]
      cases hbad : isBadValue f with
      | true => exact iff_of_true (.inr ⟨_, rfl, rfl⟩) (by simp)
      | false => simp [Settles]

/-- The loading of a configuration file that holds a value gives a configuration or fails with a
fault of the configuration, unless a taking slips while all before it go well, or the first value
that is out of range is too long to be shown. -/
theorem settles_load_iff {t : FileTree} {a : Address} {d : Datum} (h : t.loadYaml a = .ok d) :
    Settles (load t a) ↔ ¬ SlipsAt d takings ∧ ∀ c, values d = .ok c → ¬ c.IsTooLong := by
  have hfile : t.has a = true := by
    rw [FileTree.loadYaml] at h
    rw [FileTree.has]
    split at h
    · next bytes hbytes => rw [hbytes]
    · cases h
  have hload : load t a = (loadDatum t a >>= ofDatum) >>= check := by
    rw [load, hfile, bind_assoc]
    rfl
  rw [hload, loadDatum, h, ← settles_ofDatum_iff]
  split
  · next hnull =>
    obtain rfl := Except.ok.inj hnull
    -- Nothing is taken from an empty file, which is told in its own words.
    exact iff_of_true (.inr ⟨_, rfl, rfl⟩) (.inr ⟨_, rfl, rfl⟩)
  · next e _ he =>
    obtain rfl := Except.ok.inj he
    rfl
  · next he => cases he
  · next he => cases he

/-- A file tree whose only file has a text. -/
def fileOf (text : String) : FileTree := ⟨[], [(["cfg"], .file text.toUTF8.toList)]⟩

def only : Address := ⟨false, ["cfg"]⟩

def wholeConfig : String :=
  "\x7bsettings: \x7binitial_position: \x7bx: 0, y: 0, z: 0\x7d, " ++
  "dwells_before_probe: 15, spindle_speed: 1\x7d, probe_template: " ++
  "\x7baxis: Z, direction: -1, distance: 2, feed_rate: 1, backoff_distance: 1\x7d\x7d"

/-- All takings go well, and there is a configuration. -/
theorem settles_load_wholeConfig :
    ∃ d, (fileOf wholeConfig).loadYaml only = .ok d ∧
      (Settles (load (fileOf wholeConfig) only) ↔
        ¬ SlipsAt d takings ∧ ∀ c, values d = .ok c → ¬ c.IsTooLong) ∧
      Settles (load (fileOf wholeConfig) only) := by
  have hfile : ((fileOf wholeConfig).loadYaml only).isOk = true := by decide +kernel
  obtain ⟨d, hd⟩ := isOk_iff.1 hfile
  exact ⟨d, hd, settles_load_iff hd, by decide +kernel⟩

def infiniteConfig : String :=
  "\x7bsettings: \x7binitial_position: \x7bx: 0, y: 0, z: 0\x7d, dwells_before_probe: .inf\x7d\x7d"

/-- The file holds a value, and the fault is not told as one of the configuration. -/
theorem not_settles_load_infiniteConfig :
    (∃ d, (fileOf infiniteConfig).loadYaml only = .ok d) ∧
      ¬ Settles (load (fileOf infiniteConfig) only) := by
  have hfile : ((fileOf infiniteConfig).loadYaml only).isOk = true := by decide +kernel
  exact ⟨isOk_iff.1 hfile, by decide +kernel⟩

end Config

end TouchProbe
