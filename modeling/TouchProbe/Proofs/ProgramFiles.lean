import TouchProbe.Proofs.Descriptions
import TouchProbe.Proofs.KeptFiles
import TouchProbe.Proofs.SavedFiles
import TouchProbe.Proofs.Utf8

/-!
Programs in files.  All that a program has of its own, words, numbers and banners, is read from a
file as it was written, so a program is read from a file as it was written if its comments are.  A
file stays as it is when another one is written.
-/

namespace TouchProbe

namespace Program

open Text Number

/-! ### Texts of programs -/

/-- Whether a text is read from a file as it was written. -/
def Stays (s : String) : Prop := ∀ c ∈ s.toList, staysInFile c = true

instance (s : String) : Decidable (Stays s) := decidable_of_iff _ List.all_eq_true

namespace Stays

theorem append {s t : String} (hs : Stays s) (ht : Stays t) : Stays (s ++ t) := by
  rw [Stays, String.toList_append, List.forall_mem_append]
  exact ⟨hs, ht⟩

theorem intercalate {s : String} (hs : Stays s) {ts : List String} (hts : ∀ t ∈ ts, Stays t) :
    Stays (s.intercalate ts) := by
  rw [Stays, String.toList_intercalate]
  induction ts with
  | nil => simp
  | cons t ts ih =>
      rw [List.forall_mem_cons] at hts
      cases ts with
      | nil =>
          rw [List.map_singleton, List.intercalate_singleton]
          exact hts.1
      | cons u ts =>
          simp only [List.map_cons, List.intercalate_cons_cons, List.forall_mem_append]
          exact ⟨⟨hts.1, hs⟩, ih hts.2⟩

end Stays

theorem stays_floatChars {s : List Char} (h : s ⊆ floatChars) : ∀ c ∈ s, staysInFile c = true := by
  have hall : floatChars.all staysInFile = true := by decide
  exact fun c hc => List.all_eq_true.1 hall c (h hc)

theorem stays_writeFloat (x : Float) : Stays (writeFloat x) := stays_floatChars (writeFloat_subset x)

theorem stays_number (n : Nat) : Stays (toString n) := by
  rw [Stays, Nat.toString_eq_ofList_toDigits, String.toList_ofList]
  exact stays_floatChars (digitChars_subset n)

theorem stays_name (a : Axis) : Stays a.name := by
  cases a <;> decide

theorem stays_signText (negative : Bool) : Stays (signText negative) := by
  cases negative <;> decide

theorem stays_rapidCommand (r : Rapid) (es : List (Axis × Float)) : Stays (rapidCommand r es) := by
  have hmode : ∀ w ∈ modeWord r.mode, Stays w := by
    cases r.mode <;> decide
  have hsystem : ∀ w ∈ systemWord r.system, Stays w := by
    cases r.system <;> decide
  refine .intercalate (by decide) ?_
  simp only [List.cons_append, List.forall_mem_cons, List.forall_mem_append]
  refine ⟨by decide, ⟨hmode, hsystem⟩, fun w hw => ?_⟩
  obtain ⟨e, -, rfl⟩ := List.mem_map.1 hw
  exact (stays_name e.1).append (stays_writeFloat e.2)

/-! ### Lines -/

theorem stays_newline : ∀ c ∈ ['\n'], staysInFile c = true := List.forall_mem_singleton.2 (by decide)

def Line.Stays (l : Line) : Prop := ∀ c ∈ l.chars, staysInFile c = true

theorem stays_parenthesised {c : String} (h : Stays c) :
    ∀ d ∈ parenthesised c.toList, staysInFile d = true := by
  rw [parenthesised]
  split
  · simp
  · simp only [List.cons_append, List.forall_mem_cons, List.forall_mem_append]
    exact ⟨by decide, h, by decide, by simp⟩

theorem stays_command {c d : String} (hc : Stays c) (hd : Stays d) : (Line.command c d).Stays := by
  rw [Line.Stays, Line.chars, pad]
  simp only [List.forall_mem_append]
  refine ⟨⟨⟨fun b hb => ?_, fun b hb => ?_⟩, stays_parenthesised hd⟩, stays_newline⟩
  · exact hc b ((trimEnd_sublist c.toList).subset hb)
  · rw [List.eq_of_mem_replicate hb]
    decide

theorem stays_banner {c : String} (h : Stays c) : (Line.banner c).Stays := by
  rw [Line.Stays, Line.chars, List.forall_mem_append]
  exact ⟨stays_parenthesised h, stays_newline⟩

theorem stays_blank : Line.blank.Stays := stays_newline

theorem stays_writtenHead (settings : Settings) : ∀ l ∈ writtenHead settings, l.Stays := by
  have hunits : (unitsLine settings.units).Stays := by
    cases settings.units
    · exact stays_command (by decide) (by decide)
    · exact stays_command (by decide) (by decide)
  have hstart : ∀ l ∈ startOrder.map (writtenStart settings), l.Stays := by
    intro l hl
    obtain ⟨a, -, rfl⟩ := List.mem_map.1 hl
    exact stays_command ((Stays.append (by decide) (stays_name a)).append (stays_writeFloat _))
      (.append (by decide) (stays_name a))
  have hspeed := stays_writeFloat (floatOf settings.spindle)
  have hspindle : (writtenSpindle settings).Stays :=
    stays_command ((Stays.append (by decide) hspeed).append (by decide))
      ((Stays.append (by decide) hspeed).append (by decide))
  rw [writtenHead]
  simp only [List.cons_append, List.forall_mem_cons, List.forall_mem_append]
  exact ⟨hunits, hstart, stays_blank, hspindle, stays_command (by decide) (by decide), stays_blank,
    stays_command (by decide) (by decide), stays_blank, by simp⟩

/-- Whether the comments of all steps of a probe operation are read from a file as they were
written. -/
def HasStayingComments (p : Probe) : Prop :=
  ∀ s ∈ p.preMoves ++ p.postMoves, Stays (commentOf s.description)

theorem stays_writtenStep {s : Step} {l : Line} (h : writtenStep s = some l)
    (hs : Stays (commentOf s.description)) : l.Stays := by
  cases s with
  | rapid r =>
      rw [writtenStep] at h
      split at h
      next vs =>
        split at h
        · cases h
        · obtain rfl := Option.some.inj h
          exact stays_command (stays_rapidCommand r _) hs
      next => cases h
  | dwell d =>
      rw [writtenStep] at h
      split at h
      · obtain rfl := Option.some.inj h
        exact stays_command (.append (by decide) (stays_writeFloat _)) hs
      · cases h

theorem stays_writtenMoves {moves : List Step} (h : ∀ s ∈ moves, Stays (commentOf s.description))
    {banner : String} (hbanner : Stays banner) : ∀ l ∈ writtenMoves moves banner, l.Stays := by
  rw [writtenMoves]
  split
  · simp
  · simp only [List.cons_append, List.forall_mem_cons, List.forall_mem_append]
    refine ⟨stays_banner hbanner, fun l hl => ?_, stays_blank, by simp⟩
    obtain ⟨s, hs, hsl⟩ := List.mem_filterMap.1 hl
    exact stays_writtenStep hsl (h s hs)

theorem stays_probeLines (p : Probe) :
    ∀ l ∈ [probeLine p, originLine p, backoffLine p, .blank], l.Stays := by
  have hname := stays_name p.axis
  have hsign := stays_signText (!p.isForward)
  have hnumber (x : Float) := stays_writeFloat x
  simp only [List.forall_mem_cons]
  refine ⟨stays_command ?_ ?_, stays_command ?_ ?_, stays_command ?_ (by decide), stays_blank,
    by simp⟩
  · exact (((((Stays.append (by decide) hname).append hsign).append (hnumber _)).append
      (by decide)).append (hnumber _))
  · exact (((Stays.append (by decide) hname).append hsign).append (by decide))
  · exact (Stays.append (by decide) hname).append (hnumber _)
  · exact (Stays.append (by decide) hname).append (by decide)
  · exact (Stays.append (by decide) hname).append (hnumber _)

theorem stays_writtenOperation {p : Probe} (h : HasStayingComments p) (count number : Nat) :
    ∀ l ∈ writtenOperation count number p, l.Stays := by
  obtain ⟨hpre, hpost⟩ := List.forall_mem_append.1 h
  have hlines := stays_probeLines p
  have hnumber := stays_number number
  rw [writtenOperation, writtenToProbe]
  simp only [List.forall_mem_cons, List.forall_mem_append] at hlines ⊢
  refine ⟨⟨⟨⟨⟨stays_banner ?_, ?_⟩, fun l hl => ?_⟩, stays_blank, hlines⟩, ?_⟩, stays_blank, by simp⟩
  · exact (Stays.append (by decide) hnumber).append
      ((Stays.append (by decide) (stays_name p.axis)).append (by decide))
  · exact stays_writtenMoves hpre (.append (by decide) hnumber)
  · rw [List.eq_of_mem_replicate hl]
    exact stays_command (by decide) (by decide)
  · exact stays_writtenMoves hpost (.append (by decide) hnumber)

theorem stays_writtenOperations {ops : List Probe} (h : ∀ p ∈ ops, HasStayingComments p)
    (count number : Nat) : ∀ l ∈ writtenOperations count number ops, l.Stays := by
  induction ops generalizing number with
  | nil => simp [writtenOperations]
  | cons p ops ih =>
      rw [List.forall_mem_cons] at h
      rw [writtenOperations, List.forall_mem_append]
      exact ⟨stays_writtenOperation h.1 count number, ih h.2 (number + 1)⟩

/-- A program is read from a file as it was written if the comments of its steps are. -/
theorem stays_write {ops : List Probe} {settings : Settings} {text : String}
    (h : write ops settings = .ok text) (hops : ∀ p ∈ ops, HasStayingComments p) : Stays text := by
  obtain ⟨ls, hls, rfl⟩ := map_eq_ok.1 h
  obtain ⟨count, -, rfl⟩ := lines_eq_ok hls
  have hfoot : ∀ l ∈ footLines, l.Stays := by
    simp only [footLines, List.forall_mem_cons]
    exact ⟨stays_command (by decide) (by decide), stays_command (by decide) (by decide), by simp⟩
  rw [Stays, textOf, String.toList_ofList]
  simp only [List.forall_mem_flatMap, List.forall_mem_append]
  exact ⟨⟨stays_writtenHead settings, stays_writtenOperations hops count 1⟩, hfoot⟩

end Program

namespace FileTree

variable {t t' : FileTree} {here : List String} {ns : List String}

/-! ### Files that stay -/

/-- Names that lead to a file lead to a folder before the last of them. -/
theorem exists_of_follow_file {bytes : List UInt8} (h : t.follow here ns = .file bytes) :
    ∃ ms n, ns = ms ++ [n] ∧ t.follow here ms = .folder := by
  induction ns generalizing here with
  | nil => cases h
  | cons n ns ih =>
      rw [follow_cons] at h
      cases hentry : t.lookup? (enter here n).reverse with
      | none => simp [hentry] at h
      | some e =>
          rw [hentry] at h
          cases e with
          | folder =>
              obtain ⟨ms, m, rfl, hfolder⟩ := ih h
              exact ⟨n :: ms, m, rfl, follow_cons_folder.2 ⟨hentry, hfolder⟩⟩
          | file other =>
              cases ns with
              | nil => exact ⟨[], n, rfl, rfl⟩
              | cons m ns => cases h

/-- A file is found as before when a file is written at the end of another way, or with the same
bytes. -/
theorem find_of_write_other (hhere : ".." ∉ t.here) {a b : Address} {bytes other : List UInt8}
    (hfind : t.find b = .file bytes) (h : t.write a other = (t', .ok ()))
    (hapart : t.way b ≠ t.way a ∨ other = bytes) : t'.find b = .file bytes := by
  obtain ⟨t₁, ms, m, hmade, hkept, hfault, -, -, hentry, rfl⟩ := exists_of_write hhere h
  have hkeeps := keepsFiles_makeFolder t a.parent
  rw [hmade] at hkeeps
  have hbfault : b.fault? = none := by
    rw [find] at hfind
    split at hfind
    · cases hfind
    · next hnone => simpa using hnone
  rw [find_eq_follow hbfault] at hfind
  obtain ⟨ns, n, hnames, haround⟩ := exists_of_follow_file hfind
  have hlookup : t.lookup? (t.way b) = some (.file bytes) := by
    rw [follow_names hhere hnames haround] at hfind
    cases hb : t.lookup? (t.way b) with
    | none => simp [hb] at hfind
    | some e => cases e <;> simp_all
  have hway := way_congr hkept
  have hbase : t₁.base b = t.base b := by rw [base, base, hkept]
  have hroot : t₁.way a ≠ [] := fun hnil => hentry (by rw [hnil]; rfl)
  -- The folders around the file are still there, and so is the file at the end of its way.
  have hstill : (t₁.set (t₁.way a) (.file other)).follow (t₁.base b).reverse ns = .folder := by
    rw [hbase]
    exact follow_of_folders
      (fun v hv => lookup?_set_file hentry other (hkeeps.folders v hv)) haround
  have hfound := follow_names (t := t₁.set (t₁.way a) (.file other)) (a := b)
    (show ".." ∉ t₁.here by rwa [hkept]) hnames hstill
  have hset : (t₁.set (t₁.way a) (.file other)).lookup? (t₁.way b) = some (.file bytes) := by
    rw [lookup?_set t₁ hroot, hway, hway]
    split
    · next hsame =>
      obtain rfl := hapart.resolve_left fun hne => hne hsame
      rfl
    · exact (hkeeps.files _ _).2 hlookup
  have hsame : (t₁.set (t₁.way a) (.file other)).way b = t₁.way b := rfl
  rw [find_eq_follow hbfault]
  refine hfound.trans ?_
  rw [hsame, hset]

theorem here_of_write (hhere : ".." ∉ t.here) {a : Address} {bytes : List UInt8}
    (h : t.write a bytes = (t', .ok ())) : t'.here = t.here := by
  obtain ⟨t₁, ns, n, -, hkept, -, -, -, -, rfl⟩ := exists_of_write hhere h
  exact hkept

/-- The text of a program is read from a file as it was written there. -/
theorem programText_of_find {a : Address} {text : String}
    (hfind : t.find a = .file text.toUTF8.toList) (h : Program.Stays text) :
    t.programText a = .ok text := by
  have htext : Text.universalNewlines text.toList = text.toList := Text.universalNewlines_of_stays h
  rw [programText, hfind]
  simp only [Text.decode_toUTF8, Except.mapError]
  change Except.ok (String.ofList (Text.universalNewlines text.toList)) = _
  rw [htext, String.ofList_toList]

/-! ### Files of one folder -/

/-- Whether an address is a name in the folder in which addresses start. -/
structure IsName (a : Address) (n : String) : Prop where
  eq : a = ⟨false, [n]⟩
  forth : n ≠ ".."
  fault : a.fault? = none

/-- Whether nothing but files stands in the folder in which addresses start. -/
structure HasOnlyFiles (t : FileTree) : Prop where
  here : ".." ∉ t.here
  files : ∀ n, t.lookup? (t.here ++ [n]) ≠ some .folder

variable {a : Address} {n : String}

theorem way_name (hhere : ".." ∉ t.here) (ha : IsName a n) : t.way a = t.here ++ [n] := by
  rw [way_eq hhere, ha.eq]
  simp [enter, ha.forth, base]

theorem write_name (h : t.HasOnlyFiles) (ha : IsName a n) (bytes : List UInt8) :
    t.write a bytes = (t.set (t.way a) (.file bytes), .ok ()) := by
  have hnames : a.names = [] ++ [n] := by rw [ha.eq, List.nil_append]
  have hfind : t.find a ≠ .folder := by
    rw [find_eq_follow ha.fault, follow_names h.here hnames rfl, way_name h.here ha]
    cases hentry : t.lookup? (t.here ++ [n]) with
    | none => simp
    | some e =>
        cases e with
        | file other => simp
        | folder => exact absurd hentry (h.files n)
  have hroot : (⟨false, []⟩ : Address).fault? = none := by decide
  have haround : t.makeFolder a.parent = (t, .ok ()) := by
    rw [ha.eq]
    change t.makeFolder ⟨false, []⟩ = _
    rw [makeFolder, hroot]
    rfl
  rw [write, haround, andThen_ok]
  cases hfound : t.find a with
  | folder => exact absurd hfound hfind
  | _ => simp only [ha.fault]

theorem hasOnlyFiles_write (h : t.HasOnlyFiles) (ha : IsName a n) {bytes : List UInt8}
    (hwrite : t.write a bytes = (t', .ok ())) : t'.HasOnlyFiles := by
  rw [write_name h ha, way_name h.here ha] at hwrite
  obtain ⟨rfl, -⟩ := Prod.mk.inj hwrite
  refine ⟨h.here, fun m => ?_⟩
  change (t.set (t.here ++ [n]) (.file bytes)).lookup? (t.here ++ [m]) ≠ _
  rw [lookup?_set t (by simp)]
  split
  · simp
  · exact h.files m

end FileTree

end TouchProbe
