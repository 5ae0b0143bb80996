import Byline.Proofs.Run.Tagging

/-!
# What a run does to one source

What becomes of a source in a run hangs on the script and on what stands at its four slots, not on
the other files (`Settings.runOn_alike`). A source without an entry in the report has its slots left
alone (`Tagging.node?_eq`).
-/

namespace Byline

namespace Disk

variable {d d' : Disk} {s s' : Seat}

theorem Seats.unique (h : d.Seats s) (h' : d'.Seats s') (hhome : d'.home = d.home)
    (hpath : s'.path = s.path) (hf : s.Fits "") (hf' : s'.Fits "") : s' = s := by
  have hl := h.locate (show PlainSuffix "" by decide)
  have hl' := h'.locate (show PlainSuffix "" by decide)
  rw [if_pos hf] at hl
  rw [if_pos hf', hpath] at hl'
  obtain ⟨hdir, hname⟩ := Seat.place_injective (locate_unique hhome hl hl')
  rw [String.append_empty, String.append_empty] at hname
  cases s
  cases s'
  simp_all

end Disk

namespace Origin

variable {d : Disk} {base : String} {r : Record} {s : Seat} {b : Utf8.Bytes} {suf : String}

theorem holds (h : Origin d base r s b) (hd : d.root.Proper) : d.Holds s (d.cells s) :=
  Disk.holds_cells hd h.seats

theorem node? (h : Origin d base r s b) (hd : d.root.Proper) (hs : suf ∈ Slots.suffixes) :
    d.node? (r.path ++ suf) = if s.Fits suf then d.cells s suf else none := by
  rw [← h.path]
  exact (h.holds hd).node? hs

theorem node?_live (h : Origin d base r s b) (hd : d.root.Proper) :
    d.node? r.path = some (.file b) := by
  have hn := h.node? hd Slots.live_mem
  rwa [String.append_empty, if_pos h.fits, h.live] at hn

end Origin

namespace Settings

variable {s s' : Settings} {d d' : Disk} {act : Record → Option Record} {f : String} {r : Record}

/-- A record is kept on every disk where its path is that of a source with the same octets. -/
theorem mem_keptRecords_of_node? (hk : Script.Keeps act) (hr : r ∈ s.keptRecords d act)
    (hf : r.path ∈ (d'.findSources s'.sourceRoot).1)
    (hn : d'.node? r.path = d.node? r.path) : r ∈ s'.keptRecords d' act := by
  obtain ⟨f, -, r₁, ha, hact⟩ := mem_keptRecords.1 hr
  obtain ⟨b, a, hb, han, rfl⟩ := Record.analyze_eq_ok ha
  have hpath : r.path = f := (hk _ r hact).1.trans (Record.take_path _ a)
  rw [hpath] at hf hn
  have hb' : d'.read f = .ok b := Disk.read_eq_ok.2 (hn.trans (Disk.read_eq_ok.1 hb))
  refine mem_keptRecords.2 ⟨f, hf, _, ?_, hact⟩
  rw [Record.analyze, hb']
  simp only [han]

end Settings

theorem filter_eq_singleton {l : List Record} (h : (l.map (·.path)).Nodup) {r : Record}
    (hr : r ∈ l) : l.filter (·.path == r.path) = [r] := by
  induction l with
  | nil => simp at hr
  | cons a l ih =>
    obtain ⟨ha, hl⟩ := List.nodup_cons.1 h
    rcases List.mem_cons.1 hr with rfl | hr
    · have hnone : l.filter (·.path == r.path) = [] := by
        rw [List.filter_eq_nil_iff]
        intro x hx he
        exact ha (List.mem_map.2 ⟨x, hx, by simpa using he⟩)
      simp [hnone]
    · have hne : a.path ≠ r.path := fun he => ha (List.mem_map.2 ⟨r, hr, he.symm⟩)
      rw [List.filter_cons_of_neg (by simpa using hne), ih hl hr]

namespace Tagging

variable {s s' : Settings} {d d' : Disk} {act : Record → Option Record} {f suf : String}
  {r : Record}

/-- The slots of a source without a record are left alone. -/
theorem node?_eq (t : Tagging s d act) {d₀ : Disk} {top ns : List String}
    (hf : d₀.FoundAt s.sourceRoot f top ns) (hhome : d.home = d₀.home)
    (hno : ∀ r ∈ s.keptRecords d act, r.path ≠ f) (hs : suf ∈ Slots.suffixes) :
    (s.runOn d).2.node? (f ++ suf) = d.node? (f ++ suf) :=
  t.sameDirs.node?_eq fun q hq => t.elsewhere q fun r hr _ hs' _ =>
    (t.origin r hr).toSourceSeat.place_ne hf hhome (hno r hr) hs hs' hq

theorem node?_of_kept (t : Tagging s d act) (hr : r ∈ s.keptRecords d act)
    (hs : suf ∈ Slots.suffixes) : (s.runOn d).2.node? (r.path ++ suf) =
      if (t.seat r).Fits suf then t.cells r suf else none := by
  have hheld := Disk.holds_cells t.proper (t.sameDirs.seats (t.origin r hr).seats)
  rw [← (t.origin r hr).path, hheld.node? hs]
  split
  · next hf => exact t.ends r hr suf hs hf
  · rfl

theorem entry_path (t : Tagging s d act) (hr : r ∈ s.keptRecords d act) :
    (t.entry r).path = r.path := (t.fate r hr).path

theorem filter_files (t : Tagging s d act) (hd : d.root.Proper) (hk : Script.Keeps act)
    (hr : r ∈ s.keptRecords d act) :
    (s.runOn d).1.files.filter (·.path == r.path) = [t.entry r] := by
  have hnodup : ((s.keptRecords d act).map (·.path)).Nodup :=
    (s.keptRecords_sublist d hk).nodup (Disk.nodup_findSources hd _)
  rw [t.files, List.filter_map, ← List.map_singleton, ← filter_eq_singleton hnodup hr]
  refine congrArg _ (List.filter_congr fun r' hr' => ?_)
  rw [Function.comp_apply, t.entry_path hr']

theorem filter_files_eq_nil (t : Tagging s d act)
    (hno : ∀ r ∈ s.keptRecords d act, r.path ≠ f) :
    (s.runOn d).1.files.filter (·.path == f) = [] := by
  rw [t.files, List.filter_eq_nil_iff]
  intro e he
  obtain ⟨r, hr, rfl⟩ := List.mem_map.1 he
  rw [t.entry_path hr]
  simpa using hno r hr

theorem seat_eq (t : Tagging s d act) (t' : Tagging s' d' act) (hhome : d'.home = d.home)
    (hr : r ∈ s.keptRecords d act) (hr' : r ∈ s'.keptRecords d' act) : t'.seat r = t.seat r :=
  (t.origin r hr).seats.unique (t'.origin r hr').seats hhome
    ((t'.origin r hr').path.trans (t.origin r hr).path.symm) (t.origin r hr).fits
    (t'.origin r hr').fits

/-- Two runs that keep a record, in the same mode and with the same nodes at its slots, do the same
with it. -/
theorem alike (t : Tagging s d act) (t' : Tagging s' d' act) (hd : d.root.Proper)
    (hd' : d'.root.Proper) (hhome : d'.home = d.home) (hmode : s'.mode = s.mode)
    (hr : r ∈ s.keptRecords d act) (hr' : r ∈ s'.keptRecords d' act)
    (hslots : ∀ suf ∈ Slots.suffixes, d'.node? (r.path ++ suf) = d.node? (r.path ++ suf)) :
    t'.entry r = t.entry r ∧ ∀ suf ∈ Slots.suffixes, (t.seat r).Fits suf →
      t'.cells r suf = t.cells r suf := by
  have hseat := t.seat_eq t' hhome hr hr'
  have ho := t.origin r hr
  have ho' := t'.origin r hr'
  have hy := t.yields r hr
  have hy' := t'.yields r hr'
  rw [hseat] at ho' hy'
  rw [hmode] at hy'
  refine (hy'.congr fun suf hs hf => ?_).unique hy (ho.holds hd)
  have hn := hslots suf hs
  rwa [ho'.node? hd' hs, ho.node? hd hs, if_pos hf, if_pos hf] at hn

end Tagging

namespace Settings

variable {s s' : Settings} {d d' : Disk} {f : String}

/-- Two runs in the same mode, with the same script and from the same working directory, do the
same with a source at whose slots both disks have the same: both report it alike, or not at all,
and leave the same there. -/
theorem runOn_alike (hd : d.root.Proper) (hd' : d'.root.Proper) (hhome : d'.home = d.home)
    (hroot : s'.sourceRoot = s.sourceRoot) (hmode : s'.mode = s.mode) (hm : s.mode ≠ .restore)
    (hscript : (d'.read s'.rulesPath).toOption = (d.read s.rulesPath).toOption)
    (hf : f ∈ (d.findSources s.sourceRoot).1)
    (hslots : ∀ suf ∈ Slots.suffixes, d'.node? (f ++ suf) = d.node? (f ++ suf)) :
    (s'.runOn d').1.files.filter (·.path == f) = (s.runOn d).1.files.filter (·.path == f) ∧
      ∀ suf ∈ Slots.suffixes,
        (s'.runOn d').2.node? (f ++ suf) = (s.runOn d).2.node? (f ++ suf) := by
  obtain ⟨act, hk, htagging⟩ := exists_tagging (d.read s.rulesPath).toOption
  obtain ⟨t⟩ := htagging s d hd hm rfl
  obtain ⟨t'⟩ := htagging s' d' hd' (hmode ▸ hm) hscript
  obtain ⟨top, ns, hfound⟩ := (Disk.mem_findSources_iff hd).1 hf
  have hlive : d'.node? f = d.node? f := by
    have h := hslots "" Slots.live_mem
    rwa [String.append_empty] at h
  rcases s.exists_kept_or d act f with ⟨r, hr, rfl⟩ | hno
  · have hlive' := hlive.trans ((t.origin r hr).node?_live hd)
    have hf' : r.path ∈ (d'.findSources s'.sourceRoot).1 :=
      hroot ▸ Disk.mem_findSources_of_node? hd hd' hhome hf hlive'
    have hr' := mem_keptRecords_of_node? hk hr hf' hlive
    obtain ⟨hentry, hcells⟩ := t.alike t' hd hd' hhome hmode hr hr' hslots
    refine ⟨?_, fun suf hs => ?_⟩
    · rw [t.filter_files hd hk hr, t'.filter_files hd' hk hr', hentry]
    · rw [t.node?_of_kept hr hs, t'.node?_of_kept hr' hs, t.seat_eq t' hhome hr hr']
      split
      · next hfit => exact hcells suf hs hfit
      · rfl
  · have hno' : ∀ r ∈ s'.keptRecords d' act, r.path ≠ f := by
      rintro r h rfl
      exact hno r (mem_keptRecords_of_node? hk h hf hlive.symm) rfl
    refine ⟨?_, fun suf hs => ?_⟩
    · rw [t.filter_files_eq_nil hno, t'.filter_files_eq_nil hno']
    · rw [t.node?_eq hfound rfl hno hs, t'.node?_eq (hroot ▸ hfound) hhome hno' hs, hslots suf hs]

/-- A source and a script that adds an author to it. -/
def scriptedDisk : Disk where
  root := .dir [(".authors", .file (Utf8.ofString "$ A\n+ x\n")),
    ("p", .dir [("A.java", .file (Utf8.ofString "public class A {}\n"))])]
  home := []

/-- The same source among others: one that has no type, and one whose backup is a directory. -/
def crowdedDisk : Disk where
  root := .dir [(".authors", .file (Utf8.ofString "$ A\n+ x\n")),
    ("p", .dir [("A.java", .file (Utf8.ofString "public class A {}\n")),
      ("B.java", .file (Utf8.ofString "x\n")),
      ("C.java", .file (Utf8.ofString "public class C {}\n")), ("C.java.at-save", .dir [])])]
  home := []

theorem runOn_alike_crowded :
    let s : Settings := ⟨"p", "p", ".authors", .backup, none, {}⟩
    (s.runOn crowdedDisk).1.files.filter (·.path == "p/A.java") =
        (s.runOn scriptedDisk).1.files.filter (·.path == "p/A.java") ∧
      (s.runOn crowdedDisk).2.node? "p/A.java" =
        some (.file (Utf8.ofString "/**\n * @author x\n */\npublic class A {}\n")) := by
  intro s
  have hd : scriptedDisk.root.Proper := by decide +kernel
  have hd' : crowdedDisk.root.Proper := by decide +kernel
  have hm : s.mode ≠ .restore := by decide
  have hscript : (crowdedDisk.read s.rulesPath).toOption =
      (scriptedDisk.read s.rulesPath).toOption := by
    decide +kernel
  have hf : "p/A.java" ∈ (scriptedDisk.findSources s.sourceRoot).1 := by decide +kernel
  have hslots : ∀ suf ∈ Slots.suffixes,
      crowdedDisk.node? ("p/A.java" ++ suf) = scriptedDisk.node? ("p/A.java" ++ suf) := by
    decide +kernel
  have hlive : (s.runOn scriptedDisk).2.node? "p/A.java" =
      some (.file (Utf8.ofString "/**\n * @author x\n */\npublic class A {}\n")) := by
    decide +kernel
  obtain ⟨hfiles, hnodes⟩ := runOn_alike hd hd' rfl rfl rfl hm hscript hf hslots
  exact ⟨hfiles, (hnodes "" Slots.live_mem).trans hlive⟩

end Settings

end Byline
