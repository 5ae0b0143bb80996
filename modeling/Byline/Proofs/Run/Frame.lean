import Byline.Proofs.Run.Isolation

/-!
# What a run leaves alone

A run changes nothing but the slots of the records that are left after the rules, and no source
comes or goes (`Tagging.findSources_eq`). `Settings.runOn_frame` puts together what a run does to
the disk: which places change, what a live file holds when its entry says that it was written, and
which files keep what they hold.
-/

namespace Byline

/-- The entry of a file that was tagged, be it with a change or without. -/
def ReportEntry.Tagged (e : ReportEntry) : Prop := e.outcome = .changed ∨ e.outcome = .unchanged

instance (e : ReportEntry) : Decidable e.Tagged := inferInstanceAs (Decidable (_ ∨ _))

namespace Record.Fate

variable {r : Record} {mode : Mode} {s : Seat} {b : Utf8.Bytes} {c c' : Cells} {e : ReportEntry}

theorem isFile_live (h : r.Fate mode s b c e c') (hb : c "" = some (.file b)) :
    ∃ b', c' "" = some (.file b') := by
  cases h with
  | written type anchor disposition hnew fits fitsBackup hdiff out =>
    rw [out.live]
    split
    · exact ⟨b, hb⟩
    · exact ⟨_, rfl⟩
  | skipped nothing cleaned temp => exact ⟨b, cleaned.live.trans hb⟩
  | failed p cleared temp => exact ⟨b, cleared.live.trans hb⟩

theorem cells_of_test (h : r.Fate .test s b c e c') :
    c' "" = c "" ∧ c' ".at-save" = c ".at-save" := by
  cases h with
  | written type anchor disposition hnew fits fitsBackup hdiff out => exact ⟨out.live, out.backup⟩
  | skipped nothing cleaned temp => exact ⟨cleaned.live, cleaned.backup⟩
  | failed p cleared temp => exact ⟨cleared.live, by simpa using cleared.backup⟩

/-- A file that is not tagged keeps what it holds; in backup mode its backup stays too. -/
theorem cells_of_not_tagged (h : r.Fate mode s b c e c') (he : ¬ e.Tagged) :
    (e.outcome = .skipped ∨ e.outcome = .failed) ∧ c' "" = c "" ∧
      (mode = .backup → c' ".at-save" = c ".at-save") := by
  cases h with
  | @written n new diff _ type anchor disposition hnew fits fitsBackup hdiff out =>
    refine absurd ?_ he
    cases hempty : diff.isEmpty
    · exact .inl (by simp [report])
    · exact .inr (by simp [report])
  | skipped nothing cleaned temp =>
    refine ⟨.inl rfl, cleaned.live, fun hm => ?_⟩
    rw [cleaned.backup, hm]
    rfl
  | failed p cleared temp =>
    refine ⟨.inr rfl, cleared.live, fun hm => ?_⟩
    rcases cleared.backup with h | ⟨h, -⟩
    · exact h
    · simp [hm] at h

theorem cells_of_tagged (h : r.Fate mode s b c e c') (he : e.Tagged) (hm : mode ≠ .test) :
    ∃ n, r.anchor = some n ∧ e.disposition ≠ .skip ∧
      c' "" = some (.file (Authorship.retag b e.authors n)) ∧
      (mode = .backup → s.Fits ".at-save" ∧ c' ".at-save" = c "") := by
  cases h with
  | @written n new diff _ type anchor disposition hnew fits fitsBackup hdiff out =>
    refine ⟨n, anchor, disposition, ?_, fun hb => ⟨fitsBackup hb, ?_⟩⟩
    · rw [out.live, if_neg hm, hnew]
    · rw [out.backup, if_pos hb]
  | skipped nothing cleaned temp => simp [ReportEntry.Tagged, report] at he
  | failed p cleared temp => simp [ReportEntry.Tagged, report] at he

end Record.Fate

namespace Tagging

variable {s : Settings} {d : Disk} {act : Record → Option Record} {f : String} {r : Record}

theorem exists_of_nodeAt?_ne (t : Tagging s d act) {p : List String}
    (h : (s.runOn d).2.root.nodeAt? p ≠ d.root.nodeAt? p) : ∃ r ∈ s.keptRecords d act,
      ∃ suf ∈ Slots.suffixes, (t.seat r).Fits suf ∧ p = (t.seat r).place suf := by
  by_contra hno
  refine h (t.elsewhere p fun r hr suf hs hf he => hno ⟨r, hr, suf, hs, hf, he⟩)

/-- Files with a source name stand where they stood. -/
theorem isFile_iff (t : Tagging s d act) (dir : List String) {name : String}
    (hname : Tree.isSourceName name = true) :
    (∃ b, d.root.nodeAt? (dir ++ [name]) = some (.file b)) ↔
      ∃ b, (s.runOn d).2.root.nodeAt? (dir ++ [name]) = some (.file b) := by
  by_cases h : (s.runOn d).2.root.nodeAt? (dir ++ [name]) = d.root.nodeAt? (dir ++ [name])
  · rw [h]
  · obtain ⟨r, hr, suf, hs, hf, he⟩ := t.exists_of_nodeAt?_ne h
    have ho := t.origin r hr
    obtain rfl := Seat.suffix_eq_empty ho.isSource hs hname he
    obtain ⟨b', hb'⟩ := (t.fate r hr).isFile_live ho.live
    rw [he]
    exact iff_of_true ⟨_, ho.live⟩ ⟨b', (t.ends r hr "" hs hf).trans hb'⟩

theorem findSources_eq (t : Tagging s d act) (hd : d.root.Proper) (base : String) :
    ((s.runOn d).2.findSources base).1 = (d.findSources base).1 :=
  Disk.findSources_congr hd t.proper t.sameDirs (fun dir _ hname => t.isFile_iff dir hname) base

theorem eq_entry (t : Tagging s d act) (hd : d.root.Proper) (hk : Script.Keeps act)
    (hr : r ∈ s.keptRecords d act) {e : ReportEntry} (he : e ∈ (s.runOn d).1.files)
    (hpath : e.path = r.path) : e = t.entry r := by
  have h : e ∈ (s.runOn d).1.files.filter (·.path == r.path) :=
    List.mem_filter.2 ⟨he, by simpa using hpath⟩
  rw [t.filter_files hd hk hr] at h
  exact List.mem_singleton.1 h

theorem entry_mem (t : Tagging s d act) (hr : r ∈ s.keptRecords d act) :
    t.entry r ∈ (s.runOn d).1.files := by
  rw [t.files]
  exact List.mem_map_of_mem hr

end Tagging

namespace Settings

variable {s : Settings} {d : Disk}

/-- The run tagged the source: it has an entry that says so, the live file holds its old octets with
the authors of the entry before the anchor that the analysis found, and in backup mode its backup
holds the old octets. -/
def Tags (s : Settings) (d : Disk) (f : String) : Prop :=
  ∃ e ∈ (s.runOn d).1.files, ∃ b a n, e.path = f ∧ e.Tagged ∧ e.disposition ≠ .skip ∧
    d.read f = .ok b ∧ Source.analyzeBytes b (Path.stem f) = some a ∧ a.anchor = some n ∧
    (s.runOn d).2.read f = .ok (Authorship.retag b e.authors n) ∧
    (s.mode = .backup → (s.runOn d).2.read (f ++ ".at-save") = .ok b)

/-- The run did not tag the source, and the live file is as it was. -/
def Spares (s : Settings) (d : Disk) (f : String) : Prop :=
  (∀ e ∈ (s.runOn d).1.files, e.path = f → e.outcome = .skipped ∨ e.outcome = .failed) ∧
    (s.runOn d).2.node? f = d.node? f

/-- What a run does to a disk, and what it leaves alone. -/
structure Frame (s : Settings) (d : Disk) : Prop where
  /-- The report has an entry for each record that is left after the rules. -/
  entries : (s.runOn d).1.files.map (·.path) = (s.collection d).map (·.path)
  /-- Only slots of these records change, and they are of sources. -/
  changed : ∀ p, (s.runOn d).2.root.nodeAt? p ≠ d.root.nodeAt? p →
    ∃ r ∈ s.collection d, r.path ∈ (d.findSources s.sourceRoot).1 ∧
      ∃ suf ∈ Slots.suffixes, d.locate (r.path ++ suf) = .ok p
  sources : ((s.runOn d).2.findSources s.sourceRoot).1 = (d.findSources s.sourceRoot).1
  /-- In test mode the live files and the backups stay. -/
  test : s.mode = .test → ∀ f ∈ (d.findSources s.sourceRoot).1, ∀ suf ∈ ["", ".at-save"],
    (s.runOn d).2.node? (f ++ suf) = d.node? (f ++ suf)
  live : s.mode ≠ .test → ∀ f ∈ (d.findSources s.sourceRoot).1, s.Tags d f ∨ s.Spares d f

end Settings

namespace Tagging

variable {s : Settings} {d : Disk} {act : Record → Option Record} {f : String} {r : Record}

theorem mem_findSources (t : Tagging s d act) (hd : d.root.Proper)
    (hr : r ∈ s.keptRecords d act) : r.path ∈ (d.findSources s.sourceRoot).1 := by
  obtain ⟨top, ns, hf, -⟩ := (t.origin r hr).found
  exact (Disk.mem_findSources_iff hd).2 ⟨top, ns, hf⟩

theorem node?_of_test (t : Tagging s d act) (hd : d.root.Proper) (hm : s.mode = .test)
    (hf : f ∈ (d.findSources s.sourceRoot).1) {suf : String} (hs : suf ∈ ["", ".at-save"]) :
    (s.runOn d).2.node? (f ++ suf) = d.node? (f ++ suf) := by
  have hmem : suf ∈ Slots.suffixes := (by decide : ["", ".at-save"] ⊆ Slots.suffixes) hs
  rcases s.exists_kept_or d act f with ⟨r, hr, rfl⟩ | hno
  · have hfate := t.fate r hr
    rw [hm] at hfate
    obtain ⟨hlive, hsave⟩ := hfate.cells_of_test
    rw [t.node?_of_kept hr hmem, (t.origin r hr).node? hd hmem]
    rcases List.mem_pair.1 hs with rfl | rfl
    · rw [hlive]
    · rw [hsave]
  · obtain ⟨top, ns, hfound⟩ := (Disk.mem_findSources_iff hd).1 hf
    exact t.node?_eq hfound rfl hno hmem

theorem tags_or_spares (t : Tagging s d act) (hd : d.root.Proper) (hk : Script.Keeps act)
    (hm : s.mode ≠ .test) (hf : f ∈ (d.findSources s.sourceRoot).1) :
    s.Tags d f ∨ s.Spares d f := by
  rcases s.exists_kept_or d act f with ⟨r, hr, rfl⟩ | hno
  · have ho := t.origin r hr
    have hread (suf : String) (hs : suf ∈ Slots.suffixes) := t.node?_of_kept hr hs
    by_cases htag : (t.entry r).Tagged
    · obtain ⟨n, hn, hdisp, hlive, hsave⟩ := (t.fate r hr).cells_of_tagged htag hm
      obtain ⟨a, ha, -, hanchor⟩ := ho.analysis
      refine .inl ⟨t.entry r, t.entry_mem hr, t.bytes r, a, n, t.entry_path hr, htag, hdisp,
        Disk.read_eq_ok.2 (ho.node?_live hd), ha, hanchor ▸ hn, ?_, fun hb => ?_⟩
      · have h := hread "" Slots.live_mem
        rw [String.append_empty, if_pos ho.fits, hlive] at h
        exact Disk.read_eq_ok.2 h
      · obtain ⟨hfit, hcell⟩ := hsave hb
        have h := hread ".at-save" Slots.backup_mem
        rw [if_pos hfit, hcell, ho.live] at h
        exact Disk.read_eq_ok.2 h
    · obtain ⟨hout, hlive, -⟩ := (t.fate r hr).cells_of_not_tagged htag
      refine .inr ⟨fun e he hpath => ?_, ?_⟩
      · rwa [t.eq_entry hd hk hr he hpath]
      · have h := hread "" Slots.live_mem
        rw [String.append_empty, if_pos ho.fits, hlive, ho.live] at h
        rw [h, ho.node?_live hd]
  · obtain ⟨top, ns, hfound⟩ := (Disk.mem_findSources_iff hd).1 hf
    refine .inr ⟨fun e he hpath => ?_, ?_⟩
    · have hnone := t.filter_files_eq_nil hno
      rw [List.filter_eq_nil_iff] at hnone
      exact absurd (by simpa using hpath) (hnone e he)
    · have h := t.node?_eq hfound rfl hno Slots.live_mem
      rwa [String.append_empty] at h

end Tagging

namespace Settings

variable {s : Settings} {d : Disk}

theorem runOn_frame (hd : d.root.Proper) (hm : s.mode ≠ .restore) : s.Frame d := by
  obtain ⟨act, hk, htagging⟩ := exists_tagging (d.read s.rulesPath).toOption
  obtain ⟨t⟩ := htagging s d hd hm rfl
  refine ⟨?_, fun p hp => ?_, t.findSources_eq hd s.sourceRoot,
    fun htest f hf suf hs => t.node?_of_test hd htest hf hs,
    fun hntest f hf => t.tags_or_spares hd hk hntest hf⟩
  · rw [t.files, t.collection, List.map_map]
    exact List.map_congr_left fun r hr => t.entry_path hr
  · obtain ⟨r, hr, suf, hs, hf, rfl⟩ := t.exists_of_nodeAt?_ne hp
    have ho := t.origin r hr
    refine ⟨r, t.collection ▸ hr, t.mem_findSources hd hr, suf, hs, ?_⟩
    rw [← ho.path, ho.seats.locate (Slots.plainSuffix hs), if_pos hf]

theorem runOn_frame_scripted :
    let s : Settings := ⟨"p", "p", ".authors", .backup, none, {}⟩
    scriptedDisk.root.Proper ∧ s.mode ≠ .restore ∧ s.Frame scriptedDisk ∧
      s.Tags scriptedDisk "p/A.java" := by
  intro s
  have hd : scriptedDisk.root.Proper := by decide +kernel
  have hm : s.mode ≠ .restore := by decide
  have hf : "p/A.java" ∈ (scriptedDisk.findSources s.sourceRoot).1 := by decide +kernel
  have htag : ∃ e ∈ (s.runOn scriptedDisk).1.files,
      e.path = "p/A.java" ∧ e.outcome = .changed := by
    decide +kernel
  have hframe := runOn_frame hd hm
  refine ⟨hd, hm, hframe, (hframe.live (by decide) _ hf).resolve_right fun hspared => ?_⟩
  obtain ⟨e, he, hpath, hout⟩ := htag
  rcases hspared.1 e he hpath with h | h
  · simp [hout] at h
  · simp [hout] at h

end Settings

end Byline
