import Byline.Proofs.Run.Process
import Byline.Proofs.Script.Reading
import Byline.Proofs.Script.Records
import Byline.Run.Run

/-!
# What a tagging run comes to

Without a log file, a run reads the sources and the script from the disk at its start, and then
processes the records it kept. `Tagging` holds what such a run comes to: the records kept, where
each has its slots, its entry in the report, and what its slots hold at the end. `exists_tagging`
says that the script's part in it is one effect on each record (`Script.Keeps`), the same for every
disk that has the script.
-/

namespace Byline

/-! ## The stages -/

namespace Journal

variable {j : Journal} {d : Disk}

/-- A journal on a disk, without a log file. -/
structure On (j : Journal) (d : Disk) : Prop where
  file : j.file = none
  disk : j.disk = d

theorem On.addLog (h : j.On d) (log : Log) : (j.addLog log).On d :=
  ⟨(file_addLog j log).trans h.file, (disk_addLog h.file log).trans h.disk⟩

theorem On.note (h : j.On d) (level : Level) (message : String) : (j.note level message).On d :=
  h.addLog _

end Journal

namespace Record

variable {r r' : Record} {d : Disk}

theorem analyze_eq_ok (h : r.analyze d = .ok r') : ∃ b a, d.read r.path = .ok b ∧
    Source.analyzeBytes b (Path.stem r.path) = some a ∧ r' = r.take a := by
  rw [analyze] at h
  cases hb : d.read r.path with
  | error c => simp [hb] at h
  | ok b =>
    cases ha : Source.analyzeBytes b (Path.stem r.path) with
    | none => simp [hb, ha] at h
    | some a =>
      rw [hb] at h
      simp only [ha] at h
      exact ⟨b, a, rfl, ha, (Except.ok.inj h).symm⟩

theorem foldl_addFound (r : Record) (names : List String) :
    names.foldl addFound r = { r with authors := names.foldl Names.add r.authors } := by
  induction names generalizing r with
  | nil => rfl
  | cons name names ih => rw [List.foldl_cons, ih]; rfl

theorem take_path (r : Record) (a : Source.Analysis) : (r.take a).path = r.path := by
  rw [take, foldl_addFound]
  rfl

theorem take_typeName (r : Record) (a : Source.Analysis) :
    (r.take a).typeName = r.typeName.or (some a.typeName) := by
  rw [take, foldl_addFound]
  rfl

theorem take_anchor (r : Record) (a : Source.Analysis) : (r.take a).anchor = a.anchor := rfl

theorem intake_spec (r : Record) {j : Journal} (h : j.On d) :
    (r.intake j).1 = r.analyze d ∧ (r.intake j).2.On d := by
  have h₁ := h.note .trace ("Analyzing .java file: " ++ r.path)
  rw [intake, h₁.disk]
  cases r.analyze d with
  | ok r' => exact ⟨rfl, h₁.addLog _⟩
  | error p => exact ⟨rfl, h₁.note _ _⟩

end Record

namespace Records

/-- The records with the findings in their files. Those without a type are left out. -/
def analyzed (d : Disk) (rs : List Record) : Records := rs.filterMap fun r => (r.analyze d).toOption

/-- Records are taken in on the disk as it is, and those that are left out are counted. -/
theorem intakeEach_spec {d : Disk} (rs : List Record) {j : Journal} (h : j.On d) :
    ∃ discarded j', intakeEach rs j = (analyzed d rs, discarded, j') ∧
      (analyzed d rs).length + discarded = rs.length ∧ j'.On d := by
  induction rs generalizing j with
  | nil => exact ⟨0, j, rfl, rfl, h⟩
  | cons r rs ih =>
    obtain ⟨hr, h₁⟩ := r.intake_spec h
    rcases hi : r.intake j with ⟨result, j₁⟩
    rw [hi] at hr h₁
    obtain ⟨discarded, j', hrest, hcount, h₂⟩ := ih h₁
    rw [intakeEach, hi, analyzed, List.filterMap_cons, ← hr]
    simp only [hrest]
    cases result with
    | ok r' =>
      refine ⟨discarded, j', rfl, ?_, h₂⟩
      change (analyzed d rs).length + 1 + discarded = rs.length + 1
      omega
    | error p =>
      refine ⟨discarded + 1, j', rfl, ?_, h₂⟩
      change (analyzed d rs).length + (discarded + 1) = rs.length + 1
      omega

end Records

namespace Script

variable {path : String} {d : Disk} {j : Journal} {b : Utf8.Bytes}

theorem load_of_not_read (rs : Records) (h : j.On d) (hs : (d.read path).toOption = none) :
    ∃ p, load path rs j = (rs, .error p, j) := by
  rw [load, h.disk]
  cases ht : d.lookup path with
  | error c => exact ⟨_, rfl⟩
  | ok t =>
    cases t with
    | dir es => exact ⟨_, rfl⟩
    | file b =>
      rw [Disk.read, ht] at hs
      simp [bind, Except.bind, Disk.content, Except.toOption] at hs

theorem load_of_read (rs : Records) (h : j.On d) (hh : d.held = none) (hb : d.read path = .ok b) :
    load path rs j = ((runOctets b rs).1.records,
      if (runOctets b rs).2.2 then .ok (runOctets b rs).1.stats
        else .error (.unreadableScript path .invalidText),
      j.addLog (runOctets b rs).2.1) := by
  refine load_of_not_held rs ?_ (h.disk ▸ hb)
  simp [h.disk, Disk.isHeld, hh]

/-- A script that is loaded has one effect on each record; where there is none, it has no effect. -/
theorem exists_act_load (script : Option Utf8.Bytes) : ∃ act, Keeps act ∧
    ∀ (path : String) (rs : Records) (d : Disk) (j : Journal), j.On d → d.held = none →
      (d.read path).toOption = script →
        (load path rs j).1 = rs.filterMap act ∧ (load path rs j).2.2.On d := by
  cases script with
  | none =>
    refine ⟨some, Keeps.some, fun path rs d j h hh hs => ?_⟩
    obtain ⟨p, hload⟩ := load_of_not_read rs h hs
    rw [hload, List.filterMap_some]
    exact ⟨rfl, h⟩
  | some b =>
    obtain ⟨act, hk, hact⟩ := exists_act_runOctets b
    refine ⟨act, hk, fun path rs d j h hh hs => ?_⟩
    rw [load_of_read rs h hh (toOption_eq_some.1 hs)]
    exact ⟨(hact rs).1, h.addLog _⟩

end Script

namespace Settings

variable {s : Settings} {d : Disk}

/-- A run without a log file: its report, and the disk after it. -/
def runOn (s : Settings) (d : Disk) : Report × Disk :=
  ((s.run { disk := d.release }).1, (s.run { disk := d.release }).2.disk)

/-- The records of the sources, before they are taken in. -/
def sourceRecords (s : Settings) (d : Disk) : List Record :=
  (d.findSources s.sourceRoot).1.map fun f => { path := f }

theorem mem_sourceRecords {r : Record} : r ∈ s.sourceRecords d ↔
    ∃ f ∈ (d.findSources s.sourceRoot).1, { path := f } = r := List.mem_map

theorem map_path_sourceRecords (s : Settings) (d : Disk) :
    (s.sourceRecords d).map (·.path) = (d.findSources s.sourceRoot).1 := by
  rw [sourceRecords, List.map_map]
  exact List.map_id _

/-- The records that are left after the rules. -/
def collection (s : Settings) (d : Disk) : Records :=
  (Script.load s.rulesPath (Records.analyzed d (s.sourceRecords d)) { disk := d.release }).1

/-- The records that a script with that effect leaves. -/
def keptRecords (s : Settings) (d : Disk) (act : Record → Option Record) : Records :=
  (Records.analyzed d (s.sourceRecords d)).filterMap act

/-- The stages of a tagging run: the records are taken in, the script acts on them, and those it
leaves are processed. -/
theorem runTagging_stages (s : Settings) (rs : List Record) {j : Journal} (h : j.On d) :
    ∃ discarded j₁ log, j₁.On d ∧ (Records.analyzed d rs).length + discarded = rs.length ∧
      s.runTagging rs j =
        let loaded := Script.load s.rulesPath (Records.analyzed d rs) j₁
        let stats := loaded.2.1.toOption
        let out := Records.processAll s.mode loaded.1
          ((loaded.2.2.addLog log).note .info "Writing to disk")
        (s.makeReport stats
          { enumerated := rs.length
            analyzed := (Records.analyzed d rs).length
            discarded := discarded
            skippedByRules := (stats.map (·.skipped)).getD 0
            changed := countOutcome .changed out.1
            unchanged := countOutcome .unchanged out.1
            skipped := countOutcome .skipped out.1
            failed := countOutcome .failed out.1 } out.1, out.2) := by
  have h₀ := h.note .info ("Analyzing " ++ toString rs.length ++ " .java files")
  obtain ⟨discarded, j₁, hin, hcount, h₁⟩ := Records.intakeEach_spec rs
    (h₀.note .debug ("Analyzing " ++ toString rs.length ++ " .java files"))
  refine ⟨discarded, _, ?log, h₁.note .info "Reading rule script and tagging (in memory)", hcount,
    ?run⟩
  case run =>
    rw [runTagging, Records.intakeAll]
    simp only [hin]
    rfl

/-- Without a log file the records are those that the script leaves, and the disk is as it was when
they are processed. -/
theorem runTagging_spec (s : Settings) (rs : List Record) {j : Journal} (h : j.On d)
    {act : Record → Option Record}
    (hact : ∀ (rs : Records) (j : Journal), j.On d →
      (Script.load s.rulesPath rs j).1 = rs.filterMap act ∧
        (Script.load s.rulesPath rs j).2.2.On d) :
    ∃ j₁ : Journal, j₁.On d ∧
      (s.runTagging rs j).1.files =
        (Records.processAll s.mode ((Records.analyzed d rs).filterMap act) j₁).1 ∧
      (s.runTagging rs j).2 =
        (Records.processAll s.mode ((Records.analyzed d rs).filterMap act) j₁).2 := by
  obtain ⟨discarded, j₁, log, h₁, -, hrun⟩ := s.runTagging_stages rs h
  obtain ⟨hload, h₂⟩ := hact (Records.analyzed d rs) j₁ h₁
  rw [hrun, ← hload]
  exact ⟨_, (h₂.addLog log).note .info "Writing to disk", rfl, rfl⟩

/-- A run takes its sources from the disk at its start. -/
theorem exists_run_eq (s : Settings) (d : Disk) : ∃ j : Journal, j.On d.release ∧
    s.run { disk := d.release } =
      let result := if s.mode = .restore then s.runRestore (s.sourceRecords d) j
        else s.runTagging (s.sourceRecords d) j
      (result.1, result.2.note .info "Done!") := by
  have h₀ : Journal.On { disk := d.release } d.release := ⟨rfl, rfl⟩
  have h₁ := (h₀.note .info ("Author tagging running in " ++ s.mode.display ++ " mode")).note .info
    ("Enumerating .java files in directory: " ++ s.sourceRoot)
  refine ⟨_, h₁.addLog (d.findSources s.sourceRoot).2, ?_⟩
  have henum : d.release.enumerate s.sourceRoot =
    (s.sourceRecords d, (d.findSources s.sourceRoot).2) := rfl
  rw [run]
  simp only [h₁.disk, henum]

theorem exists_runOn_eq (hm : s.mode ≠ .restore) {act : Record → Option Record}
    (hact : ∀ (rs : Records) (j : Journal), j.On d.release →
      (Script.load s.rulesPath rs j).1 = rs.filterMap act ∧
        (Script.load s.rulesPath rs j).2.2.On d.release) :
    ∃ j : Journal, j.On d.release ∧
      (s.runOn d).1.files = (Records.processAll s.mode (s.keptRecords d act) j).1 ∧
      ((Records.processAll s.mode (s.keptRecords d act) j).2.file = none →
        (s.runOn d).2 = (Records.processAll s.mode (s.keptRecords d act) j).2.disk) := by
  obtain ⟨j, hj, hrun⟩ := s.exists_run_eq d
  rw [if_neg hm] at hrun
  obtain ⟨j₁, hj₁, hfiles, hend⟩ := s.runTagging_spec (s.sourceRecords d) hj hact
  rw [runOn, hrun]
  refine ⟨j₁, hj₁, hfiles, fun hfile => ?_⟩
  change ((s.runTagging (s.sourceRecords d) j).2.note .info "Done!").disk = _
  rw [hend]
  exact Journal.disk_addLog hfile _

end Settings

/-- Where a record that is kept comes from: the source at its path has a seat, holds these octets,
and they have the record's type and anchor. -/
structure Origin (d : Disk) (base : String) (r : Record) (s : Seat) (b : Utf8.Bytes) : Prop
    extends d.SourceSeat base r.path s where
  fits : s.Fits ""
  live : d.cells s "" = some (.file b)
  analysis : ∃ a, Source.analyzeBytes b (Path.stem r.path) = some a ∧
    r.typeName = some a.typeName ∧ r.anchor = a.anchor

namespace Origin

variable {d : Disk} {base : String} {r r' : Record} {s : Seat} {b : Utf8.Bytes}

theorem of_keeps (h : Origin d base r s b) {act : Record → Option Record} (hk : Script.Keeps act)
    (hr : act r = some r') : Origin d base r' s b := by
  obtain ⟨hpath, htype, hanchor⟩ := hk r r' hr
  obtain ⟨a, ha, ht, hn⟩ := h.analysis
  exact ⟨hpath ▸ h.toSourceSeat, h.fits, h.live, a, hpath ▸ ha, htype.trans ht, hanchor.trans hn⟩

end Origin

/-- A source that is taken in can be read at its seat. -/
theorem exists_origin {d : Disk} {base f : String} {r : Record} (hd : d.root.Proper)
    (hf : f ∈ (d.findSources base).1) (h : Record.analyze d { path := f } = .ok r) :
    ∃ s b, Origin d base r s b := by
  obtain ⟨b, a, hb, ha, rfl⟩ := Record.analyze_eq_ok h
  obtain ⟨top, ns, hfound⟩ := (Disk.mem_findSources_iff hd).1 hf
  obtain ⟨q, hq, hnode, -⟩ := Disk.node?_eq_some.1 (Disk.read_eq_ok.1 hb)
  have hq' : d.locate (f ++ "") = .ok q := by rwa [String.append_empty]
  obtain ⟨s, hs, -⟩ := hfound.exists_seat (by decide) hq'
  obtain ⟨hfits, rfl⟩ := hs.eq_place (by decide) hq'
  have hr : (Record.take { path := f } a).path = f := Record.take_path _ a
  exact ⟨s, b, by rwa [hr], hfits, hnode, a, by rwa [hr], Record.take_typeName _ a,
    Record.take_anchor _ a⟩

theorem map_filterMap_sublist {α β γ : Type} {f : α → Option β} {p : β → γ} {q : α → γ}
    (h : ∀ x y, f x = some y → p y = q x) (l : List α) :
    ((l.filterMap f).map p).Sublist (l.map q) := by
  induction l with
  | nil => exact List.Sublist.refl _
  | cons x l ih =>
    cases hx : f x with
    | none =>
      rw [List.filterMap_cons_none hx]
      exact ih.trans (List.sublist_cons_self _ _)
    | some y =>
      rw [List.filterMap_cons_some hx, List.map_cons, List.map_cons, h x y hx]
      exact ih.cons_cons _

/-- What a run that is no restoration comes to, where the script has that effect on records. -/
structure Tagging (s : Settings) (d : Disk) (act : Record → Option Record) where
  seat : Record → Seat
  bytes : Record → Utf8.Bytes
  entry : Record → ReportEntry
  cells : Record → Cells
  collection : s.collection d = s.keptRecords d act
  origin : ∀ r ∈ s.keptRecords d act, Origin d s.sourceRoot r (seat r) (bytes r)
  apart : (s.keptRecords d act).Pairwise fun r r' => (seat r).Apart (seat r')
  yields : ∀ r ∈ s.keptRecords d act, Yields (seat r) (fun j => (r.process s.mode j).2)
    (d.cells (seat r)) (entry r) (cells r)
  fate : ∀ r ∈ s.keptRecords d act,
    r.Fate s.mode (seat r) (bytes r) (d.cells (seat r)) (entry r) (cells r)
  files : (s.runOn d).1.files = (s.keptRecords d act).map entry
  proper : (s.runOn d).2.root.Proper
  sameDirs : d.SameDirs (s.runOn d).2
  elsewhere : ∀ p,
    (∀ r ∈ s.keptRecords d act, ∀ suf ∈ Slots.suffixes, (seat r).Fits suf →
      p ≠ (seat r).place suf) → (s.runOn d).2.root.nodeAt? p = d.root.nodeAt? p
  ends : ∀ r ∈ s.keptRecords d act, ∀ suf ∈ Slots.suffixes, (seat r).Fits suf →
    (s.runOn d).2.cells (seat r) suf = cells r suf

namespace Settings

variable {s : Settings} {d : Disk} {act : Record → Option Record}

/-- They are of sources, in the order of these. -/
theorem keptRecords_sublist (s : Settings) (d : Disk) (hk : Script.Keeps act) :
    ((s.keptRecords d act).map (·.path)).Sublist (d.findSources s.sourceRoot).1 := by
  have hanalyze (r r' : Record) (h : (r.analyze d).toOption = some r') : r'.path = r.path := by
    obtain ⟨-, a, -, -, rfl⟩ := Record.analyze_eq_ok (toOption_eq_some.1 h)
    exact r.take_path a
  rw [keptRecords, ← s.map_path_sourceRecords d]
  exact (map_filterMap_sublist (fun r r' h => (hk r r' h).1) _).trans
    (map_filterMap_sublist hanalyze _)

theorem mem_keptRecords {r : Record} : r ∈ s.keptRecords d act ↔
    ∃ f ∈ (d.findSources s.sourceRoot).1,
      ∃ r₁, Record.analyze d { path := f } = .ok r₁ ∧ act r₁ = some r := by
  simp only [keptRecords, Records.analyzed, List.mem_filterMap, mem_sourceRecords, toOption_eq_some]
  constructor
  · rintro ⟨r₁, ⟨-, ⟨f, hf, rfl⟩, ha⟩, hact⟩
    exact ⟨f, hf, r₁, ha, hact⟩
  · rintro ⟨f, hf, r₁, ha, hact⟩
    exact ⟨r₁, ⟨_, ⟨f, hf, rfl⟩, ha⟩, hact⟩

theorem exists_kept_or (s : Settings) (d : Disk) (act : Record → Option Record) (f : String) :
    (∃ r ∈ s.keptRecords d act, r.path = f) ∨ ∀ r ∈ s.keptRecords d act, r.path ≠ f := by
  by_cases h : ∃ r ∈ s.keptRecords d act, r.path = f
  · exact .inl h
  · exact .inr fun r hr he => h ⟨r, hr, he⟩

theorem exists_origin_of_mem (hd : d.root.Proper) (hk : Script.Keeps act) {r : Record}
    (hr : r ∈ s.keptRecords d act) : ∃ seat b, Origin d s.sourceRoot r seat b := by
  obtain ⟨f, hf, r₁, ha, hact⟩ := mem_keptRecords.1 hr
  obtain ⟨seat, b, ho⟩ := exists_origin hd hf ha
  exact ⟨seat, b, ho.of_keeps hk hact⟩

/-- A script has one effect on each record, the same on all disks that have the script at its path;
with it, a run that is no restoration comes to a `Tagging`. -/
theorem exists_tagging (script : Option Utf8.Bytes) : ∃ act, Script.Keeps act ∧
    ∀ (s : Settings) (d : Disk), d.root.Proper → s.mode ≠ .restore →
      (d.read s.rulesPath).toOption = script → Nonempty (Tagging s d act) := by
  obtain ⟨act, hk, hload⟩ := Script.exists_act_load script
  refine ⟨act, hk, fun s d hd hm hs => ?_⟩
  have : Nonempty Seat := ⟨⟨"", [], ""⟩⟩
  have : Nonempty ReportEntry := ⟨Record.report { path := "" } .failed⟩
  -- Each record that is kept has a seat, and one fate there.
  have horigin (r : Record) : r ∈ s.keptRecords d act → ∃ seat b,
    Origin d s.sourceRoot r seat b := exists_origin_of_mem hd hk
  choose! seat bytes ho using horigin
  have hyields (r : Record) (hr : r ∈ s.keptRecords d act) :=
    Record.yields_process (ho r hr).path.symm hm (ho r hr).fits (ho r hr).live
  choose! entry cells hy hfate using hyields
  have hpaths : ((s.keptRecords d act).map (·.path)).Nodup :=
    (keptRecords_sublist s d hk).nodup (Disk.nodup_findSources hd _)
  have hapart : (s.keptRecords d act).Pairwise fun r r' => (seat r).Apart (seat r') := by
    refine (List.pairwise_map.1 hpaths).imp_of_mem ?_
    intro r r' hr hr' hne
    exact (ho r hr).apart (ho r' hr').toSourceSeat hne
  have hcollection : s.collection d = s.keptRecords d act :=
    (hload s.rulesPath _ d.release _ ⟨rfl, rfl⟩ rfl hs).1
  obtain ⟨j, hj, hfiles, hdisk⟩ := exists_runOn_eq (d := d) hm fun rs j hj =>
    hload s.rulesPath rs d.release j hj rfl hs
  -- As the seats are apart, the loop does to each record what is done to it alone.
  obtain ⟨j', hloop, hj', hproper, hdirs, helse, hends⟩ := Records.inOrder_spec hj.file
    (by rw [hj.disk]; exact hd)
    (fun r hr (_ : True) => by rw [hj.disk]; exact (ho r hr).seats.of_dirs rfl fun _ hp => hp)
    (hapart.imp fun h _ _ => h) (fun r hr _ => by rw [hj.disk]; exact hy r hr)
    fun r hr h => absurd trivial h
  rw [Records.processAll_eq, hloop] at hfiles hdisk
  have hend : (s.runOn d).2 = j'.disk := hdisk hj'
  rw [hj.disk] at hdirs helse
  refine ⟨⟨seat, bytes, entry, cells, hcollection, ho, hapart, hy, hfate, hfiles, ?_, ?_, ?_, ?_⟩⟩
  · rwa [hend]
  · rw [hend]
    exact ⟨hdirs.home, hdirs.dirs⟩
  · rw [hend]
    intro p hp
    exact helse p fun r hr _ => hp r hr
  · rw [hend]
    intro r hr
    exact hends r hr trivial

end Settings

end Byline
