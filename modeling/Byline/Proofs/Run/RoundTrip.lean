import Byline.Proofs.Authorship.Failure
import Byline.Proofs.Run.Frame

/-!
# Restoring after a run with backups

A restoration puts a backup into the place of every source that has one, be it of the run before or
of an earlier run (`Restoration.nodeAt?_eq`). So after a run with backups it gives the sources back
that the run tagged. A source that the run did not tag keeps what it holds only if no backup of an
earlier run stands beside it (`Settings.runOn_restore_runOn`). All this is for trees where no backup
is a directory. One that is a directory is put back too, over a source that could not be tagged
(`Settings.runOn_restore_runOn_dirBackup`).
-/

namespace Byline

namespace Record

variable {r : Record} {s : Seat} {c : Cells}

theorem write_restore (r : Record) : r.write .restore = (Slots.of r.path).restore := by
  rw [write, if_pos rfl]

/-- Restoring a record hangs on its slots alone. -/
theorem yields_restore (hp : r.path = s.path) (hc : c ".at-save" ≠ some .dir) :
    ∃ e c', Yields s r.restore c e c' ∧ ∃ res, Slots.Restores s c res c' := by
  obtain ⟨res, c', hrun, hends⟩ := Slots.runs_restore hc
  rw [← hp, ← r.write_restore] at hrun
  cases hends with
  | restored fits backup live gone temp test =>
    refine ⟨r.report .restored, c', fun j hj hc => ?_, _, .restored fits backup live gone temp test⟩
    obtain ⟨j', hw, hend⟩ := hrun j hj hc
    exact ⟨j', by rw [restore, hw]; rfl, hend⟩
  | nothing h =>
    refine ⟨r.report .nothingToRestore, c, fun j hj hc => ?_, _, .nothing h⟩
    obtain ⟨j', hw, hend⟩ := hrun j hj hc
    exact ⟨j', by rw [restore, hw]; rfl, hend⟩
  | failed p h =>
    refine ⟨{ r.report .failed with error := some p.fullMessage }, c, fun j hj hc => ?_, _,
      .failed p h⟩
    obtain ⟨j', hw, hj', hc', honly⟩ := hrun j hj hc
    have hdisk : (j'.note .error p.fullMessage).disk = j'.disk := Journal.disk_addLog hj' _
    refine ⟨j'.note .error p.fullMessage, by rw [restore, hw]; rfl,
      (Journal.file_addLog j' _).trans hj', ?_, ?_⟩
    · rwa [hdisk]
    · rwa [hdisk]

/-- The path of its backup can be followed. -/
def ReachesBackup (r : Record) (d : Disk) : Prop := ∃ q, d.locate (r.path ++ ".at-save") = .ok q

theorem restore_of_not_reachesBackup {j : Journal} (h : ¬ r.ReachesBackup j.disk) :
    r.restore j = (r.report .nothingToRestore, j) := by
  have hhas : j.disk.has (Slots.of r.path).backup = false := by
    rw [show (Slots.of r.path).backup = r.path ++ ".at-save" from rfl, Disk.has, Disk.lookup]
    cases hq : j.disk.locate (r.path ++ ".at-save") with
    | error c => rfl
    | ok q => exact absurd ⟨q, hq⟩ h
  have hw : (Slots.of r.path).restore j = .ok .nothingToRestore j := by
    change (if (!j.disk.has (Slots.of r.path).backup) = true then _ else _ : Work Written) j = _
    rw [hhas]
    rfl
  rw [restore, write_restore, hw]

end Record

theorem Slots.Restores.live_eq {s : Seat} {c c' : Cells} {res : Except Problem Written}
    {b : Utf8.Bytes} (h : Slots.Restores s c res c') (hb : c "" = some (.file b))
    (hf : s.Fits ".at-save") :
    (∃ b', c ".at-save" = some (.file b') ∧ c' "" = some (.file b')) ∨
      c ".at-save" = none ∧ c' "" = some (.file b) := by
  cases h with
  | @restored b' _ fits backup live gone temp test => exact .inl ⟨b', backup, live⟩
  | nothing h => exact .inr ⟨h hf, hb⟩
  | failed p h => simp [h] at hb

/-- What a restoration comes to. Nothing is done to a record if the path of its backup cannot be
followed. -/
structure Restoration (s : Settings) (d : Disk) where
  seat : Record → Seat
  cells : Record → Cells
  source : ∀ r ∈ s.sourceRecords d, r.ReachesBackup d →
    d.SourceSeat s.sourceRoot r.path (seat r) ∧ (seat r).Fits ".at-save"
  restores : ∀ r ∈ s.sourceRecords d, r.ReachesBackup d →
    ∃ res, Slots.Restores (seat r) (d.cells (seat r)) res (cells r)
  elsewhere : ∀ p, (∀ r ∈ s.sourceRecords d, r.ReachesBackup d →
    ∀ suf ∈ Slots.suffixes, (seat r).Fits suf → p ≠ (seat r).place suf) →
    (s.runOn d).2.root.nodeAt? p = d.root.nodeAt? p
  ends : ∀ r ∈ s.sourceRecords d, r.ReachesBackup d → ∀ suf ∈ Slots.suffixes,
    (seat r).Fits suf → (s.runOn d).2.cells (seat r) suf = cells r suf

namespace Settings

variable {s : Settings} {d : Disk}

theorem exists_runOn_eq_restoreAll (hm : s.mode = .restore) : ∃ j : Journal, j.On d.release ∧
    ((Records.restoreAll (s.sourceRecords d) j).2.file = none →
      (s.runOn d).2 = (Records.restoreAll (s.sourceRecords d) j).2.disk) := by
  obtain ⟨j, hj, hrun⟩ := s.exists_run_eq d
  rw [if_pos hm] at hrun
  refine ⟨_, hj.note .info "Restoring backup files", fun hfile => ?_⟩
  rw [runOn, hrun]
  exact Journal.disk_addLog hfile _

theorem exists_seat_of_reachesBackup (hd : d.root.Proper) {r : Record}
    (hr : r ∈ s.sourceRecords d) (hq : r.ReachesBackup d) :
    ∃ seat, d.SourceSeat s.sourceRoot r.path seat ∧ seat.Fits ".at-save" := by
  obtain ⟨q, hq⟩ := hq
  obtain ⟨f, hf, rfl⟩ := mem_sourceRecords.1 hr
  obtain ⟨top, ns, hfound⟩ := (Disk.mem_findSources_iff hd).1 hf
  have hsave : PlainSuffix ".at-save" := Slots.plainSuffix Slots.backup_mem
  obtain ⟨seat, hs, -⟩ := hfound.exists_seat hsave hq
  exact ⟨seat, hs, (hs.eq_place hsave hq).1⟩

/-- Restoring a source hangs on its slots alone, unless its backup is a directory. -/
theorem exists_yields_restore (hd : d.root.Proper) {r : Record} {seat : Seat}
    (hno : d.node? (r.path ++ ".at-save") ≠ some .dir)
    (hs : d.SourceSeat s.sourceRoot r.path seat) (hfits : seat.Fits ".at-save") :
    ∃ e c', Yields seat r.restore (d.cells seat) e c' ∧
      ∃ res, Slots.Restores seat (d.cells seat) res c' := by
  have hn := (Disk.holds_cells hd hs.seats).node? Slots.backup_mem
  rw [if_pos hfits, hs.path] at hn
  exact Record.yields_restore hs.path.symm (hn ▸ hno)

/-- The backup of the only source is put back, be it a file or a directory. -/
theorem putBack_runOn (hd : d.root.Proper) (hm : s.mode = .restore) {f : String}
    (hsources : (d.findSources s.sourceRoot).1 = [f]) {b : Utf8.Bytes}
    (hb : d.node? f = some (.file b)) (hhas : d.has (f ++ ".at-save") = true) :
    (Slots.of f).PutBack d.release (s.runOn d).2 := by
  obtain ⟨j, hj, hend⟩ := exists_runOn_eq_restoreAll (d := d) hm
  obtain ⟨res, j', hw, hj', rfl, hput⟩ :=
    Slots.leads_restore_of_has (d := d.release) hd hb hhas j hj.file hj.disk
  have hrestore : Record.restore { path := f } j = (Record.report { path := f } .restored, j') := by
    rw [Record.restore, Record.write_restore, hw]
    rfl
  have hall : (Records.restoreAll (s.sourceRecords d) j).2 = j' := by
    rw [sourceRecords, hsources, List.map_singleton, Records.restoreAll, hrestore]
    rfl
  rw [hall] at hend
  rwa [hend hj']

/-- What stands in the place of the backup of the only source is then where the source was. -/
theorem nodeAt?_of_backup (hd : d.root.Proper) (hm : s.mode = .restore) {f : String}
    (hsources : (d.findSources s.sourceRoot).1 = [f]) {top ns : List String}
    (hf : d.FoundAt s.sourceRoot f top ns) {n : Node}
    (hsave : d.node? (f ++ ".at-save") = some n) :
    (s.runOn d).2.root.nodeAt? (top ++ ns) = some n := by
  have hsuffix : PlainSuffix ".at-save" := Slots.plainSuffix Slots.backup_mem
  obtain ⟨b, hb⟩ := hf.isFile
  obtain ⟨q, hq, hqnode, -⟩ := Disk.node?_eq_some.1 hsave
  obtain ⟨seat, hs, hplace⟩ := hf.exists_seat hsuffix hq
  have hfits : seat.Fits "" := (hs.eq_place hsuffix hq).1.live
  have hlocate : d.locate f = .ok (top ++ ns) := by
    have hl := hs.seats.locate (Slots.plainSuffix Slots.live_mem)
    rwa [if_pos hfits, hs.path, String.append_empty, hplace] at hl
  have hnode : d.node? f = some (.file b) := by
    have hn := (Disk.holds_cells hd hs.seats).node? Slots.live_mem
    rwa [if_pos hfits, hs.path, String.append_empty, Disk.cells, hplace, hb] at hn
  have hhas : d.has (f ++ ".at-save") = true :=
    Disk.isSome_node?.symm.trans (congrArg Option.isSome hsave)
  obtain ⟨p, q', hp, hq', hmoved⟩ := (putBack_runOn hd hm hsources hnode hhas).moved
  obtain rfl : top ++ ns = p := Except.ok.inj (hlocate.symm.trans hp)
  obtain rfl : q = q' := Except.ok.inj (hq.symm.trans hq')
  have hthere := hmoved.there []
  rw [List.append_nil, List.append_nil] at hthere
  exact hthere.trans hqnode

/-- A run that is a restoration, on a disk where no backup is a directory. -/
theorem exists_restoration (hd : d.root.Proper) (hm : s.mode = .restore)
    (hno : ∀ f ∈ (d.findSources s.sourceRoot).1, d.node? (f ++ ".at-save") ≠ some .dir) :
    Nonempty (Restoration s d) := by
  have : Nonempty Seat := ⟨⟨"", [], ""⟩⟩
  have : Nonempty ReportEntry := ⟨Record.report { path := "" } .failed⟩
  have hsource (r : Record) : r ∈ s.sourceRecords d → r.ReachesBackup d →
    ∃ seat, d.SourceSeat s.sourceRoot r.path seat ∧ seat.Fits ".at-save" :=
      exists_seat_of_reachesBackup hd
  choose! seat hseat using hsource
  have hstep (r : Record) : r ∈ s.sourceRecords d → ∃ e c',
      (r.ReachesBackup d → Yields (seat r) r.restore (d.cells (seat r)) e c' ∧
        ∃ res, Slots.Restores (seat r) (d.cells (seat r)) res c') ∧
      (¬ r.ReachesBackup d → e = r.report .nothingToRestore) := by
    intro hr
    by_cases hq : r.ReachesBackup d
    · obtain ⟨hs, hfits⟩ := hseat r hr hq
      have hdir : d.node? (r.path ++ ".at-save") ≠ some .dir := by
        obtain ⟨f, hf, rfl⟩ := mem_sourceRecords.1 hr
        exact hno f hf
      obtain ⟨e, c', hyields⟩ := exists_yields_restore hd hdir hs hfits
      exact ⟨e, c', fun _ => hyields, fun h => absurd hq h⟩
    · exact ⟨_, d.cells (seat r), fun h => absurd h hq, fun _ => rfl⟩
  choose! entry cells hyields hidle using hstep
  have hpaths : ((s.sourceRecords d).map (·.path)).Nodup :=
    s.map_path_sourceRecords d ▸ Disk.nodup_findSources hd _
  have hapart : (s.sourceRecords d).Pairwise fun r r' =>
      r.ReachesBackup d → r'.ReachesBackup d → (seat r).Apart (seat r') := by
    refine (List.pairwise_map.1 hpaths).imp_of_mem ?_
    intro r r' hr hr' hne hq hq'
    exact (hseat r hr hq).1.apart (hseat r' hr' hq').1 hne
  obtain ⟨j, hj, hend⟩ := exists_runOn_eq_restoreAll (d := d) hm
  -- Nothing is done to a record without a seat, whatever was done to the records before it.
  obtain ⟨j', hloop, hj', -, -, helse, hends⟩ := Records.inOrder_spec (f := Record.restore)
    hj.file (by rw [hj.disk]; exact hd)
    (fun r hr (hq : r.ReachesBackup d) => by
      rw [hj.disk]
      exact (hseat r hr hq).1.seats.of_dirs rfl fun _ hp => hp)
    hapart (fun r hr hq => by rw [hj.disk]; exact (hyields r hr hq).1) fun r hr hq j' _ hdirs => by
      rw [hidle r hr hq]
      rw [hj.disk] at hdirs
      exact Record.restore_of_not_reachesBackup fun ⟨q, hl⟩ => hq ⟨q, hdirs.symm.locate hl⟩
  rw [Records.restoreAll_eq, hloop] at hend
  rw [hj.disk] at helse
  have hend : (s.runOn d).2 = j'.disk := hend hj'
  refine ⟨⟨seat, cells, hseat, fun r hr hq => (hyields r hr hq).2, ?_, ?_⟩⟩
  · rw [hend]
    exact helse
  · rw [hend]
    exact hends

end Settings

namespace Restoration

variable {s : Settings} {d : Disk} {f : String} {top ns : List String} {b : Utf8.Bytes}

/-- After a restoration a source holds what its backup held, or what it held if it had none. -/
theorem nodeAt?_eq (t : Restoration s d) (hd : d.root.Proper)
    (hf : d.FoundAt s.sourceRoot f top ns) (hb : d.root.nodeAt? (top ++ ns) = some (.file b)) :
    (s.runOn d).2.root.nodeAt? (top ++ ns) =
      some (.file ((d.read (f ++ ".at-save")).toOption.getD b)) := by
  have hr : { path := f } ∈ s.sourceRecords d :=
    Settings.mem_sourceRecords.2 ⟨f, (Disk.mem_findSources_iff hd).2 ⟨top, ns, hf⟩, rfl⟩
  -- Where the path of the backup is too long, nothing is done, and no backup can be read.
  by_cases hq : Record.ReachesBackup { path := f } d
  · obtain ⟨hs, hfits⟩ := t.source _ hr hq
    obtain ⟨res, hres⟩ := t.restores _ hr hq
    have hplace := hs.place_eq hf hfits.live
    have hend := t.ends _ hr hq "" Slots.live_mem hfits.live
    rw [Disk.cells, hplace] at hend
    have hsave := (Disk.holds_cells hd hs.seats).node? Slots.backup_mem
    rw [if_pos hfits, hs.path] at hsave
    have hlive : d.cells (t.seat { path := f }) "" = some (.file b) := by
      rw [Disk.cells, hplace, hb]
    rcases hres.live_eq hlive hfits with ⟨b', hb', hc⟩ | ⟨hnone, hc⟩
    · rw [hend, hc, Disk.read_eq_ok.2 (hsave.trans hb')]
      rfl
    · have hread : (d.read (f ++ ".at-save")).toOption = none :=
        Disk.toOption_read_eq_none.2 fun b' h => by simp [hsave, hnone] at h
      rw [hend, hc, hread]
      rfl
  · have hread : (d.read (f ++ ".at-save")).toOption = none := by
      refine Disk.toOption_read_eq_none.2 fun b' h => hq ?_
      obtain ⟨q, hl, -⟩ := Disk.node?_eq_some.1 h
      exact ⟨q, hl⟩
    rw [hread, t.elsewhere, hb]
    · rfl
    · intro r hr' hq' suf hs _
      refine (t.source r hr' hq').1.place_ne_found hf (fun he => hq ?_) hs
      obtain ⟨q, hl⟩ := hq'
      exact ⟨q, he ▸ hl⟩

end Restoration

namespace Tagging

variable {s s' : Settings} {d : Disk} {act : Record → Option Record} {f : String}
  {top ns : List String} {r : Record} {b : Utf8.Bytes}

theorem foundAt (t : Tagging s d act) {base : String} (hf : d.FoundAt base f top ns) :
    (s.runOn d).2.FoundAt base f top ns := by
  have hfound := hf
  obtain ⟨init, name, rfl, hname⟩ := hf.exists_concat
  refine { hfound with atTop := t.sameDirs.locate hf.atTop, isFile := ?_ }
  rw [← List.append_assoc]
  refine (t.isFile_iff (top ++ init) hname).1 ?_
  rw [List.append_assoc]
  exact hf.isFile

theorem nodeAt?_of_kept (t : Tagging s d act) (hr : r ∈ s.keptRecords d act)
    (hf : d.FoundAt s.sourceRoot r.path top ns) :
    d.root.nodeAt? (top ++ ns) = some (.file (t.bytes r)) ∧
      (s.runOn d).2.root.nodeAt? (top ++ ns) = t.cells r "" := by
  have ho := t.origin r hr
  rw [← ho.toSourceSeat.place_eq hf ho.fits]
  exact ⟨ho.live, t.ends r hr "" Slots.live_mem ho.fits⟩

/-- A source that is not tagged keeps what it holds, and its backup. -/
theorem keeps_of_not_tagged (t : Tagging s d act) (hd : d.root.Proper) (hm : s.mode = .backup)
    (hf : d.FoundAt s.sourceRoot f top ns)
    (hnot : ∀ e ∈ (s.runOn d).1.files, e.path = f → ¬ e.Tagged) :
    (s.runOn d).2.root.nodeAt? (top ++ ns) = d.root.nodeAt? (top ++ ns) ∧
      (s.runOn d).2.node? (f ++ ".at-save") = d.node? (f ++ ".at-save") := by
  rcases s.exists_kept_or d act f with ⟨r, hr, rfl⟩ | hno
  · have hfate := t.fate r hr
    obtain ⟨-, hlive, hsave⟩ :=
      hfate.cells_of_not_tagged (hnot (t.entry r) (t.entry_mem hr) (t.entry_path hr))
    obtain ⟨hbefore, hafter⟩ := t.nodeAt?_of_kept hr hf
    refine ⟨?_, ?_⟩
    · rw [hafter, hlive, hbefore, (t.origin r hr).live]
    · rw [t.node?_of_kept hr Slots.backup_mem, (t.origin r hr).node? hd Slots.backup_mem, hsave hm]
  · refine ⟨t.elsewhere _ fun r hr suf hs _ => ?_, t.node?_eq hf rfl hno Slots.backup_mem⟩
    exact (t.origin r hr).toSourceSeat.place_ne_found hf (hno r hr) hs

/-- The backup of a source that is tagged holds what the source held. -/
theorem read_backup (t : Tagging s d act) (hm : s.mode = .backup)
    (hf : d.FoundAt s.sourceRoot f top ns) (hb : d.root.nodeAt? (top ++ ns) = some (.file b))
    {e : ReportEntry} (he : e ∈ (s.runOn d).1.files) (hpath : e.path = f) (htag : e.Tagged) :
    (s.runOn d).2.read (f ++ ".at-save") = .ok b := by
  rw [t.files] at he
  obtain ⟨r, hr, rfl⟩ := List.mem_map.1 he
  rw [t.entry_path hr] at hpath
  subst hpath
  have hfate := t.fate r hr
  obtain ⟨-, -, -, -, hsave⟩ := hfate.cells_of_tagged htag (by simp [hm])
  obtain ⟨hfits, hcell⟩ := hsave hm
  have hn := t.node?_of_kept hr Slots.backup_mem
  rw [if_pos hfits, hcell, (t.origin r hr).live] at hn
  have hbytes : some (Node.file (t.bytes r)) = some (.file b) :=
    (t.nodeAt?_of_kept hr hf).1.symm.trans hb
  exact Disk.read_eq_ok.2 (hn.trans hbytes)

/-- A source is not tagged while a directory is in the place of its backup. -/
theorem not_tagged_of_dir (t : Tagging s d act) (hm : s.mode = .backup)
    (hf : d.FoundAt s.sourceRoot f top ns) (hdir : d.node? (f ++ ".at-save") = some .dir) :
    ∀ e ∈ (s.runOn d).1.files, e.path = f → ¬ e.Tagged := by
  intro e he hpath htag
  obtain ⟨b, hb⟩ := hf.isFile
  have hread := t.read_backup hm hf hb he hpath htag
  refine t.sameDirs.symm.node?_ne_dir ?_ hdir
  simp [Disk.read_eq_ok.1 hread]

/-- If the only source is not tagged, what stood in the place of its backup at first is where the
source was, after a restoration. -/
theorem nodeAt?_of_not_tagged (t : Tagging s d act) (hd : d.root.Proper) (hm : s.mode = .backup)
    (hm' : s'.mode = .restore) (hroot : s'.sourceRoot = s.sourceRoot)
    (hsources : (d.findSources s.sourceRoot).1 = [f]) (hf : d.FoundAt s.sourceRoot f top ns)
    (hnot : ∀ e ∈ (s.runOn d).1.files, e.path = f → ¬ e.Tagged) {n : Node}
    (hsave : d.node? (f ++ ".at-save") = some n) :
    (s'.runOn (s.runOn d).2).2.root.nodeAt? (top ++ ns) = some n := by
  obtain ⟨-, hkept⟩ := t.keeps_of_not_tagged hd hm hf hnot
  refine Settings.nodeAt?_of_backup t.proper hm' ?_ ?_ (hkept.trans hsave)
  · rw [hroot, t.findSources_eq hd, hsources]
  · exact hroot ▸ t.foundAt hf

theorem exists_restoration (t : Tagging s d act) (hd : d.root.Proper) (hm : s'.mode = .restore)
    (hroot : s'.sourceRoot = s.sourceRoot)
    (hno : ∀ g ∈ (d.findSources s.sourceRoot).1, d.node? (g ++ ".at-save") ≠ some .dir) :
    Nonempty (Restoration s' (s.runOn d).2) := by
  refine Settings.exists_restoration t.proper hm fun g hg => ?_
  rw [hroot, t.findSources_eq hd] at hg
  exact t.sameDirs.node?_ne_dir (hno g hg)

end Tagging

namespace Settings

variable {s s' : Settings} {d : Disk} {f : String} {top ns : List String} {b : Utf8.Bytes}

/-- A run with backups and then a restoration: a source that was tagged holds what it held at first.
Any other source holds the backup that stood beside it at first, and what it held at first only if
there was none. -/
theorem runOn_restore_runOn (hd : d.root.Proper) (hm : s.mode = .backup) (hm' : s'.mode = .restore)
    (hroot : s'.sourceRoot = s.sourceRoot)
    (hno : ∀ g ∈ (d.findSources s.sourceRoot).1, d.node? (g ++ ".at-save") ≠ some .dir)
    (hf : d.FoundAt s.sourceRoot f top ns) (hb : d.root.nodeAt? (top ++ ns) = some (.file b)) :
    ((∃ e ∈ (s.runOn d).1.files, e.path = f ∧ e.Tagged) →
      (s'.runOn (s.runOn d).2).2.root.nodeAt? (top ++ ns) = some (.file b)) ∧
    ((∀ e ∈ (s.runOn d).1.files, e.path = f → ¬ e.Tagged) →
      (s'.runOn (s.runOn d).2).2.root.nodeAt? (top ++ ns) =
        some (.file ((d.read (f ++ ".at-save")).toOption.getD b))) := by
  obtain ⟨act, -, htagging⟩ := exists_tagging (d.read s.rulesPath).toOption
  obtain ⟨t⟩ := htagging s d hd (by simp [hm]) rfl
  obtain ⟨t'⟩ := t.exists_restoration hd hm' hroot hno
  have hf' : (s.runOn d).2.FoundAt s'.sourceRoot f top ns := hroot ▸ t.foundAt hf
  obtain ⟨b', hb'⟩ := hf'.isFile
  have hend := t'.nodeAt?_eq t.proper hf' hb'
  refine ⟨?_, fun hnot => ?_⟩
  · rintro ⟨e, he, hpath, htag⟩
    rw [hend, t.read_backup hm hf hb he hpath htag]
    rfl
  · obtain ⟨hlive, hsave⟩ := t.keeps_of_not_tagged hd hm hf hnot
    obtain rfl : b' = b := by simpa [hb, hb'] using hlive
    rw [hend, Disk.toOption_read_congr hsave]

theorem runOn_restore_runOn_scripted :
    let s : Settings := ⟨"p", "p", ".authors", .backup, none, {}⟩
    let s' : Settings := ⟨"p", "p", ".authors", .restore, none, {}⟩
    (s.runOn scriptedDisk).2.root.nodeAt? ["p", "A.java"] =
        some (.file (Utf8.ofString "/**\n * @author x\n */\npublic class A {}\n")) ∧
      (s'.runOn (s.runOn scriptedDisk).2).2.root.nodeAt? ["p", "A.java"] =
        some (.file (Utf8.ofString "public class A {}\n")) := by
  intro s s'
  have hb : scriptedDisk.root.nodeAt? ["p", "A.java"] =
      some (.file (Utf8.ofString "public class A {}\n")) := by
    decide +kernel
  have hf : scriptedDisk.FoundAt "p" "p/A.java" ["p"] ["A.java"] := by
    exact ⟨by decide, rfl, by decide, by decide, ⟨"A.java", rfl, by decide⟩, _, hb⟩
  have hno : ∀ g ∈ (scriptedDisk.findSources s.sourceRoot).1,
      scriptedDisk.node? (g ++ ".at-save") ≠ some .dir := by
    decide +kernel
  have htag : ∃ e ∈ (s.runOn scriptedDisk).1.files, e.path = "p/A.java" ∧ e.Tagged := by
    decide +kernel
  have hd : scriptedDisk.root.Proper := by decide +kernel
  have hm : s.mode = .backup := rfl
  have hm' : s'.mode = .restore := rfl
  exact ⟨by decide +kernel, (runOn_restore_runOn hd hm hm' rfl hno hf hb).1 htag⟩

/-- A source is found, whatever stands in the place of its backup, if no source is in that. -/
theorem findSources_besideBackup {b : Utf8.Bytes} {t : Tree} (hlookup : d.lookup "p" =
      .ok (.dir [("A.java", .file b), ("A.java.at-save", t)]))
    (ht : t.sourcesAt "A.java.at-save" = []) : (d.findSources "p").1 = ["p/A.java"] := by
  rw [Disk.findSources_of_lookup hlookup (by decide)]
  simp (disch := decide) only [Tree.sources, Tree.sourcesIn, ht, Tree.sourcesAt,
    Tree.byName_of_pairwise]
  decide +kernel

/-- A source without a type, beside a backup of an earlier run. -/
def staleBackupEntries : List (String × Tree) :=
  [("A.java", .file (Utf8.ofString "x\n")), ("A.java.at-save", .file (Utf8.ofString "y\n"))]

def staleBackupDisk : Disk := { root := .dir [("p", .dir staleBackupEntries)], home := [] }

theorem findSources_staleBackupDisk : (staleBackupDisk.findSources "p").1 = ["p/A.java"] :=
  findSources_besideBackup rfl (by rw [Tree.sourcesAt]; decide +kernel)

/-- The backup of the earlier run takes the place of what the source held. -/
theorem runOn_restore_runOn_staleBackup :
    let s : Settings := ⟨"p", "p", "p/.authors", .backup, none, {}⟩
    let s' : Settings := ⟨"p", "p", "p/.authors", .restore, none, {}⟩
    staleBackupDisk.FoundAt "p" "p/A.java" ["p"] ["A.java"] ∧
      staleBackupDisk.root.nodeAt? ["p", "A.java"] = some (.file (Utf8.ofString "x\n")) ∧
      (s'.runOn (s.runOn staleBackupDisk).2).2.root.nodeAt? ["p", "A.java"] =
        some (.file (Utf8.ofString "y\n")) := by
  intro s s'
  have hd : staleBackupDisk.root.Proper := by decide +kernel
  have hsources : (staleBackupDisk.findSources s.sourceRoot).1 = ["p/A.java"] :=
    findSources_staleBackupDisk
  have hb : staleBackupDisk.root.nodeAt? ["p", "A.java"] = some (.file (Utf8.ofString "x\n")) := by
    decide +kernel
  have hf : staleBackupDisk.FoundAt "p" "p/A.java" ["p"] ["A.java"] := by
    refine ⟨by decide, rfl, by decide, by decide, ⟨"A.java", rfl, by decide⟩, _, hb⟩
  obtain ⟨act, -, htagging⟩ := exists_tagging (staleBackupDisk.read s.rulesPath).toOption
  obtain ⟨t⟩ := htagging s staleBackupDisk hd (by simp [s]) rfl
  have hsave : staleBackupDisk.node? ("p/A.java" ++ ".at-save") =
      some (.file (Utf8.ofString "y\n")) := by
    decide +kernel
  have hnone : (s.runOn staleBackupDisk).1.files = [] := by
    rw [t.files, List.map_eq_nil_iff, List.eq_nil_iff_forall_not_mem]
    intro r hr
    obtain ⟨f, hf, r₁, ha, -⟩ := mem_keptRecords.1 hr
    rw [hsources, List.mem_singleton] at hf
    subst hf
    have hanalyze : (Record.analyze staleBackupDisk { path := "p/A.java" }).toOption = none := by
      decide +kernel
    rw [toOption_eq_some.2 ha] at hanalyze
    exact Option.some_ne_none _ hanalyze
  have hnot : ∀ e ∈ (s.runOn staleBackupDisk).1.files, e.path = "p/A.java" → ¬ e.Tagged := by
    simp [hnone]
  exact ⟨hf, hb,
    t.nodeAt?_of_not_tagged hd rfl (rfl : s'.mode = .restore) rfl hsources hf hnot hsave⟩

/-- A source beside a directory that is in the place of its backup. -/
def dirBackupDisk : Disk where
  root := .dir [("p", .dir [("A.java", .file (Utf8.ofString "public class A {}\n")),
    ("A.java.at-save", .dir [])])]
  home := []

/-- A directory in the place of a backup is in the way of a new one, so that the source is not
tagged, and the restoration moves the directory to where the source was. -/
theorem runOn_restore_runOn_dirBackup :
    let s : Settings := ⟨"p", "p", "p/.authors", .backup, none, {}⟩
    let s' : Settings := ⟨"p", "p", "p/.authors", .restore, none, {}⟩
    dirBackupDisk.FoundAt "p" "p/A.java" ["p"] ["A.java"] ∧
      (s'.runOn (s.runOn dirBackupDisk).2).2.root.nodeAt? ["p", "A.java"] = some .dir := by
  intro s s'
  have hd : dirBackupDisk.root.Proper := by decide +kernel
  have hb : dirBackupDisk.root.nodeAt? ["p", "A.java"] =
      some (.file (Utf8.ofString "public class A {}\n")) := by
    decide +kernel
  have hf : dirBackupDisk.FoundAt "p" "p/A.java" ["p"] ["A.java"] := by
    exact ⟨by decide, rfl, by decide, by decide, ⟨"A.java", rfl, by decide⟩, _, hb⟩
  have hsources : (dirBackupDisk.findSources "p").1 = ["p/A.java"] :=
    findSources_besideBackup rfl (by simp [Tree.sourcesAt, Tree.sourcesIn, Tree.byName])
  have hdir : dirBackupDisk.node? ("p/A.java" ++ ".at-save") = some .dir := by decide +kernel
  obtain ⟨act, -, htagging⟩ := exists_tagging (dirBackupDisk.read s.rulesPath).toOption
  obtain ⟨t⟩ := htagging s dirBackupDisk hd (by simp [s]) rfl
  have hnot := t.not_tagged_of_dir rfl hf hdir
  exact ⟨hf, t.nodeAt?_of_not_tagged hd rfl (rfl : s'.mode = .restore) rfl hsources hf hnot hdir⟩

end Settings

end Byline
