import Byline.Proofs.Authorship.Effect

/-!
# Writes that fail

A write may fail at any of its operations. Whichever it is, the live file is as it was, no new
working copy is left, and of what stood beside the file no more is lost than what earlier runs left
and the mode does not keep (`Record.write_spares`).

Putting a backup back has two operations that may fail. The live file is removed by the first; but
then its place is free, and the second does not fail (`Slots.exists_rename`).
-/

namespace Byline

open Work (Leads)

namespace Disk

variable {d d' : Disk} {path : String}

theorem removeIfPresent_cases (h : d.removeIfPresent path = .ok d') :
    d' = d ∨ d.removeFile path = .ok d' := by
  rw [removeIfPresent] at h
  split at h
  · exact .inl (Except.ok.inj h).symm
  · exact .inr h

/-- What was removed was a file. -/
theorem exists_file_of_removeFile (h : d.removeFile path = .ok d') :
    ∃ b, d.node? path = some (.file b) := by
  rw [removeFile] at h
  rw [node?]
  cases ht : d.lookup path with
  | error c => simp [ht, bind, Except.bind] at h
  | ok t =>
    cases t with
    | file b => exact ⟨b, rfl⟩
    | dir es => simp [ht, bind, Except.bind] at h

theorem exists_removeFile {b : Utf8.Bytes} (h : d.node? path = some (.file b)) :
    ∃ d', d.removeFile path = .ok d' := by
  obtain ⟨t, ht, hnode⟩ := Option.map_eq_some_iff.1 h
  have hlookup := toOption_eq_some.1 ht
  obtain ⟨p, hp, -, -⟩ := lookup_eq_ok.1 hlookup
  cases t with
  | dir es => simp [Tree.node] at hnode
  | file b' =>
    refine ⟨d.unset p, ?_⟩
    simp [removeFile, hlookup, hp, bind, Except.bind, pure, Except.pure]

theorem isSome_node? : (d.node? path).isSome = d.has path := by
  rw [node?, Option.isSome_map]
  rfl

end Disk

/-! ## Files with a seat -/

namespace Record

variable {r : Record} {mode : Mode} {d d' : Disk} {s : Seat} {c c' : Cells} {p : Problem}

theorem Ends.spared (h : r.Ends mode s c (.error p) c') (hp : r.path = s.path)
    (hm : mode ≠ .restore) (hd : d.Holds s c) (hd' : d'.Holds s c') (ho : Disk.OnlySlots s d d') :
    (Slots.of r.path).Spared mode d d' := by
  rw [hp]
  have honly : d.OnlyAt (Slots.of s.path).paths d' := ho.onlyAt hd.seats
  have hkept {suf : String} (hs : suf ∈ Slots.suffixes) (he : c' suf = c suf) :
      d'.node? (s.path ++ suf) = d.node? (s.path ++ suf) := by
    rw [hd'.node? hs, hd.node? hs, he]
  have hgone {suf : String} (hs : suf ∈ Slots.suffixes) (he : c' suf = none) :
      d'.node? (s.path ++ suf) = none := by
    rw [hd'.node? hs, he, ite_self]
  cases h with
  | failed p cleared temp =>
    refine ⟨?_, ?_, ?_, ?_, honly⟩
    · rw [Slots.live_eq]
      exact hkept Slots.live_mem cleared.live
    · rcases cleared.backup with he | ⟨hmode, he⟩
      · exact .inl (hkept Slots.backup_mem he)
      · have hnone := hgone Slots.backup_mem he
        exact (honly.sameDirs.node?_eq_or_lost hnone).imp_right fun hlost => ⟨hmode, hlost⟩
    · exact temp.symm.imp (hkept Slots.temp_mem) (hgone Slots.temp_mem)
    · rcases cleared.test with he | ⟨hmode, he⟩
      · exact .inl (hkept Slots.test_mem he)
      · refine .inr ⟨?_, hgone Slots.test_mem he⟩
        cases mode <;> simp_all

end Record

/-! ## Putting a backup back -/

namespace Slots

variable {d d' : Disk} {path : String}

/-- Once the live file was removed, what is in the backup can be moved to its place, be it a file or
a directory. -/
theorem exists_rename (hd : d.root.Proper) (hhas : d.has (of path).backup = true)
    (h : d.removeFile path = .ok d') : ∃ d'', d'.rename (of path).backup path = .ok d'' := by
  obtain ⟨b, hb⟩ := Disk.exists_file_of_removeFile h
  obtain ⟨s, hs, rfl⟩ := Disk.exists_seat_of_node? hb
  have hheld := Disk.holds_cells hd hs
  have hbackup := Disk.isSome_node?.trans hhas
  rw [show (of s.path).backup = s.path ++ ".at-save" from rfl, hheld.node? backup_mem] at hbackup
  have hfit : s.Fits ".at-save" := by
    by_contra hf
    simp [hf] at hbackup
  rw [← String.append_empty (s := s.path), hheld.node? live_mem, if_pos hfit.live] at hb
  rw [← String.append_empty (s := s.path), hheld.removeFile live_mem hfit.live hb] at h
  obtain rfl : d.unset (s.place "") = d' := Except.ok.inj h
  obtain ⟨hfree, -⟩ := hheld.unset live_mem ⟨hfit.live, by simp [hb]⟩
  have hnode := hfree.nodes ".at-save" backup_mem hfit
  rw [Function.update_of_ne (by decide)] at hnode
  rw [if_pos hfit, ← hnode, Tree.nodeAt?, Option.isSome_map] at hbackup
  obtain ⟨t, ht⟩ := Option.isSome_iff_exists.1 hbackup
  have hmove := hfree.rename_eq backup_mem live_mem (by decide) hfit hfit.live ht
    (Function.update_self _ _ _)
  rw [String.append_empty] at hmove
  exact ⟨_, hmove⟩

/-- Where there are a live file and a backup, the backup is put back. -/
theorem leads_restore_of_has {b : Utf8.Bytes} (hd : d.root.Proper)
    (hb : d.node? path = some (.file b)) (hhas : d.has (of path).backup = true) :
    Leads d (of path).restore fun res d' => res = .ok .restored ∧ (of path).PutBack d d' := by
  obtain ⟨d₁, h₁⟩ := Disk.exists_removeFile hb
  obtain ⟨honly, hnone⟩ := Disk.removeFile_eq_ok h₁
  obtain ⟨d₂, h₂⟩ := exists_rename hd hhas h₁
  have hremove : d.removeIfPresent path = .ok d₁ := by rw [Disk.removeIfPresent, h₁]
  rw [restore]
  refine .get_ite (q := fun d => !d.has (of path).backup) (fun h => by simp [hhas] at h) fun _ => ?_
  refine .note_bind (.apply_bind (fun d' h => ?_) fun c h => ?_)
  · obtain rfl : d₁ = d' := Except.ok.inj (hremove.symm.trans h)
    refine .apply_bind (fun d'' h' => .pure ⟨rfl, putBack honly hnone h'⟩) fun c h' => ?_
    exact absurd (h₂.symm.trans h') (by simp)
  · exact absurd (hremove.symm.trans h) (by simp)

theorem leads_restore_error (hd : d.root.Proper) (path : String) :
    Leads d (of path).restore fun res d' => ∀ p, res = .error p → d' = d := by
  rw [restore]
  refine .get_ite (q := fun d => !d.has (of path).backup) (fun _ => .pure (by simp)) fun hhas => ?_
  refine .note_bind (.apply_bind (fun d₁ h₁ => ?_) fun _ _ _ _ => rfl)
  refine .apply_bind (fun d₂ _ => .pure (by simp)) fun c h₂ p _ => ?_
  rcases Disk.removeIfPresent_cases h₁ with rfl | hremoved
  · rfl
  · have hthere : d.has (of path).backup = true := by simpa using hhas
    obtain ⟨d₂, hmoved⟩ := exists_rename hd hthere hremoved
    exact absurd (hmoved.symm.trans h₂) (by simp)

end Slots

namespace Record

/-- A write that fails does no harm, at whichever operation it fails and whatever the path of the
record is. The live file is as it was, and so is all that is in no slot; no new working copy is
left, and beside the file only the stale output of earlier runs may be gone, where the mode does not
keep it. If a backup cannot be put back, the disk is as it was. -/
theorem write_spares (r : Record) (mode : Mode) {d : Disk} (hd : d.root.Proper) {log : Log}
    {p : Problem} {j : Journal} (h : r.write mode { disk := d, log := log } = .error p j) :
    (Slots.of r.path).Spared mode d j.disk ∧ (mode = .restore → j.disk = d) := by
  have hleads : Leads d (r.write mode) fun res d' => ∀ p, res = .error p →
      (Slots.of r.path).Spared mode d d' ∧ (mode = .restore → d' = d) := by
    by_cases hm : mode = .restore
    · subst hm
      refine (Slots.leads_restore_error hd r.path).mono fun res d' hsame p hres => ?_
      obtain rfl := hsame p hres
      exact ⟨.refl _ _ d', fun _ => rfl⟩
    by_cases hs : ∃ s, d.Seats s ∧ s.path = r.path
    · obtain ⟨s, hs, hp⟩ := hs
      obtain ⟨res, c', hrun, hends⟩ := runs_write hp.symm hm (d.cells s)
      refine (hrun.leads (Disk.holds_cells hd hs)).mono ?_
      rintro _ d' ⟨rfl, hd', ho⟩ p rfl
      exact ⟨hends.spared hp.symm hm (Disk.holds_cells hd hs) hd' ho, fun he => absurd he hm⟩
    · push Not at hs
      exact (leads_write_spared hm hs).mono fun _ _ hspared _ _ => ⟨hspared.2, fun he => absurd he hm⟩
  obtain ⟨res, j', hw, -, hend⟩ := hleads { disk := d, log := log } rfl rfl
  rw [h] at hw
  cases res with
  | ok a => simp [Work.ending] at hw
  | error q =>
    obtain ⟨-, rfl⟩ : p = q ∧ j = j' := by simpa [Work.ending] using hw
    exact hend q rfl

/-- A file with a directory where its backup would be, and the test output of an earlier run. -/
def blockedDisk : Disk :=
  { root := .dir [("p", .dir [("A.java", .file (Utf8.ofString "package p;\npublic class A {}\n")),
      ("A.java.at-test", .file (Utf8.ofString "old")), ("A.java.at-save", .dir [])])]
    home := ["p"] }

/-- The test output is removed, and then the write fails. -/
theorem write_spares_blocked : blockedDisk.root.Proper ∧ ∃ p j,
    staleRecord.write .noBackup { disk := blockedDisk } = .error p j ∧
      j.disk.node? "A.java.at-test" = none ∧
        (Slots.of staleRecord.path).Spared .noBackup blockedDisk j.disk := by
  have hd : blockedDisk.root.Proper := by decide +kernel
  have hfailed : (match staleRecord.write .noBackup { disk := blockedDisk } with
      | .ok _ _ => false
      | .error _ j => j.disk.node? "A.java.at-test" == none) = true := by
    decide +kernel
  cases hw : staleRecord.write .noBackup { disk := blockedDisk } with
  | ok w j => simp [hw] at hfailed
  | error p j =>
    obtain ⟨hspared, -⟩ := write_spares staleRecord .noBackup hd hw
    refine ⟨hd, p, j, rfl, ?_, hspared⟩
    simpa [hw] using hfailed

end Record

end Byline
