import Byline.Proofs.Authorship.Write
import Byline.Proofs.Storage.Change

/-!
# The effect of a write

What a write of a record does to a disk, told by the paths of its slots alone. The record may have
any path at all: one that no seat belongs to cannot be the path of a live file, so that such a write
removes no more than what earlier runs left (`Slots.Spared`; `Work.Leads` goes through the work one
operation at a time). Where there is a seat, the effect is that on its cells.

`Record.write_leaves` says for each outcome what the slots hold then, and that all else is as it
was.
-/

namespace Byline

namespace Work

variable {α β : Type} {d : Disk} {stage : Stage} {path : String}
  {mid post : Except Problem α → Disk → Prop}

/-- From the disk the work leads to a result and a disk of which `post` holds. It is about work
without a log file. -/
def Leads (d : Disk) (w : Work α) (post : Except Problem α → Disk → Prop) : Prop :=
  ∀ j : Journal, j.file = none → j.disk = d →
    ∃ res j', w j = ending res j' ∧ j'.file = none ∧ post res j'.disk

/-- What is to be shown of work, if it is followed by other work. -/
def Then (f : α → Work β) (post : Except Problem β → Disk → Prop) :
    Except Problem α → Disk → Prop
  | .ok a, d => Leads d (f a) post
  | .error p, d => post (.error p) d

theorem Runs.leads {s : Seat} {w : Work α} {c c' : Cells} {res : Except Problem α}
    (h : Runs s w c res c') (hd : d.Holds s c) :
    Leads d w fun res' d' => res' = res ∧ d'.Holds s c' ∧ Disk.OnlySlots s d d' := by
  rintro j hj rfl
  obtain ⟨j', hw, hj', hend, honly⟩ := h j hj hd
  exact ⟨res, j', hw, hj', rfl, hend, honly⟩

namespace Leads

theorem mono {w : Work α} (h : Leads d w mid) (hpost : ∀ res d', mid res d' → post res d') :
    Leads d w post := by
  intro j hj hd
  obtain ⟨res, j', hw, hj', hend⟩ := h j hj hd
  exact ⟨res, j', hw, hj', hpost _ _ hend⟩

theorem pure {a : α} (h : post (.ok a) d) : Leads d (Pure.pure a) post := by
  rintro j hj rfl
  exact ⟨.ok a, j, rfl, hj, h⟩

theorem bind {w : Work α} {f : α → Work β} {post : Except Problem β → Disk → Prop}
    (h : Leads d w mid) (hok : ∀ a d', mid (.ok a) d' → Leads d' (f a) post)
    (herror : ∀ p d', mid (.error p) d' → post (.error p) d') : Leads d (w >>= f) post := by
  intro j hj hd
  obtain ⟨res, j', hw, hj', hmid⟩ := h j hj hd
  cases res with
  | ok a =>
    rw [bind_of_ok hw]
    exact hok a j'.disk hmid j' hj' rfl
  | error p => exact ⟨.error p, j', bind_of_error hw f, hj', herror p _ hmid⟩

theorem apply {op : Disk → Except Cause Disk} {post : Except Problem Unit → Disk → Prop}
    (hok : ∀ d', op d = .ok d' → post (.ok ()) d')
    (herror : ∀ c, op d = .error c → post (.error (.handling path stage c)) d) :
    Leads d (Work.apply stage path op) post := by
  rintro j hj rfl
  rw [Work.apply]
  cases hop : op j.disk with
  | ok d' => exact ⟨.ok (), { j with disk := d' }, rfl, hj, hok d' hop⟩
  | error c => exact ⟨.error _, j, rfl, hj, herror c hop⟩

theorem query {op : Disk → Except Cause α} (hok : ∀ a, op d = .ok a → post (.ok a) d)
    (herror : ∀ c, op d = .error c → post (.error (.handling path stage c)) d) :
    Leads d (Work.query stage path op) post := by
  rintro j hj rfl
  rw [Work.query]
  cases hop : op j.disk with
  | ok a => exact ⟨.ok a, j, rfl, hj, hok a hop⟩
  | error c => exact ⟨.error _, j, rfl, hj, herror c hop⟩

theorem note_bind {f : Unit → Work α} {level : Level} {message : String}
    (h : Leads d (f ()) post) : Leads d (Work.note level message >>= f) post := by
  rintro j hj rfl
  have hdisk : (j.note level message).disk = j.disk := Journal.disk_addLog hj _
  exact h _ ((Journal.file_addLog j _).trans hj) hdisk

theorem apply_bind {op : Disk → Except Cause Disk} {f : Unit → Work α}
    (hok : ∀ d', op d = .ok d' → Leads d' (f ()) post)
    (herror : ∀ c, op d = .error c → post (.error (.handling path stage c)) d) :
    Leads d (Work.apply stage path op >>= f) post := by
  have hop : Leads d (Work.apply stage path op) (Then f post) := apply hok herror
  exact hop.bind (fun _ _ h => h) fun _ _ h => h

theorem query_bind {op : Disk → Except Cause α} {f : α → Work β}
    {post : Except Problem β → Disk → Prop} (hok : ∀ a, op d = .ok a → Leads d (f a) post)
    (herror : ∀ c, op d = .error c → post (.error (.handling path stage c)) d) :
    Leads d (Work.query stage path op >>= f) post := by
  have hop : Leads d (Work.query stage path op) (Then f post) := query hok herror
  exact hop.bind (fun _ _ h => h) fun _ _ h => h

/-- Work that first looks at the disk. -/
theorem get_ite {q : Disk → Bool} {w w' : Work α} (hw : q d = true → Leads d w post)
    (hw' : q d = false → Leads d w' post) :
    Leads d (get >>= fun j => if q j.disk then w else w') post := by
  rintro j hj rfl
  change ∃ res j', (if q j.disk = true then w else w') j = ending res j' ∧ _
  cases hq : q j.disk with
  | true => exact hw hq j hj rfl
  | false => exact hw' hq j hj rfl

/-- After a problem no file is at the path. -/
theorem orRemove {w : Work Unit} {mid post : Except Problem Unit → Disk → Prop}
    (h : Leads d w mid) (hok : ∀ d', mid (.ok ()) d' → post (.ok ()) d')
    (herror : ∀ p d' d'', mid (.error p) d' → d'.OnlyAt [path] d'' →
      d''.node? path = (if d'.node? path = some .dir then some .dir else none) →
        post (.error p) d'') : Leads d (Work.orRemove path w) post := by
  intro j hj hd
  obtain ⟨res, j', hw, hj', hmid⟩ := h j hj hd
  rw [Work.orRemove, hw]
  cases res with
  | ok a => exact ⟨.ok (), j', rfl, hj', hok _ hmid⟩
  | error p =>
    obtain ⟨honly, hnode⟩ := j'.disk.removeFile_getD path
    exact ⟨.error p, _, rfl, hj', herror p _ _ hmid honly hnode⟩

end Leads

end Work

open Work (Leads Runs)

namespace Slots

variable {d d' : Disk} {mode : Mode}

/-- The four paths. -/
def paths (s : Slots) : List String := [s.live, s.backup, s.temp, s.test]

theorem paths_of (path : String) : (of path).paths = suffixes.map (path ++ ·) := by
  simp [paths, of, suffixes]

/-- The new file is in the output, and beside it nothing but what the mode keeps. -/
structure Rewritten (s : Slots) (mode : Mode) (old new : Utf8.Bytes) (d d' : Disk) : Prop where
  live : d'.read s.live = .ok (if mode = .test then old else new)
  backup : d'.node? s.backup =
    if mode = .backup then some (.file old) else if mode = .noBackup then none else d.node? s.backup
  temp : d'.node? s.temp = none
  test : d'.node? s.test = if mode = .test then some (.file new) else none

/-- What earlier runs left and the mode does not keep is gone. -/
structure Swept (s : Slots) (mode : Mode) (d d' : Disk) : Prop where
  live : d'.node? s.live = d.node? s.live
  backup : d'.node? s.backup = if mode = .noBackup then none else d.node? s.backup
  temp : d'.node? s.temp = d.node? s.temp
  test : d'.node? s.test = if mode = .test then d.node? s.test else none

/-- Nothing is lost but a working copy and what the mode does not keep, and it may still be there. -/
structure Spared (s : Slots) (mode : Mode) (d d' : Disk) : Prop where
  live : d'.node? s.live = d.node? s.live
  backup : d'.node? s.backup = d.node? s.backup ∨
    mode = .noBackup ∧ (∃ b, d.node? s.backup = some (.file b)) ∧ d'.node? s.backup = none
  temp : d'.node? s.temp = d.node? s.temp ∨ d'.node? s.temp = none
  test : d'.node? s.test = d.node? s.test ∨
    (mode = .backup ∨ mode = .noBackup) ∧ d'.node? s.test = none
  only : d.OnlyAt s.paths d'

/-- The backup, a file or a directory with all below it, is where the path of the live file led to. -/
structure PutBack (s : Slots) (d d' : Disk) : Prop where
  moved : ∃ p q, d.locate s.live = .ok p ∧ d.locate s.backup = .ok q ∧ Disk.Moved q p d d'
  live : ∀ b, d.read s.backup = .ok b → d'.read s.live = .ok b
  backup : d'.node? s.backup = none

end Slots

namespace Record

/-- The outcomes of a write, and what the disk is like then. -/
inductive Leaves (r : Record) (mode : Mode) (d : Disk) : Except Problem Written → Disk → Prop
  | installed {old : Utf8.Bytes} {n : Nat} {d' : Disk} (writes : mode ≠ .restore)
      (read : d.read r.path = .ok old) (anchor : r.anchor = some n)
      (slots : (Slots.of r.path).Rewritten mode old (Authorship.retag old r.written n) d d')
      (only : d.OnlyAt (Slots.of r.path).paths d') : Leaves r mode d (.ok .installed) d'
  | skipped {d' : Disk} (writes : mode ≠ .restore) (slots : (Slots.of r.path).Swept mode d d')
      (only : d.OnlyAt (Slots.of r.path).paths d') : Leaves r mode d (.ok .skipped) d'
  | restored {d' : Disk} (restores : mode = .restore) (slots : (Slots.of r.path).PutBack d d') :
      Leaves r mode d (.ok .restored) d'
  | nothing (restores : mode = .restore) : Leaves r mode d (.ok .nothingToRestore) d
  | failed (p : Problem) {d' : Disk} (only : d.OnlyAt (Slots.of r.path).paths d') :
      Leaves r mode d (.error p) d'

end Record

theorem Disk.OnlySlots.onlyAt {d d' : Disk} {s : Seat} (h : Disk.OnlySlots s d d')
    (hs : d.Seats s) : d.OnlyAt (Slots.of s.path).paths d' := by
  refine ⟨h.sameDirs, fun q hq => h.elsewhere q fun suf hsuf hf he => ?_⟩
  refine hq (s.path ++ suf) ?_ ?_
  · rw [Slots.paths_of]
    exact List.mem_map_of_mem hsuf
  · rw [hs.locate (Slots.plainSuffix hsuf), if_pos hf, he]

/-! ## Paths beside a path -/

namespace Slots

variable {d d' : Disk} {mode : Mode}

theorem isName_append {name suf : String} (hname : '/' ∉ name.toList) (hs : suf ∈ suffixes)
    (hne : suf ≠ "") : Tree.IsName (name ++ suf) := by
  obtain ⟨hlen, hslash⟩ :=
    (by decide : ∀ suf ∈ suffixes, suf ≠ "" → 3 ≤ suf.length ∧ '/' ∉ suf.toList) suf hs hne
  have hlen' : 3 ≤ (name ++ suf).length := by
    rw [String.length_append]
    omega
  refine ⟨?_, ?_, ?_, ?_⟩
  · intro he
    simp [he] at hlen'
  · rw [String.toList_append, List.mem_append, not_or]
    exact ⟨hname, hslash⟩
  · intro he
    rw [he] at hlen'
    exact absurd hlen' (by decide)
  · intro he
    rw [he] at hlen'
    exact absurd hlen' (by decide)

/-- The other slots of a path stand side by side, whatever the path is. -/
theorem exists_place (d : Disk) (path : String) : ∃ s : Seat, ∀ suf ∈ suffixes, suf ≠ "" →
    ∀ q, d.locate (path ++ suf) = .ok q → q = s.place suf := by
  obtain ⟨base, name, rfl, hbase, hname⟩ := Path.exists_base path
  refine ⟨⟨base ++ name, (Path.parts base).foldl Disk.enter (d.start base), name⟩, ?_⟩
  intro suf hs hne q hq
  have hisName := isName_append hname hs hne
  obtain ⟨-, -, -, hw⟩ := Disk.locate_eq_ok.1 hq
  rw [String.append_assoc, ← hbase.join_eq hisName.2.1, Disk.start_join hisName,
    Path.parts_join hisName] at hw
  rw [Disk.eq_of_walk hw, List.foldl_append, List.foldl_cons, List.foldl_nil,
    Disk.enter_of_isName hisName, Seat.place]

theorem node?_beside {path suf suf' : String} (h : d.OnlyAt [path ++ suf] d')
    (hs : suf ∈ suffixes) (hne : suf ≠ "") (hs' : suf' ∈ suffixes) (hne' : suf' ≠ "")
    (hsuf : suf' ≠ suf) : d'.node? (path ++ suf') = d.node? (path ++ suf') := by
  obtain ⟨s, hplace⟩ := exists_place d path
  refine h.node?_eq fun q hq' hq => hsuf ?_
  rw [← Seat.place_inj (s := s), ← hplace suf' hs' hne' q hq', ← hplace suf hs hne q hq]

/-- A path without a seat leads to no file, before or after. -/
theorem node?_of_unseated {path : String} (hno : ∀ s, d.Seats s → s.path ≠ path)
    (h : d.SameDirs d') : d'.node? path = d.node? path := by
  have hplain {d'' : Disk} (h' : d.SameDirs d'') (b : Utf8.Bytes) :
      d''.node? path ≠ some (.file b) := by
    intro hb
    obtain ⟨s, hs, hpath⟩ := Disk.exists_seat_of_node? hb
    exact hno s (h'.symm.seats hs) hpath
  by_cases hdir : d.node? path = some .dir
  · rw [hdir]
    by_contra hne
    exact h.symm.node?_ne_dir hne hdir
  · have hdir' := h.node?_ne_dir hdir
    have hfile := hplain (.refl d)
    have hfile' := hplain h
    cases hn : d.node? path with
    | none =>
      cases hn' : d'.node? path with
      | none => rfl
      | some n => cases n <;> simp_all
    | some n => cases n <;> simp_all

theorem Spared.refl (s : Slots) (mode : Mode) (d : Disk) : s.Spared mode d d :=
  ⟨rfl, .inl rfl, .inl rfl, .inl rfl, .refl _ d⟩

theorem Swept.spared {s : Slots} (h : s.Swept mode d d') (hm : mode ≠ .restore)
    (honly : d.OnlyAt s.paths d') : s.Spared mode d d' := by
  refine ⟨h.live, ?_, .inl h.temp, ?_, honly⟩
  · by_cases hmode : mode = .noBackup
    · have hnone : d'.node? s.backup = none := by rw [h.backup, if_pos hmode]
      exact (honly.sameDirs.node?_eq_or_lost hnone).imp_right fun hlost => ⟨hmode, hlost⟩
    · exact .inl (by rw [h.backup, if_neg hmode])
  · by_cases hmode : mode = .test
    · exact .inl (by rw [h.test, if_pos hmode])
    · refine .inr ⟨?_, by rw [h.test, if_neg hmode]⟩
      cases mode <;> simp_all

/-! ## Work on a path without a seat -/

section Unseated

variable {path : String}

theorem swept_of_removed (hno : ∀ s, d.Seats s → s.path ≠ path)
    (honly : d.OnlyAt [(of path).test] d') (hnone : d'.node? (of path).test = none) :
    (of path).Swept .backup d d' := by
  refine ⟨node?_of_unseated hno honly.sameDirs, ?_, ?_, hnone⟩
  · exact node?_beside honly test_mem (by decide) backup_mem (by decide) (by decide)
  · exact node?_beside honly test_mem (by decide) temp_mem (by decide) (by decide)

theorem leads_removeOld (hno : ∀ s, d.Seats s → s.path ≠ path) (hm : mode ≠ .restore) :
    Leads d ((of path).removeOld mode) fun res d' => (of path).Spared mode d d' ∧
      d'.node? (of path).temp = d.node? (of path).temp ∧
        (res = .ok () → (of path).Swept mode d d') := by
  have hsame (p : Problem) : (of path).Spared mode d d ∧
      d.node? (of path).temp = d.node? (of path).temp ∧
        ((Except.error p : Except Problem Unit) = .ok () → (of path).Swept mode d d) :=
    ⟨.refl _ _ d, rfl, fun he => by simp at he⟩
  rw [removeOld]
  cases mode with
  | restore => exact absurd rfl hm
  | test => exact .pure ⟨.refl _ _ d, rfl, fun _ => ⟨rfl, rfl, rfl, rfl⟩⟩
  | backup =>
    refine .apply_bind (fun d₁ h₁ => .pure ?_) fun _ _ => hsame _
    obtain ⟨honly, hnone⟩ := Disk.removeIfPresent_eq_ok h₁
    have hswept := swept_of_removed hno honly hnone
    exact ⟨hswept.spared hm (honly.mono (by simp [paths])), hswept.temp, fun _ => hswept⟩
  | noBackup =>
    refine .apply_bind (fun d₁ h₁ => ?_) fun _ _ => hsame _
    obtain ⟨honly, hnone⟩ := Disk.removeIfPresent_eq_ok h₁
    have hpaths : d.OnlyAt (of path).paths d₁ := honly.mono (by simp [paths])
    obtain ⟨hlive, hbackup, htemp, htest⟩ := swept_of_removed hno honly hnone
    change Leads d₁ (Work.apply .removeOldBackup _ (·.removeIfPresent (of path).backup)) _
    refine .apply ?_ ?_
    · intro d₂ h₂
      obtain ⟨honly', hnone'⟩ := Disk.removeIfPresent_eq_ok h₂
      have hswept : (of path).Swept .noBackup d d₂ := by
        refine ⟨node?_of_unseated hno (honly.sameDirs.trans honly'.sameDirs), hnone', ?_, ?_⟩
        · rw [← htemp]
          exact node?_beside honly' backup_mem (by decide) temp_mem (by decide) (by decide)
        · rw [if_neg (by decide), ← hnone]
          exact node?_beside honly' backup_mem (by decide) test_mem (by decide) (by decide)
      have hpaths' : d.OnlyAt (of path).paths d₂ := hpaths.trans (honly'.mono (by simp [paths]))
      exact ⟨hswept.spared hm hpaths', hswept.temp, fun _ => hswept⟩
    · intro c _
      exact ⟨⟨hlive, .inl hbackup, .inl htemp, .inr ⟨.inr rfl, htest⟩, hpaths⟩, htemp,
        fun he => by simp at he⟩

/-- A file that is not there is not copied. -/
theorem leads_makeCopy (hno : ∀ b, d.node? path ≠ some (.file b)) (authors : List String)
    (anchor : Nat) : Leads d ((of path).makeCopy authors anchor) fun res d' =>
      d.OnlyAt [(of path).temp] d' ∧ res ≠ .ok () := by
  rw [makeCopy]
  refine .query_bind (fun t ht => ?_) fun _ _ => ⟨.refl _ d, by simp⟩
  refine .apply_bind (fun d₁ h₁ => ?_) fun _ _ => ⟨.refl _ d, by simp⟩
  cases t with
  | file b =>
    refine absurd ?_ (hno b)
    rw [Disk.node?, show d.lookup path = .ok (.file b) from ht]
    rfl
  | dir es =>
    exact .query_bind (fun _ h => by simp [Disk.content] at h) fun _ _ =>
      ⟨Disk.write_eq_ok h₁, by simp⟩

/-- The working copy that was begun is removed. -/
theorem leads_copy (hno : ∀ b, d.node? path ≠ some (.file b)) (authors : List String)
    (anchor : Nat) :
    Leads d (Work.orRemove (of path).temp ((of path).makeCopy authors anchor)) fun res d' =>
      d.OnlyAt [(of path).temp] d' ∧
        (d'.node? (of path).temp = d.node? (of path).temp ∨ d'.node? (of path).temp = none) ∧
          res ≠ .ok () := by
  refine (leads_makeCopy hno authors anchor).orRemove (fun _ h => absurd rfl h.2) ?_
  rintro p d₁ d₂ ⟨hwritten, -⟩ hremoved hnode
  refine ⟨hwritten.trans hremoved, ?_, by simp⟩
  by_cases hdir : d.node? (of path).temp = some .dir
  · have hdir₁ : d₁.node? (of path).temp = some .dir := by
      by_contra hne
      exact hwritten.sameDirs.symm.node?_ne_dir hne hdir
    exact .inl (by rw [hnode, if_pos hdir₁, hdir])
  · exact .inr (by rw [hnode, if_neg (hwritten.sameDirs.node?_ne_dir hdir)])

theorem Spared.of_copy {d₁ : Disk} (h : (of path).Spared mode d d₁)
    (htemp : d₁.node? (of path).temp = d.node? (of path).temp)
    (hno : ∀ s, d.Seats s → s.path ≠ path) (honly : d₁.OnlyAt [(of path).temp] d')
    (hnode : d'.node? (of path).temp = d₁.node? (of path).temp ∨ d'.node? (of path).temp = none) :
    (of path).Spared mode d d' := by
  have hpaths : d₁.OnlyAt (of path).paths d' := honly.mono (by simp [paths])
  refine ⟨node?_of_unseated hno (h.only.trans hpaths).sameDirs, ?_, htemp ▸ hnode, ?_,
    h.only.trans hpaths⟩
  · have hbackup : d'.node? (of path).backup = d₁.node? (of path).backup :=
      node?_beside honly temp_mem (by decide) backup_mem (by decide) (by decide)
    rw [hbackup]
    exact h.backup
  · have htest : d'.node? (of path).test = d₁.node? (of path).test :=
      node?_beside honly temp_mem (by decide) test_mem (by decide) (by decide)
    rw [htest]
    exact h.test

end Unseated

end Slots

namespace Record

variable {r : Record} {mode : Mode} {d d' : Disk}

/-- Of a path without a seat nothing but what earlier runs left can be lost. -/
theorem leads_write_spared (hm : mode ≠ .restore) (hno : ∀ s, d.Seats s → s.path ≠ r.path) :
    Leads d (r.write mode) fun res d' =>
      r.Leaves mode d res d' ∧ (Slots.of r.path).Spared mode d d' := by
  have hswept := Slots.leads_removeOld hno hm
  by_cases ht : r.typeName.isSome = true → r.anchor.isSome = true → r.disposition = .skip
  · rw [write_eq_skip hm ht]
    refine hswept.bind ?_ fun p d' h => ⟨.failed p h.1.only, h.1⟩
    rintro ⟨⟩ d' ⟨hspared, -, hslots⟩
    exact .note_bind (.pure ⟨.skipped hm (hslots rfl) hspared.only, hspared⟩)
  · push Not at ht
    obtain ⟨htype, hanchor, hd⟩ := ht
    obtain ⟨name, hname⟩ := Option.isSome_iff_exists.1 htype
    obtain ⟨n, hn⟩ := Option.isSome_iff_exists.1 hanchor
    rw [write_eq_install hm hname hn hd]
    refine hswept.bind ?_ fun p d' h => ⟨.failed p h.1.only, h.1⟩
    rintro ⟨⟩ d' ⟨hspared, htemp, -⟩
    refine .note_bind (.note_bind ?_)
    have hfile (b : Utf8.Bytes) : d'.node? r.path ≠ some (.file b) := by
      intro hb
      obtain ⟨s, hs, hpath⟩ := Disk.exists_seat_of_node? hb
      exact hno s (hspared.only.sameDirs.symm.seats hs) hpath
    refine (Slots.leads_copy hfile r.written n).bind ?_ ?_
    · rintro ⟨⟩ d'' ⟨-, -, hne⟩
      exact absurd rfl hne
    · rintro p d'' ⟨honly, hnode, -⟩
      have hend := hspared.of_copy htemp hno honly hnode
      exact ⟨.failed p hend.only, hend⟩

theorem leads_write_unseated (hm : mode ≠ .restore) (hno : ∀ s, d.Seats s → s.path ≠ r.path) :
    Leads d (r.write mode) (r.Leaves mode d) :=
  (leads_write_spared hm hno).mono fun _ _ h => h.1

/-! ## Work on a path with a seat -/

theorem Ends.leaves {s : Seat} {c c' : Cells} {res : Except Problem Written}
    (h : r.Ends mode s c res c') (hp : r.path = s.path) (hm : mode ≠ .restore) (hd : d.Holds s c)
    (hd' : d'.Holds s c') (ho : Disk.OnlySlots s d d') : r.Leaves mode d res d' := by
  have honly : d.OnlyAt (Slots.of r.path).paths d' := hp ▸ ho.onlyAt hd.seats
  have hnode {suf : String} (hs : suf ∈ Slots.suffixes) :
      d.node? (r.path ++ suf) = if s.Fits suf then c suf else none := by
    rw [hp]
    exact hd.node? hs
  have hnode' {suf : String} (hs : suf ∈ Slots.suffixes) :
      d'.node? (r.path ++ suf) = if s.Fits suf then c' suf else none := by
    rw [hp]
    exact hd'.node? hs
  have hpath : (Slots.of r.path).live = r.path ++ "" := String.append_empty.symm
  have hbackup : (Slots.of r.path).backup = r.path ++ ".at-save" := rfl
  have htemp : (Slots.of r.path).temp = r.path ++ ".at-temp" := rfl
  have htest : (Slots.of r.path).test = r.path ++ ".at-test" := rfl
  cases h with
  | failed p _ _ => exact .failed p honly
  | skipped _ hclean hkept =>
    refine .skipped hm ⟨?_, ?_, ?_, ?_⟩ honly
    · rw [hpath, hnode' Slots.live_mem, hnode Slots.live_mem, hclean.live]
    · rw [hbackup, hnode' Slots.backup_mem, hnode Slots.backup_mem, hclean.backup]
      split_ifs <;> rfl
    · rw [htemp, hnode' Slots.temp_mem, hnode Slots.temp_mem, hkept]
    · rw [htest, hnode' Slots.test_mem, hnode Slots.test_mem, hclean.test]
      split_ifs <;> rfl
  | @installed b n c' htype hanchor hdisp hb hfit hsave hout =>
    have hread : d.read r.path = .ok b := by
      rw [Disk.read_eq_ok, ← String.append_empty (s := r.path), hnode Slots.live_mem,
        if_pos hfit.live, hb]
    refine .installed hm hread hanchor ⟨?_, ?_, ?_, ?_⟩ honly
    · rw [Disk.read_eq_ok, hpath, hnode' Slots.live_mem, if_pos hfit.live, hout.live]
      split_ifs
      · exact hb
      · rfl
    · rw [hbackup, hnode' Slots.backup_mem, hnode Slots.backup_mem, hout.backup]
      by_cases hmode : mode = .backup
      · rw [if_pos hmode, if_pos hmode, if_pos (hsave hmode), hb]
      · rw [if_neg hmode, if_neg hmode]
        split_ifs <;> rfl
    · rw [htemp, hnode' Slots.temp_mem, hout.temp]
      split_ifs <;> rfl
    · rw [htest, hnode' Slots.test_mem, hout.test]
      by_cases hmode : mode = .test
      · subst hmode
        rw [if_pos (show s.Fits ".at-test" from hfit)]
      · rw [if_neg hmode]
        split_ifs <;> rfl

end Record

/-! ## Putting a backup back -/

namespace Slots

variable {d d₁ d₂ : Disk} {s : Slots}

/-- First the live file was removed, if there was one, and then the backup was renamed. -/
theorem putBack (honly : d.OnlyAt [s.live] d₁) (hnone : d₁.node? s.live = none)
    (h : d₁.rename s.backup s.live = .ok d₂) : s.PutBack d d₂ := by
  obtain ⟨q, p, hq, hp, hslash, hpre, hp₁, hmoved⟩ := Disk.rename_eq_ok h hnone
  have hq' : d.locate s.backup = .ok q := honly.sameDirs.symm.locate hq
  have hp' : d.locate s.live = .ok p := honly.sameDirs.symm.locate hp
  have hsame {x : List String} (hx : ¬ p = x) : d₁.root.nodeAt? x = d.root.nodeAt? x := by
    refine honly.elsewhere x fun path hpath hl => hx ?_
    rw [List.mem_singleton.1 hpath, hp'] at hl
    exact Except.ok.inj hl
  -- The place of the live file is not below that of the backup, or nothing could be moved.
  have hbelow (x : List String) : ¬ p = q ++ x := by
    rintro rfl
    exact hpre (List.prefix_append q x)
  have hqnode : d₁.root.nodeAt? q = d.root.nodeAt? q := by simpa using hsame (hbelow [])
  have hmoved' : Disk.Moved q p d d₂ := by
    refine ⟨hmoved.home.trans honly.sameDirs.home, hqnode ▸ hmoved.found, fun x => ?_, hmoved.gone,
      fun x hqx hpx => ?_⟩
    · rw [hmoved.there, hsame (hbelow x)]
    · rw [hmoved.elsewhere x hqx hpx, hsame]
      rintro rfl
      exact hpx List.prefix_rfl
  refine ⟨⟨p, q, hp', hq', hmoved'⟩, fun b hb => ?_, Disk.node?_eq_none hmoved'.home hq' hmoved.gone⟩
  have hfile : d.root.nodeAt? q = some (.file b) := by
    obtain ⟨x, hx, hnode, -⟩ := Disk.node?_eq_some.1 (Disk.read_eq_ok.1 hb)
    rwa [Except.ok.inj (hq'.symm.trans hx)]
  have hpdir : d.root.nodeAt? p ≠ some .dir := by
    rw [ne_eq, ← honly.sameDirs.dirs, hp₁]
    simp
  have hdirs : d.SameDirs d₂ := hmoved'.sameDirs (by simp [hfile]) hpdir
  refine Disk.read_eq_ok.2 (Disk.node?_eq_some.2 ⟨p, hdirs.locate hp', ?_, fun hs => ?_⟩)
  · simpa [hfile] using hmoved'.there []
  · simpa [hqnode, hfile] using hslash hs

theorem leads_restore (r : Record) (d : Disk) :
    Leads d (of r.path).restore (r.Leaves .restore d) := by
  rw [restore]
  refine .get_ite (q := fun d => !d.has (of r.path).backup) (fun _ => .pure (.nothing rfl)) fun _ => ?_
  refine .note_bind (.apply_bind (fun d₁ h₁ => ?_) fun _ _ => .failed _ (.refl _ d))
  obtain ⟨honly, hnone⟩ := Disk.removeIfPresent_eq_ok h₁
  refine .apply_bind (fun d₂ h₂ => ?_) fun _ _ => .failed _ (honly.mono (by simp [paths]))
  exact .pure (.restored rfl (putBack honly hnone h₂))

end Slots

/-! ## The effect -/

namespace Record

/-- On a disk without a log file, a write has one of its outcomes, whatever the path of the record,
and whatever stands in the slots. -/
theorem write_leaves (r : Record) (mode : Mode) {d : Disk} (hd : d.root.Proper) (log : Log) :
    ∃ res j, r.write mode { disk := d, log := log } = Work.ending res j ∧
      r.Leaves mode d res j.disk := by
  have hleads : Leads d (r.write mode) (r.Leaves mode d) := by
    by_cases hm : mode = .restore
    · subst hm
      exact Slots.leads_restore r d
    by_cases hs : ∃ s, d.Seats s ∧ s.path = r.path
    · obtain ⟨s, hs, hp⟩ := hs
      obtain ⟨res, c', hrun, hends⟩ := runs_write hp.symm hm (d.cells s)
      refine (hrun.leads (Disk.holds_cells hd hs)).mono ?_
      rintro _ d' ⟨rfl, hd', ho⟩
      exact hends.leaves hp.symm hm (Disk.holds_cells hd hs) hd' ho
    · push Not at hs
      exact leads_write_unseated hm hs
  obtain ⟨res, j, hw, -, h⟩ := hleads { disk := d, log := log } rfl rfl
  exact ⟨res, j, hw, h⟩

/-- A file with the backup and the test output of earlier runs. -/
def staleDisk : Disk :=
  { root := .dir [("p", .dir [("A.java", .file (Utf8.ofString "package p;\npublic class A {}\n")),
      ("A.java.at-test", .file (Utf8.ofString "old")), ("A.java.at-save", .file [])])]
    home := ["p"] }

def staleRecord : Record :=
  { path := "A.java", typeName := some "p.A", newAuthors := ["x"], anchor := some 1 }

theorem write_leaves_stale :
    staleDisk.root.Proper ∧ ∃ j, staleRecord.write .backup { disk := staleDisk } =
      Work.ending (.ok .installed) j ∧
        staleRecord.Leaves .backup staleDisk (.ok .installed) j.disk := by
  have hd : staleDisk.root.Proper := by decide +kernel
  have hwritten : (match staleRecord.write .backup { disk := staleDisk } with
      | .ok w _ => w == .installed
      | .error _ _ => false) = true := by
    decide +kernel
  obtain ⟨res, j, hw, hleaves⟩ := write_leaves staleRecord .backup hd []
  rw [hw] at hwritten
  cases res with
  | error p => simp [Work.ending] at hwritten
  | ok w =>
    obtain rfl : w = .installed := by simpa [Work.ending] using hwritten
    exact ⟨hd, j, hw, hleaves⟩

end Record

end Byline
