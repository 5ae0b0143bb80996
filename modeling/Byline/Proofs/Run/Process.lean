import Byline.Proofs.Authorship.Write
import Byline.Run.Process

/-!
# Records one after the other

The slots of two sources are apart: the last character of a name with a suffix tells the suffix
(`Seat.apart_of_isSourceName`). So what is done to one record is done as if there were no others.
`Yields` says what a step comes to on every disk whose slots at a seat hold the same, and
`Records.inOrder_spec` says what steps for many records come to, one after the other.
-/

namespace Byline

namespace Seat

variable {s s' : Seat} {suf suf' : String}

/-- No slot of the one is a slot of the other. -/
def Apart (s s' : Seat) : Prop :=
  ∀ suf ∈ Slots.suffixes, ∀ suf' ∈ Slots.suffixes, s.place suf ≠ s'.place suf'

theorem Apart.symm (h : s.Apart s') : s'.Apart s :=
  fun suf hs suf' hs' he => h suf' hs' suf hs he.symm

theorem getLast?_of_isSourceName {name : String} (h : Tree.isSourceName name = true) :
    name.toList.getLast? = some 'a' := by
  obtain ⟨stem, -, rfl⟩ := Tree.isSourceName_iff.1 h
  rw [String.toList_append, List.getLast?_append]
  rfl

theorem getLast?_append_of_isSourceName {name : String} (h : Tree.isSourceName name = true)
    (suf : String) : (name ++ suf).toList.getLast? = some ((suf.toList.getLast?).getD 'a') := by
  rw [String.toList_append, List.getLast?_append, getLast?_of_isSourceName h]
  cases suf.toList.getLast? <;> rfl

/-- The last character tells the slot. -/
theorem suffix_eq {name name' : String} (h : Tree.isSourceName name = true)
    (h' : Tree.isSourceName name' = true) (hs : suf ∈ Slots.suffixes) (hs' : suf' ∈ Slots.suffixes)
    (he : name ++ suf = name' ++ suf') : suf = suf' := by
  have hlast := congrArg (fun n : String => n.toList.getLast?) he
  simp only [getLast?_append_of_isSourceName h, getLast?_append_of_isSourceName h',
    Option.some.injEq] at hlast
  have hinj : ∀ x ∈ Slots.suffixes, ∀ y ∈ Slots.suffixes,
      x.toList.getLast?.getD 'a' = y.toList.getLast?.getD 'a' → x = y := by decide
  exact hinj suf hs suf' hs' hlast

theorem apart_of_isSourceName (h : Tree.isSourceName s.name = true)
    (h' : Tree.isSourceName s'.name = true) (hne : s.place "" ≠ s'.place "") : s.Apart s' := by
  intro suf hs suf' hs' he
  obtain ⟨hdir, hname⟩ := place_injective he
  obtain rfl := suffix_eq h h' hs hs' hname
  have hnames : s.name = s'.name := (String.append_left_inj suf).1 hname
  exact hne (by rw [place, place, hdir, hnames])

/-- A place with a source name is no slot of a source but the live file. -/
theorem suffix_eq_empty (h : Tree.isSourceName s.name = true) (hs : suf ∈ Slots.suffixes)
    {dir : List String} {name : String} (hname : Tree.isSourceName name = true)
    (he : dir ++ [name] = s.place suf) : suf = "" := by
  have hplace : place ⟨"", dir, name⟩ "" = s.place suf := by rw [← he, place, String.append_empty]
  obtain ⟨-, hn⟩ := place_injective hplace
  exact (suffix_eq hname h Slots.live_mem hs hn).symm

end Seat

namespace Disk.SourceSeat

variable {d d' : Disk} {base f f' : String} {s s' : Seat} {suf suf' : String}
  {top ns q : List String}

theorem eq_place (h : d.SourceSeat base f s) (hs : PlainSuffix suf)
    (hq : d.locate (f ++ suf) = .ok q) : s.Fits suf ∧ q = s.place suf := by
  have hlocate := h.seats.locate hs
  rw [h.path, hq] at hlocate
  split at hlocate
  · next hf => exact ⟨hf, Except.ok.inj hlocate⟩
  · simp at hlocate

theorem apart (h : d.SourceSeat base f s) (h' : d.SourceSeat base f' s') (hne : f ≠ f') :
    s.Apart s' := by
  obtain ⟨top, ns, hf, hs⟩ := h.found
  obtain ⟨top', ns', hf', hs'⟩ := h'.found
  refine Seat.apart_of_isSourceName h.isSource h'.isSource fun he => hne ?_
  exact hf.path_eq hf' (hs.symm.trans (he.trans hs'))

theorem place_eq (h : d.SourceSeat base f s) (hf : d.FoundAt base f top ns) (hfits : s.Fits "") :
    s.place "" = top ++ ns := by
  have hq := h.seats.locate (Slots.plainSuffix Slots.live_mem)
  rw [if_pos hfits, h.path] at hq
  obtain ⟨init, name, rfl, -, hat⟩ := hf.eq_of_locate rfl (Slots.plainSuffix Slots.live_mem) hq
  rw [hat, String.append_empty, List.append_assoc]

/-- The file of a source is in no slot of another source. -/
theorem place_ne_found (h : d.SourceSeat base f' s) (hf : d.FoundAt base f top ns) (hne : f' ≠ f)
    (hs : suf ∈ Slots.suffixes) : top ++ ns ≠ s.place suf := by
  intro he
  obtain ⟨top', ns', hf', hplace⟩ := h.found
  obtain ⟨init, name, rfl, hname⟩ := hf.exists_concat
  rw [← List.append_assoc] at he
  obtain rfl := Seat.suffix_eq_empty h.isSource hs hname he
  rw [List.append_assoc] at he
  exact hne (hf'.path_eq hf (hplace.symm.trans he.symm))

/-- The slots of a source of one disk are none of those of another source of another disk. -/
theorem place_ne (h : d'.SourceSeat base f' s) (hf : d.FoundAt base f top ns)
    (hhome : d'.home = d.home) (hne : f' ≠ f) (hs : suf ∈ Slots.suffixes)
    (hs' : suf' ∈ Slots.suffixes) (hq : d'.locate (f ++ suf) = .ok q) : q ≠ s.place suf' := by
  rintro rfl
  obtain ⟨top', ns', hf', hplace⟩ := h.found
  obtain ⟨init, name, rfl, hname, hat⟩ := hf.eq_of_locate hhome (Slots.plainSuffix hs) hq
  obtain ⟨hdir, hn⟩ := List.append_inj' hat rfl
  have hn := List.singleton_injective hn
  obtain rfl := Seat.suffix_eq h.isSource hname hs' hs hn
  have hnames : s.name = name := (String.append_left_inj _).1 hn
  obtain rfl : top' = top := locate_unique hhome hf.atTop hf'.atTop
  rw [Seat.place, hdir, hnames, String.append_empty, List.append_assoc] at hplace
  rw [List.append_cancel_left hplace] at hf
  exact hne (hf'.path.trans hf.path.symm)

end Disk.SourceSeat

namespace Disk

variable {s : Seat} {d : Disk} {c c' : Cells}

theorem Holds.congr (h : d.Holds s c)
    (he : ∀ suf ∈ Slots.suffixes, s.Fits suf → c suf = c' suf) : d.Holds s c' :=
  ⟨h.proper, h.seats, fun suf hs hf => (h.nodes suf hs hf).trans (he suf hs hf)⟩

/-- What one file's work leaves alone. -/
theorem OnlySlots.cells {d' : Disk} {s' : Seat} (h : OnlySlots s d d') (ha : s.Apart s')
    {suf : String} (hs : suf ∈ Slots.suffixes) : d'.cells s' suf = d.cells s' suf :=
  h.elsewhere _ fun suf' hs' _ he => ha suf' hs' suf hs he.symm

end Disk

section Loop

variable {α : Type} {s : Seat} {c c' : Cells} {j : Journal}

/-- On every disk whose slots hold `c` the step gives `a`, and leaves slots that hold `c'`. -/
def Yields (s : Seat) (f : Journal → α × Journal) (c : Cells) (a : α) (c' : Cells) : Prop :=
  ∀ j : Journal, j.file = none → j.disk.Holds s c → ∃ j', f j = (a, j') ∧ j'.file = none ∧
    j'.disk.Holds s c' ∧ Disk.OnlySlots s j.disk j'.disk

theorem Yields.congr {f : Journal → α × Journal} {a : α} {c₁ : Cells} (h : Yields s f c a c')
    (he : ∀ suf ∈ Slots.suffixes, s.Fits suf → c suf = c₁ suf) : Yields s f c₁ a c' :=
  fun j hj hc => h j hj (hc.congr fun suf hs hf => (he suf hs hf).symm)

/-- A step has one result. -/
theorem Yields.unique {f : Journal → α × Journal} {a a' : α} {c₁ : Cells} (h : Yields s f c a c')
    (h' : Yields s f c a' c₁) {d : Disk} (hd : d.Holds s c) :
    a = a' ∧ ∀ suf ∈ Slots.suffixes, s.Fits suf → c' suf = c₁ suf := by
  obtain ⟨j, hf, -, hj, -⟩ := h { disk := d } rfl hd
  obtain ⟨j', hf', -, hj', -⟩ := h' { disk := d } rfl hd
  obtain ⟨rfl, rfl⟩ := Prod.mk.inj (hf.symm.trans hf')
  exact ⟨rfl, fun suf hs hf => (hj.nodes suf hs hf).symm.trans (hj'.nodes suf hs hf)⟩

namespace Records

/-- Does a step for each record, one after the other. -/
def inOrder (f : Record → Journal → α × Journal) : List Record → Journal → List α × Journal
  | [], j => ([], j)
  | r :: rs, j =>
    let (a, j) := f r j
    let (as, j) := inOrder f rs j
    (a :: as, j)

theorem processAll_eq (mode : Mode) (rs : Records) (j : Journal) :
    processAll mode rs j = inOrder (fun r j => (r.process mode j).2) rs j := by
  induction rs generalizing j with
  | nil => rfl
  | cons r rs ih => simp only [processAll, inOrder, ih]

theorem restoreAll_eq (rs : List Record) (j : Journal) :
    restoreAll rs j = inOrder Record.restore rs j := by
  induction rs generalizing j with
  | nil => rfl
  | cons r rs ih => simp only [restoreAll, inOrder, ih]

/-- Where the slots of the records that have a seat are apart, and nothing is done to the others,
each record's step is as it is on the disk at the start, whatever was done to the records before
it. -/
theorem inOrder_spec {f : Record → Journal → α × Journal} {rs : List Record} {seat : Record → Seat}
    {seated : Record → Prop} {a : Record → α} {e : Record → Cells} (hj : j.file = none)
    (hd : j.disk.root.Proper) (hseats : ∀ r ∈ rs, seated r → j.disk.Seats (seat r))
    (hapart : rs.Pairwise fun r r' => seated r → seated r' → (seat r).Apart (seat r'))
    (hf : ∀ r ∈ rs, seated r → Yields (seat r) (f r) (j.disk.cells (seat r)) (a r) (e r))
    (hidle : ∀ r ∈ rs, ¬ seated r → ∀ j₁ : Journal, j₁.file = none → j.disk.SameDirs j₁.disk →
      f r j₁ = (a r, j₁)) :
    ∃ j', inOrder f rs j = (rs.map a, j') ∧ j'.file = none ∧ j'.disk.root.Proper ∧
      j.disk.SameDirs j'.disk ∧
      (∀ p, (∀ r ∈ rs, seated r → ∀ suf ∈ Slots.suffixes, (seat r).Fits suf →
        p ≠ (seat r).place suf) → j'.disk.root.nodeAt? p = j.disk.root.nodeAt? p) ∧
      ∀ r ∈ rs, seated r → ∀ suf ∈ Slots.suffixes, (seat r).Fits suf →
        j'.disk.cells (seat r) suf = e r suf := by
  induction rs generalizing j with
  | nil => exact ⟨j, rfl, hj, hd, Disk.SameDirs.refl j.disk, fun _ _ => rfl, by simp⟩
  | cons r rs ih =>
    obtain ⟨hr, hrest⟩ := List.forall_mem_cons.1 hseats
    obtain ⟨har, harest⟩ := List.pairwise_cons.1 hapart
    obtain ⟨hfr, hfrest⟩ := List.forall_mem_cons.1 hf
    obtain ⟨hir, hirest⟩ := List.forall_mem_cons.1 hidle
    by_cases hseated : seated r
    · have har := fun r' hr' => har r' hr' hseated
      obtain ⟨j₁, hstep, hj₁, hheld, honly⟩ :=
        hfr hseated j hj (Disk.holds_cells hd (hr hseated))
      obtain ⟨j₂, hloop, hj₂, hd₂, hdirs, helse, hcells⟩ := ih hj₁ hheld.proper
        (fun r' hr' hs' => honly.sameDirs.seats (hrest r' hr' hs')) harest
        (fun r' hr' hs' => (hfrest r' hr' hs').congr fun suf hs _ =>
          (honly.cells (har r' hr' hs') hs).symm)
        fun r' hr' hs' j₃ hj₃ hdirs => hirest r' hr' hs' j₃ hj₃ (honly.sameDirs.trans hdirs)
      refine ⟨j₂, by simp only [inOrder, hstep, hloop, List.map_cons], hj₂, hd₂,
        honly.sameDirs.trans hdirs, ?_, ?_⟩
      · intro p hp
        obtain ⟨hpr, hprest⟩ := List.forall_mem_cons.1 hp
        exact (helse p hprest).trans (honly.elsewhere p (hpr hseated))
      · refine List.forall_mem_cons.2 ⟨fun _ suf hs hfit => ?_, hcells⟩
        -- The records after this one leave its slots alone.
        have hkept := helse ((seat r).place suf) fun r' hr' hs' suf' hsuf' _ =>
          har r' hr' hs' suf hs suf' hsuf'
        exact hkept.trans (hheld.nodes suf hs hfit)
    · have hstep := hir hseated j hj (Disk.SameDirs.refl j.disk)
      obtain ⟨j₂, hloop, hj₂, hd₂, hdirs, helse, hcells⟩ := ih hj hd hrest harest hfrest hirest
      refine ⟨j₂, by simp only [inOrder, hstep, hloop, List.map_cons], hj₂, hd₂, hdirs, ?_, ?_⟩
      · exact fun p hp => helse p (List.forall_mem_cons.1 hp).2
      · exact List.forall_mem_cons.2 ⟨fun h => absurd h hseated, hcells⟩

end Records

end Loop

namespace Record

variable {r : Record} {s : Seat} {mode : Mode} {c : Cells} {b : Utf8.Bytes}

/-- What becomes of a record whose live file holds `b`: its entry, and what is in the slots then. -/
inductive Fate (r : Record) (mode : Mode) (s : Seat) (b : Utf8.Bytes) (c : Cells) :
    ReportEntry → Cells → Prop
  | written {n : Nat} {new : Utf8.Bytes} {diff : Diff} {c' : Cells}
      (type : r.typeName.isSome = true) (anchor : r.anchor = some n)
      (disposition : r.disposition ≠ .skip) (hnew : new = Authorship.retag b r.written n)
      (fits : s.Fits (Slots.outputSuffix mode)) (fitsBackup : mode = .backup → s.Fits ".at-save")
      (hdiff : diff = r.difference mode b new) (out : Cells.Installed mode c new c') :
      Fate r mode s b c
        { r.report (if diff.isEmpty then .unchanged else .changed) with
          authors := r.written
          hashBefore := some (Digest.hex b)
          hashAfter := some (Digest.hex new)
          diff := some diff } c'
  | skipped {c' : Cells}
      (nothing : r.typeName.isSome = true → r.anchor.isSome = true → r.disposition = .skip)
      (cleaned : Cells.Cleaned mode c c') (temp : c' ".at-temp" = c ".at-temp") :
      Fate r mode s b c { r.report .skipped with hashBefore := some (Digest.hex b) } c'
  | failed (p : Problem) {c' : Cells} (cleared : Cells.Cleared mode c c')
      (temp : c' ".at-temp" = none ∨ c' ".at-temp" = c ".at-temp") :
      Fate r mode s b c
        { r.report .failed with
          hashBefore := some (Digest.hex b)
          error := some p.fullMessage } c'

theorem Fate.path {e : ReportEntry} {c' : Cells} (h : r.Fate mode s b c e c') : e.path = r.path := by
  cases h <;> rfl

/-- A record whose live file can be read meets one fate, and it hangs on its slots alone. -/
theorem yields_process (hp : r.path = s.path) (hm : mode ≠ .restore) (hf : s.Fits "")
    (hb : c "" = some (.file b)) :
    ∃ e c', Yields s (fun j => (r.process mode j).2) c e c' ∧ r.Fate mode s b c e c' := by
  have hread (j : Journal) (hc : j.disk.Holds s c) : j.disk.read r.path = .ok b := by
    rw [hp, ← String.append_empty (s := s.path)]
    exact hc.read Slots.live_mem hf hb
  obtain ⟨res, c', hrun, hends⟩ := runs_write hp hm c
  cases hends with
  | @installed b' n _ type anchor disposition live fits fitsBackup out =>
    obtain rfl : b = b' := by simpa [hb] using live
    refine ⟨_, c', ?_, .written type anchor disposition rfl fits fitsBackup rfl out⟩
    intro j hj hc
    obtain ⟨j', hw, hj', hc', honly⟩ := hrun j hj hc
    have hafter : j'.disk.read ((Slots.of r.path).output mode) =
        .ok (Authorship.retag b r.written n) := by
      rw [hp, Slots.output_eq]
      exact hc'.read (Slots.outputSuffix_mem mode) fits out.output
    refine ⟨j', ?_, hj', hc', honly⟩
    simp only [process, hread j hc, hw, Work.ending, compareOutput, hafter, report]
  | skipped nothing cleaned temp =>
    refine ⟨_, c', ?_, .skipped nothing cleaned temp⟩
    intro j hj hc
    obtain ⟨j', hw, hj', hc', honly⟩ := hrun j hj hc
    refine ⟨j', ?_, hj', hc', honly⟩
    simp only [process, hread j hc, hw, Work.ending]
  | failed p cleared temp =>
    refine ⟨_, c', ?_, .failed p cleared temp⟩
    intro j hj hc
    obtain ⟨j', hw, hj', hc', honly⟩ := hrun j hj hc
    have hdisk (level : Level) (m : String) : (j'.note level m).disk = j'.disk :=
      Journal.disk_addLog hj' _
    refine ⟨j'.note .error ("Error while writing author tags: " ++ p.fullMessage), ?_,
      (Journal.file_addLog j' _).trans hj', ?_, ?_⟩
    · simp only [process, hread j hc, hw, Work.ending]
    · rwa [hdisk]
    · rwa [hdisk]

end Record

end Byline
