import Byline.Authorship.Write
import Byline.Proofs.Storage.Sources

/-!
# Work on the slots of a file

`Work.Runs s w c res c'` says what some work comes to on a disk whose slots at a seat hold `c`: the
result and what the slots hold then. It speaks of every such disk at once. So the result depends on
nothing but the slots, and nothing but the slots changes (`Disk.OnlySlots`). It is about work
without a log file.

The rules follow the work: one for each operation on the disk, and one for work that is followed by
other work.
-/

namespace Byline

/-- What the slots of a file hold, by what their paths have at their ends. -/
abbrev Cells := String → Option Node

namespace Slots

/-- What the paths of the slots have at their ends. -/
def suffixes : List String := ["", ".at-save", ".at-temp", ".at-test"]

theorem plainSuffix {suf : String} (h : suf ∈ suffixes) : PlainSuffix suf :=
  (by decide : ∀ suf ∈ suffixes, PlainSuffix suf) suf h

end Slots

namespace Seat

/-- Can the file in the slot be removed, if there is one? -/
def Clear (s : Seat) (c : Cells) (suf : String) : Prop := s.Fits suf ∧ c suf ≠ some .dir

instance (s : Seat) (c : Cells) (suf : String) : Decidable (s.Clear c suf) :=
  inferInstanceAs (Decidable (_ ∧ _))

/-- Why it cannot. -/
def refusal (s : Seat) (suf : String) : Cause :=
  if s.Fits suf then .isDirectory else .nameTooLong

/-- What the slots hold after an attempt to remove the file in one of them. -/
def without (s : Seat) (c : Cells) (suf : String) : Cells :=
  if s.Clear c suf then Function.update c suf none else c

theorem without_of_ne (s : Seat) (c : Cells) {suf suf' : String} (h : suf' ≠ suf) :
    s.without c suf suf' = c suf' := by
  rw [without]
  split
  · exact Function.update_of_ne h _ _
  · rfl

theorem without_self (s : Seat) (c : Cells) (suf : String) :
    s.without c suf suf = none ∨ s.without c suf suf = c suf := by
  rw [without]
  split
  · exact .inl (Function.update_self _ _ _)
  · exact .inr rfl

theorem without_of_clear {s : Seat} {c : Cells} {suf : String} (h : s.Clear c suf) :
    s.without c suf = Function.update c suf none := if_pos h

theorem Fits.live {s : Seat} {suf : String} (h : s.Fits suf) : s.Fits "" := by
  obtain ⟨hpath, hname⟩ := h
  rw [String.utf8ByteSize_append] at hpath hname
  rw [Fits, String.append_empty, String.append_empty]
  omega

theorem refusal_ne_notFound (s : Seat) (suf : String) : s.refusal suf ≠ .notFound := by
  rw [refusal]
  split <;> simp

end Seat

namespace Disk

variable {s : Seat} {d d' d'' : Disk} {c : Cells} {suf : String} {b : Utf8.Bytes}

/-- A proper disk whose slots at the seat hold these nodes. A slot whose path is too long for a disk
is none. -/
structure Holds (d : Disk) (s : Seat) (c : Cells) : Prop where
  proper : d.root.Proper
  seats : d.Seats s
  nodes : ∀ suf ∈ Slots.suffixes, s.Fits suf → d.root.nodeAt? (s.place suf) = c suf

/-- What the slots at a seat hold. -/
def cells (d : Disk) (s : Seat) : Cells := fun suf => d.root.nodeAt? (s.place suf)

theorem holds_cells (hd : d.root.Proper) (hs : d.Seats s) : d.Holds s (d.cells s) :=
  ⟨hd, hs, fun _ _ _ => rfl⟩

/-- The disks differ in files of the slots only. -/
structure OnlySlots (s : Seat) (d d' : Disk) : Prop where
  sameDirs : d.SameDirs d'
  elsewhere : ∀ p, (∀ suf ∈ Slots.suffixes, s.Fits suf → p ≠ s.place suf) →
    d'.root.nodeAt? p = d.root.nodeAt? p

namespace OnlySlots

theorem refl (s : Seat) (d : Disk) : OnlySlots s d d := ⟨SameDirs.refl d, fun _ _ => rfl⟩

theorem trans (h : OnlySlots s d d') (h' : OnlySlots s d' d'') : OnlySlots s d d'' :=
  ⟨h.sameDirs.trans h'.sameDirs, fun p hp => (h'.elsewhere p hp).trans (h.elsewhere p hp)⟩

end OnlySlots

namespace Holds

theorem isName (h : d.Holds s c) (hs : suf ∈ Slots.suffixes) :
    ∀ n ∈ s.place suf, Tree.IsName n := by
  have hdir : d.root.at? s.dir ≠ none := by
    obtain ⟨es, he⟩ := Tree.nodeAt?_eq_dir.1 h.seats.inDir
    rw [he]
    exact Option.some_ne_none _
  intro n hn
  rcases List.mem_append.1 hn with hn | hn
  · exact h.proper.isName_of_at? hdir n hn
  · rw [List.mem_singleton.1 hn]
    exact h.seats.isName_append (Slots.plainSuffix hs)

theorem lookup (h : d.Holds s c) (hs : suf ∈ Slots.suffixes) (hf : s.Fits suf) :
    d.lookup (s.path ++ suf) =
      match d.root.at? (s.place suf) with
      | none => .error .notFound
      | some t => .ok t := by
  have hp := Slots.plainSuffix hs
  rw [Disk.lookup, h.seats.locate hp, if_pos hf]
  cases ht : d.root.at? (s.place suf) with
  | none => simp [bind, Except.bind, ht]
  | some t => simp [bind, Except.bind, ht, h.seats.endsWithSlash hp, pure, Except.pure]

theorem lookup_of_not_fits (h : d.Holds s c) (hs : suf ∈ Slots.suffixes) (hf : ¬ s.Fits suf) :
    d.lookup (s.path ++ suf) = .error .nameTooLong := by
  rw [Disk.lookup, h.seats.locate (Slots.plainSuffix hs), if_neg hf]
  rfl

theorem lookup_file (h : d.Holds s c) (hs : suf ∈ Slots.suffixes) (hf : s.Fits suf)
    (hb : c suf = some (.file b)) : d.lookup (s.path ++ suf) = .ok (.file b) := by
  rw [h.lookup hs hf, Tree.nodeAt?_eq_file.1 ((h.nodes suf hs hf).trans hb)]

theorem at?_of_not_clear (h : d.Holds s c) (hs : suf ∈ Slots.suffixes) (hf : s.Fits suf)
    (hb : ¬ s.Clear c suf) : ∃ es, d.root.at? (s.place suf) = some (.dir es) := by
  refine Tree.nodeAt?_eq_dir.1 ((h.nodes suf hs hf).trans ?_)
  by_contra hc
  exact hb ⟨hf, hc⟩

theorem node? (h : d.Holds s c) (hs : suf ∈ Slots.suffixes) :
    d.node? (s.path ++ suf) = if s.Fits suf then c suf else none := by
  rw [Disk.node?]
  by_cases hf : s.Fits suf
  · rw [h.lookup hs hf, if_pos hf, ← h.nodes suf hs hf, Tree.nodeAt?]
    cases d.root.at? (s.place suf) <;> rfl
  · rw [h.lookup_of_not_fits hs hf, if_neg hf]
    rfl

theorem read (h : d.Holds s c) (hs : suf ∈ Slots.suffixes) (hf : s.Fits suf)
    (hb : c suf = some (.file b)) : d.read (s.path ++ suf) = .ok b := by
  rw [read_eq_ok, h.node? hs, if_pos hf, hb]

theorem update (h : d.Holds s c) (hs : suf ∈ Slots.suffixes) (hb : s.Clear c suf)
    {n : Option Node} (hn : n ≠ some .dir) (hhome : d'.home = d.home) (hproper : d'.root.Proper)
    (hroot : d'.root.nodeAt? = Function.update d.root.nodeAt? (s.place suf) n) :
    d'.Holds s (Function.update c suf n) ∧ OnlySlots s d d' := by
  have hdirs : d.SameDirs d' := .of_update (h.nodes suf hs hb.1 ▸ hb.2) hn hhome hroot
  refine ⟨⟨hproper, hdirs.seats h.seats, ?_⟩, hdirs, ?_⟩
  · intro suf' hs' hf'
    rw [hroot]
    by_cases he : suf' = suf
    · rw [he, Function.update_self, Function.update_self]
    · rw [Function.update_of_ne fun e => he (Seat.place_inj.1 e), Function.update_of_ne he,
        h.nodes suf' hs' hf']
  · intro p hp
    rw [hroot, Function.update_of_ne (hp suf hs hb.1)]

theorem set (h : d.Holds s c) (hs : suf ∈ Slots.suffixes) (hb : s.Clear c suf) (b : Utf8.Bytes) :
    (d.set (s.place suf) (.file b)).Holds s (Function.update c suf (some (.file b))) ∧
      OnlySlots s d (d.set (s.place suf) (.file b)) :=
  h.update hs hb (by simp) rfl (h.proper.put (.file b) (h.isName hs))
    (Tree.nodeAt?_put_file h.seats.inDir (h.nodes suf hs hb.1 ▸ hb.2) b)

theorem unset (h : d.Holds s c) (hs : suf ∈ Slots.suffixes) (hb : s.Clear c suf) :
    (d.unset (s.place suf)).Holds s (Function.update c suf none) ∧
      OnlySlots s d (d.unset (s.place suf)) :=
  h.update hs hb (by simp) rfl (h.proper.erase _)
    (Tree.nodeAt?_erase_file (s.place_ne_nil suf) (h.nodes suf hs hb.1 ▸ hb.2))

/-! ## Operations -/

theorem removeFile (h : d.Holds s c) (hs : suf ∈ Slots.suffixes) (hf : s.Fits suf)
    (hb : c suf = some (.file b)) :
    d.removeFile (s.path ++ suf) = .ok (d.unset (s.place suf)) := by
  rw [Disk.removeFile, h.lookup_file hs hf hb, h.seats.locate (Slots.plainSuffix hs), if_pos hf]
  rfl

theorem removeFile_none (h : d.Holds s c) (hs : suf ∈ Slots.suffixes) (hf : s.Fits suf)
    (hb : c suf = none) : d.removeFile (s.path ++ suf) = .error .notFound := by
  rw [Disk.removeFile, h.lookup hs hf, Tree.nodeAt?_eq_none.1 ((h.nodes suf hs hf).trans hb)]
  rfl

theorem removeFile_of_not_clear (h : d.Holds s c) (hs : suf ∈ Slots.suffixes)
    (hb : ¬ s.Clear c suf) : d.removeFile (s.path ++ suf) = .error (s.refusal suf) := by
  rw [Disk.removeFile, Seat.refusal]
  by_cases hf : s.Fits suf
  · obtain ⟨es, he⟩ := h.at?_of_not_clear hs hf hb
    rw [h.lookup hs hf, he, if_pos hf]
    rfl
  · rw [h.lookup_of_not_fits hs hf, if_neg hf]
    rfl

theorem removeIfPresent (h : d.Holds s c) (hs : suf ∈ Slots.suffixes) (hb : s.Clear c suf) :
    ∃ d', d.removeIfPresent (s.path ++ suf) = .ok d' ∧ d'.Holds s (Function.update c suf none) ∧
      OnlySlots s d d' := by
  cases hc : c suf with
  | none =>
    refine ⟨d, by rw [Disk.removeIfPresent, h.removeFile_none hs hb.1 hc], ?_, OnlySlots.refl s d⟩
    rwa [← hc, Function.update_eq_self]
  | some n =>
    cases n with
    | dir => exact absurd hc hb.2
    | file b =>
      exact ⟨_, by rw [Disk.removeIfPresent, h.removeFile hs hb.1 hc], h.unset hs hb⟩

theorem removeIfPresent_of_not_clear (h : d.Holds s c) (hs : suf ∈ Slots.suffixes)
    (hb : ¬ s.Clear c suf) : d.removeIfPresent (s.path ++ suf) = .error (s.refusal suf) := by
  have hne := s.refusal_ne_notFound suf
  rw [Disk.removeIfPresent, h.removeFile_of_not_clear hs hb]
  split
  · simp_all
  · rfl

theorem write (h : d.Holds s c) (hs : suf ∈ Slots.suffixes) (hb : s.Clear c suf)
    (b : Utf8.Bytes) : ∃ d', d.write (s.path ++ suf) b = .ok d' ∧
      d'.Holds s (Function.update c suf (some (.file b))) ∧ OnlySlots s d d' := by
  refine ⟨_, ?_, h.set hs hb b⟩
  have hp := Slots.plainSuffix hs
  rw [Disk.write, target_eq (h.seats.endsWithSlash hp), h.seats.locate hp, if_pos hb.1]
  have hc := h.nodes suf hs hb.1
  cases ht : d.root.at? (s.place suf) with
  | none => simp [bind, Except.bind, ht, pure, Except.pure]
  | some t =>
    cases t with
    | file old => simp [bind, Except.bind, ht, pure, Except.pure]
    | dir es => exact absurd (hc.symm.trans (Tree.nodeAt?_eq_dir.2 ⟨es, ht⟩)) hb.2

theorem write_of_not_clear (h : d.Holds s c) (hs : suf ∈ Slots.suffixes)
    (hb : ¬ s.Clear c suf) (b : Utf8.Bytes) :
    d.write (s.path ++ suf) b = .error (s.refusal suf) := by
  have hp := Slots.plainSuffix hs
  rw [Disk.write, target_eq (h.seats.endsWithSlash hp), h.seats.locate hp, Seat.refusal]
  by_cases hf : s.Fits suf
  · obtain ⟨es, he⟩ := h.at?_of_not_clear hs hf hb
    rw [if_pos hf, if_pos hf]
    simp [bind, Except.bind, he]
  · rw [if_neg hf, if_neg hf]
    rfl

/-- A file or a directory can be moved to a slot where nothing is. -/
theorem rename_eq (h : d.Holds s c) {suf' : String} {t : Tree} (hs : suf ∈ Slots.suffixes)
    (hs' : suf' ∈ Slots.suffixes) (hne : suf ≠ suf') (hf : s.Fits suf) (hf' : s.Fits suf')
    (ht : d.root.at? (s.place suf) = some t) (hnone : c suf' = none) :
    d.rename (s.path ++ suf) (s.path ++ suf') = .ok (d.move (s.place suf) (s.place suf') t) := by
  have hplace : s.place suf ≠ s.place suf' := fun e => hne (Seat.place_inj.1 e)
  have hprefix : ¬ (s.place suf).isPrefixOf (s.place suf') := by
    intro hpre
    exact hplace ((List.isPrefixOf_iff_prefix.1 hpre).eq_of_length (by simp [Seat.place]))
  have hat : d.root.at? (s.place suf') = none :=
    Tree.nodeAt?_eq_none.1 ((h.nodes suf' hs' hf').trans hnone)
  rw [Disk.rename, h.lookup hs hf, ht, h.seats.locate (Slots.plainSuffix hs), if_pos hf,
    h.seats.locate (Slots.plainSuffix hs'), if_pos hf']
  simp only [bind, Except.bind, h.seats.endsWithSlash (Slots.plainSuffix hs'), Bool.false_and,
    Bool.false_eq_true, if_false, hplace, hprefix, hat]
  rfl

theorem rename (h : d.Holds s c) {suf' : String} (hs : suf ∈ Slots.suffixes)
    (hs' : suf' ∈ Slots.suffixes) (hne : suf ≠ suf') (hf : s.Fits suf) (hf' : s.Fits suf')
    (hb : c suf = some (.file b)) (hnone : c suf' = none) :
    ∃ d', d.rename (s.path ++ suf) (s.path ++ suf') = .ok d' ∧
      d'.Holds s (Function.update (Function.update c suf none) suf' (some (.file b))) ∧
        OnlySlots s d d' := by
  have hat : d.root.at? (s.place suf) = some (.file b) :=
    Tree.nodeAt?_eq_file.1 ((h.nodes suf hs hf).trans hb)
  refine ⟨_, h.rename_eq hs hs' hne hf hf' hat hnone, ?_⟩
  obtain ⟨hmid, honly⟩ := h.unset hs ⟨hf, by simp [hb]⟩
  obtain ⟨hend, honly'⟩ := hmid.set hs' ⟨hf', by simp [Function.update_of_ne hne.symm, hnone]⟩ b
  exact ⟨⟨hend.proper, hend.seats.of_dirs rfl fun p hp => hp, hend.nodes⟩,
    ⟨⟨rfl, (honly.trans honly').sameDirs.dirs⟩, (honly.trans honly').elsewhere⟩⟩

end Holds

end Disk

namespace Work

variable {α β : Type} {s : Seat} {c c' c'' : Cells} {suf suf' path path' : String}
  {b : Utf8.Bytes} {p : Problem} {stage : Stage}

/-- The end of some work with a result. -/
def ending : Except Problem α → Journal → EStateM.Result Problem Journal α
  | .ok a, j => .ok a j
  | .error p, j => .error p j

theorem bind_of_ok {w : Work α} {f : α → Work β} {j j' : Journal} {a : α}
    (h : w j = ending (.ok a) j') : (w >>= f) j = f a j' := by
  change EStateM.bind w f j = _
  rw [EStateM.bind, h]
  rfl

theorem bind_of_error {w : Work α} {j j' : Journal} (h : w j = ending (.error p) j')
    (f : α → Work β) : (w >>= f) j = ending (.error p) j' := by
  change EStateM.bind w f j = _
  rw [EStateM.bind, h]
  rfl

/-- On every disk whose slots hold `c` the work ends with the result, and with slots that hold `c'`. -/
def Runs (s : Seat) (w : Work α) (c : Cells) (res : Except Problem α) (c' : Cells) : Prop :=
  ∀ j : Journal, j.file = none → j.disk.Holds s c → ∃ j', w j = ending res j' ∧ j'.file = none ∧
    j'.disk.Holds s c' ∧ Disk.OnlySlots s j.disk j'.disk

namespace Runs

theorem pure (a : α) : Runs s (Pure.pure a) c (.ok a) c := by
  intro j hj hc
  exact ⟨j, rfl, hj, hc, Disk.OnlySlots.refl s j.disk⟩

theorem note (level : Level) (message : String) : Runs s (Work.note level message) c (.ok ()) c := by
  intro j hj hc
  have hdisk : (j.note level message).disk = j.disk := Journal.disk_addLog hj _
  refine ⟨j.note level message, rfl, (Journal.file_addLog j _).trans hj, ?_, ?_⟩
  · rwa [hdisk]
  · rw [hdisk]
    exact Disk.OnlySlots.refl s j.disk

theorem bind {w : Work α} {f : α → Work β} {a : α} {res : Except Problem β}
    (h : Runs s w c (.ok a) c') (h' : Runs s (f a) c' res c'') :
    Runs s (w >>= f) c res c'' := by
  intro j hj hc
  obtain ⟨j', hw, hj', hc', ho⟩ := h j hj hc
  obtain ⟨j'', hf, hj'', hc'', ho'⟩ := h' j' hj' hc'
  exact ⟨j'', by rw [bind_of_ok hw, hf], hj'', hc'', ho.trans ho'⟩

theorem bind_error {w : Work α} (h : Runs s w c (.error p) c') (f : α → Work β) :
    Runs s (w >>= f) c (.error p) c' := by
  intro j hj hc
  obtain ⟨j', hw, hend⟩ := h j hj hc
  exact ⟨j', bind_of_error hw f, hend⟩

theorem apply {op : Disk → Except Cause Disk}
    (h : ∀ d, d.Holds s c → ∃ d', op d = .ok d' ∧ d'.Holds s c' ∧ Disk.OnlySlots s d d')
    (stage : Stage) (path : String) : Runs s (Work.apply stage path op) c (.ok ()) c' := by
  intro j hj hc
  obtain ⟨d', hop, hc', ho⟩ := h j.disk hc
  exact ⟨{ j with disk := d' }, by rw [Work.apply, hop]; rfl, hj, hc', ho⟩

theorem apply_error {op : Disk → Except Cause Disk} {cause : Cause}
    (h : ∀ d, d.Holds s c → op d = .error cause) (stage : Stage) (path : String) :
    Runs s (Work.apply stage path op) c (.error (.handling path stage cause)) c := by
  intro j hj hc
  exact ⟨j, by rw [Work.apply, h j.disk hc]; rfl, hj, hc, Disk.OnlySlots.refl s j.disk⟩

/-- What is got from the disk may vary as far as the work that follows does not. -/
theorem query_bind {op : Disk → Except Cause α} {f : α → Work β} {res : Except Problem β}
    {good : α → Prop} (h : ∀ d, d.Holds s c → ∃ a, op d = .ok a ∧ good a)
    (hf : ∀ a, good a → Runs s (f a) c res c') (stage : Stage) (path : String) :
    Runs s (Work.query stage path op >>= f) c res c' := by
  intro j hj hc
  obtain ⟨a, ha, hgood⟩ := h j.disk hc
  obtain ⟨j', hw, hend⟩ := hf a hgood j hj hc
  have hquery : Work.query stage path op j = ending (.ok a) j := by rw [Work.query, ha]; rfl
  exact ⟨j', by rw [bind_of_ok hquery, hw], hend⟩

theorem query_error {op : Disk → Except Cause α} {cause : Cause}
    (h : ∀ d, d.Holds s c → op d = .error cause) (stage : Stage) (path : String) :
    Runs s (Work.query stage path op) c (.error (.handling path stage cause)) c := by
  intro j hj hc
  exact ⟨j, by rw [Work.query, h j.disk hc]; rfl, hj, hc, Disk.OnlySlots.refl s j.disk⟩

theorem orRemove {w : Work Unit} (h : Runs s w c (.ok ()) c') (path : String) :
    Runs s (Work.orRemove path w) c (.ok ()) c' := by
  intro j hj hc
  obtain ⟨j', hw, hend⟩ := h j hj hc
  exact ⟨j', by rw [Work.orRemove, hw]; rfl, hend⟩

/-- After a problem the file is gone, if it could be removed at all. -/
theorem orRemove_error {w : Work Unit} (h : Runs s w c (.error p) c')
    (hs : suf ∈ Slots.suffixes) : Runs s (Work.orRemove (s.path ++ suf) w) c (.error p)
      (s.without c' suf) := by
  intro j hj hc
  obtain ⟨j', hw, hj', hc', ho⟩ := h j hj hc
  refine ⟨{ j' with disk := (j'.disk.removeFile (s.path ++ suf)).toOption.getD j'.disk },
    by rw [Work.orRemove, hw]; rfl, hj', ?_⟩
  by_cases hclear : s.Clear c' suf
  · rw [Seat.without_of_clear hclear]
    cases hn : c' suf with
    | none =>
      rw [hc'.removeFile_none hs hclear.1 hn, ← hn, Function.update_eq_self]
      exact ⟨hc', ho⟩
    | some n =>
      cases n with
      | dir => exact absurd hn hclear.2
      | file b =>
        rw [hc'.removeFile hs hclear.1 hn]
        obtain ⟨hend, ho'⟩ := hc'.unset hs hclear
        exact ⟨hend, ho.trans ho'⟩
  · rw [Seat.without, if_neg hclear, hc'.removeFile_of_not_clear hs hclear]
    exact ⟨hc', ho⟩

/-- Work that first looks at the disk, and finds the same wherever the slots hold `c`. -/
theorem get_ite {q : Journal → Bool} {x : Bool} {w w' : Work α} {res : Except Problem α}
    (h : ∀ j, j.disk.Holds s c → q j = x) (hw : Runs s (if x then w else w') c res c') :
    Runs s (get >>= fun j => if q j then w else w') c res c' := by
  intro j hj hc
  obtain ⟨j', hend, hj', hrest⟩ := hw j hj hc
  refine ⟨j', ?_, hj', hrest⟩
  change (if q j = true then w else w') j = _
  rw [h j hc]
  exact hend

/-! ## Operations on slots -/

theorem remove (hp : path' = s.path ++ suf) (hs : suf ∈ Slots.suffixes) (hb : s.Clear c suf)
    (stage : Stage) (path : String) :
    Runs s (Work.apply stage path (·.removeIfPresent path')) c (.ok ())
      (Function.update c suf none) := by
  subst hp
  exact apply (fun _ h => h.removeIfPresent hs hb) stage path

theorem remove_error (hp : path' = s.path ++ suf) (hs : suf ∈ Slots.suffixes)
    (hb : ¬ s.Clear c suf) (stage : Stage) (path : String) :
    Runs s (Work.apply stage path (·.removeIfPresent path')) c
      (.error (.handling path stage (s.refusal suf))) c := by
  subst hp
  exact apply_error (fun _ h => h.removeIfPresent_of_not_clear hs hb) stage path

theorem write (hp : path' = s.path ++ suf) (hs : suf ∈ Slots.suffixes) (hb : s.Clear c suf)
    (b : Utf8.Bytes) (stage : Stage) (path : String) :
    Runs s (Work.apply stage path (·.write path' b)) c (.ok ())
      (Function.update c suf (some (.file b))) := by
  subst hp
  exact apply (fun _ h => h.write hs hb b) stage path

theorem write_error (hp : path' = s.path ++ suf) (hs : suf ∈ Slots.suffixes)
    (hb : ¬ s.Clear c suf) (b : Utf8.Bytes) (stage : Stage) (path : String) :
    Runs s (Work.apply stage path (·.write path' b)) c
      (.error (.handling path stage (s.refusal suf))) c := by
  subst hp
  exact apply_error (fun _ h => h.write_of_not_clear hs hb b) stage path

theorem rename (hp : path = s.path ++ suf) (hp' : path' = s.path ++ suf')
    (hs : suf ∈ Slots.suffixes) (hs' : suf' ∈ Slots.suffixes) (hne : suf ≠ suf')
    (hf : s.Fits suf) (hf' : s.Fits suf') (hb : c suf = some (.file b)) (hnone : c suf' = none)
    (stage : Stage) (at' : String) :
    Runs s (Work.apply stage at' (·.rename path path')) c (.ok ())
      (Function.update (Function.update c suf none) suf' (some (.file b))) := by
  subst hp hp'
  exact apply (fun _ h => h.rename hs hs' hne hf hf' hb hnone) stage at'

end Runs

end Work

end Byline
