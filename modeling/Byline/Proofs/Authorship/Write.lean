import Byline.Proofs.Authorship.Block
import Byline.Proofs.Authorship.Work

/-!
# What a write leaves in the slots

A write that is complete leaves the new file in the output of the mode, and in backup mode the file
as it was in the backup. Any other write leaves the live file as it was; no more is lost than what
earlier runs left beside it and the mode does not keep (`Record.runs_write`). Putting a backup back
moves it to the live file, or changes nothing (`Slots.runs_restore`).
-/

namespace Byline

open Work (Runs)

namespace Cells

/-- Nothing is lost but what the mode does not keep, and it may still be there. -/
structure Cleared (mode : Mode) (c c' : Cells) : Prop where
  live : c' "" = c ""
  backup : c' ".at-save" = c ".at-save" ∨ mode = .noBackup ∧ c' ".at-save" = none
  test : c' ".at-test" = c ".at-test" ∨ mode ≠ .test ∧ c' ".at-test" = none

/-- What the mode does not keep is gone, and nothing else. -/
structure Cleaned (mode : Mode) (c c' : Cells) : Prop where
  live : c' "" = c ""
  backup : c' ".at-save" = if mode = .noBackup then none else c ".at-save"
  test : c' ".at-test" = if mode = .test then c ".at-test" else none

/-- The new file is in the output of the mode, and in backup mode the live file is in the backup. -/
structure Replaced (mode : Mode) (c : Cells) (new : Utf8.Bytes) (c' : Cells) : Prop where
  live : c' "" = if mode = .test then c "" else some (.file new)
  backup : c' ".at-save" = if mode = .backup then c "" else c ".at-save"
  temp : c' ".at-temp" = none
  test : c' ".at-test" = if mode = .test then some (.file new) else c ".at-test"

/-- The same, and what the mode does not keep is gone. -/
structure Installed (mode : Mode) (c : Cells) (new : Utf8.Bytes) (c' : Cells) : Prop where
  live : c' "" = if mode = .test then c "" else some (.file new)
  backup : c' ".at-save" =
    if mode = .backup then c "" else if mode = .noBackup then none else c ".at-save"
  temp : c' ".at-temp" = none
  test : c' ".at-test" = if mode = .test then some (.file new) else none

variable {mode : Mode} {c c' c'' : Cells} {new : Utf8.Bytes}

theorem Cleaned.cleared (h : Cleaned mode c c') : Cleared mode c c' := by
  refine ⟨h.live, ?_, ?_⟩
  · by_cases hm : mode = .noBackup
    · exact .inr ⟨hm, by rw [h.backup, if_pos hm]⟩
    · exact .inl (by rw [h.backup, if_neg hm])
  · by_cases hm : mode = .test
    · exact .inl (by rw [h.test, if_pos hm])
    · exact .inr ⟨hm, by rw [h.test, if_neg hm]⟩

theorem Cleaned.installed (h : Cleaned mode c c') {n : Option Node}
    (hr : Replaced mode (Function.update c' ".at-temp" n) new c'') : Installed mode c new c'' := by
  obtain ⟨hlive, hbackup, htemp, htest⟩ := hr
  rw [Function.update_of_ne (by decide), h.live] at hlive
  rw [Function.update_of_ne (by decide), Function.update_of_ne (by decide), h.live,
    h.backup] at hbackup
  rw [Function.update_of_ne (by decide), h.test] at htest
  refine ⟨hlive, hbackup, htemp, htest.trans ?_⟩
  split <;> rfl

theorem Cleared.of_temp (h : Cleared mode c c') (he : ∀ suf, suf ≠ ".at-temp" → c'' suf = c' suf) :
    Cleared mode c c'' := by
  refine ⟨?_, ?_, ?_⟩
  · rw [he "" (by decide)]
    exact h.live
  · rw [he ".at-save" (by decide)]
    exact h.backup
  · rw [he ".at-test" (by decide)]
    exact h.test

end Cells

namespace Slots

variable {s : Seat} {c : Cells} {b new : Utf8.Bytes}

theorem live_mem : "" ∈ suffixes := by decide

theorem backup_mem : ".at-save" ∈ suffixes := by decide

theorem temp_mem : ".at-temp" ∈ suffixes := by decide

theorem test_mem : ".at-test" ∈ suffixes := by decide

theorem live_eq (s : Seat) : (of s.path).live = s.path ++ "" := String.append_empty.symm

/-- What the path of the output has at its end. -/
def outputSuffix : Mode → String
  | .test => ".at-test"
  | _ => ""

theorem outputSuffix_mem (mode : Mode) : outputSuffix mode ∈ suffixes := by
  cases mode <;> decide

theorem output_eq (s : Seat) (mode : Mode) : (of s.path).output mode = s.path ++ outputSuffix mode := by
  cases mode with
  | test => rfl
  | backup => exact live_eq s
  | noBackup => exact live_eq s
  | restore => exact live_eq s

theorem runs_removeOld (s : Seat) (c : Cells) (mode : Mode) :
    (∃ c', Runs s ((of s.path).removeOld mode) c (.ok ()) c' ∧ Cells.Cleaned mode c c' ∧
      c' ".at-temp" = c ".at-temp") ∨
    ∃ p c', Runs s ((of s.path).removeOld mode) c (.error p) c' ∧ Cells.Cleared mode c c' ∧
      c' ".at-temp" = c ".at-temp" := by
  have hkept : Cells.Cleared mode c c := ⟨rfl, .inl rfl, .inl rfl⟩
  rw [removeOld]
  by_cases htest : s.Clear c ".at-test"
  · have h₁ := Runs.remove rfl test_mem htest .removeOldTest (of s.path).test
    cases mode with
    | backup => exact .inl ⟨_, h₁.bind (Runs.pure ()), ⟨by simp, by simp, by simp⟩, by simp⟩
    | restore => exact .inl ⟨_, h₁.bind (Runs.pure ()), ⟨by simp, by simp, by simp⟩, by simp⟩
    | test => exact .inl ⟨c, Runs.pure (), ⟨rfl, rfl, rfl⟩, rfl⟩
    | noBackup =>
      by_cases hsave : s.Clear (Function.update c ".at-test" none) ".at-save"
      · exact .inl ⟨_, h₁.bind (Runs.remove rfl backup_mem hsave .removeOldBackup _),
          ⟨by simp, by simp, by simp⟩, by simp⟩
      · exact .inr ⟨_, _, h₁.bind (Runs.remove_error rfl backup_mem hsave .removeOldBackup _),
          ⟨by simp, by simp, by simp⟩, by simp⟩
  · have h₁ := Runs.remove_error rfl test_mem htest .removeOldTest (of s.path).test
    cases mode with
    | backup => exact .inr ⟨_, c, h₁.bind_error _, hkept, rfl⟩
    | restore => exact .inr ⟨_, c, h₁.bind_error _, hkept, rfl⟩
    | noBackup => exact .inr ⟨_, c, h₁.bind_error _, hkept, rfl⟩
    | test => exact .inl ⟨c, Runs.pure (), ⟨rfl, rfl, rfl⟩, rfl⟩

theorem runs_makeCopy_file (hb : c "" = some (.file b)) (hf : s.Fits "")
    (htemp : s.Clear c ".at-temp") (authors : List String) (anchor : Nat) :
    Runs s ((of s.path).makeCopy authors anchor) c (.ok ())
      (Function.update c ".at-temp" (some (.file (Authorship.retag b authors anchor)))) := by
  have hlive (d : Disk) (hd : d.Holds s c) : d.lookup (of s.path).live = .ok (.file b) := by
    rw [live_eq, hd.lookup_file live_mem hf hb]
  refine Runs.query_bind (fun d hd => ⟨_, hlive d hd, rfl⟩) ?_ .makeCopy _
  rintro _ rfl
  have hagain : s.Clear (Function.update c ".at-temp" (some (.file []))) ".at-temp" :=
    ⟨htemp.1, by simp⟩
  refine (Runs.write rfl temp_mem htemp [] .makeCopy _).bind ?_
  refine Runs.query_bind (fun d _ => ⟨b, rfl, rfl⟩) ?_ .makeCopy _
  rintro _ rfl
  have hwrite := Runs.write rfl temp_mem hagain (Authorship.retag b authors anchor) .makeCopy
    (of s.path).live
  rw [Function.update_idem] at hwrite
  rw [Authorship.retagChunks, Authorship.Writer.pushRead_eq_pushAll, List.flatten_singleton]
  exact hwrite

theorem runs_makeCopy_error (hb : ∀ b, c "" ≠ some (.file b) ∨ ¬ s.Fits "" ∨ ¬ s.Clear c ".at-temp")
    (authors : List String) (anchor : Nat) :
    ∃ p c', Runs s ((of s.path).makeCopy authors anchor) c (.error p) c' ∧
      (c' = c ∨ s.Clear c ".at-temp" ∧ c' = Function.update c ".at-temp" (some (.file []))) := by
  by_cases hf : s.Fits ""
  · cases hc : c "" with
    | none =>
      have hlive (d : Disk) (hd : d.Holds s c) : d.lookup (of s.path).live = .error .notFound := by
        rw [live_eq, hd.lookup live_mem hf,
          Tree.nodeAt?_eq_none.1 ((hd.nodes "" live_mem hf).trans hc)]
      exact ⟨_, c, (Runs.query_error hlive .makeCopy _).bind_error _, .inl rfl⟩
    | some n =>
      have hlive (d : Disk) (hd : d.Holds s c) :
          ∃ t, d.lookup (of s.path).live = .ok t ∧ t.node = n := by
        obtain ⟨t, ht, hn⟩ := Option.map_eq_some_iff.1 ((hd.nodes "" live_mem hf).trans hc)
        exact ⟨t, by rw [live_eq, hd.lookup live_mem hf, ht], hn⟩
      by_cases htemp : s.Clear c ".at-temp"
      · cases n with
        | file b => exact absurd hc (by simpa [hf, htemp] using hb b)
        | dir =>
          refine ⟨.handling s.path .makeCopy .isDirectory, _,
            Runs.query_bind hlive (fun t ht => ?_) .makeCopy _, .inr ⟨htemp, rfl⟩⟩
          refine (Runs.write rfl temp_mem htemp [] .makeCopy _).bind (Runs.bind_error ?_ _)
          have hdir : Disk.content t = .error .isDirectory := by
            cases t with
            | file b => simp [Tree.node] at ht
            | dir es => rfl
          exact Runs.query_error (fun _ _ => hdir) .makeCopy _
      · exact ⟨_, c, Runs.query_bind hlive (fun t _ =>
          (Runs.write_error rfl temp_mem htemp [] .makeCopy _).bind_error _) .makeCopy _, .inl rfl⟩
  · have hlive (d : Disk) (hd : d.Holds s c) :
        d.lookup (of s.path).live = .error .nameTooLong := by
      rw [live_eq, hd.lookup_of_not_fits live_mem hf]
    exact ⟨_, c, (Runs.query_error hlive .makeCopy _).bind_error _, .inl rfl⟩

/-- The working copy is made from a live file that is there; else no working copy is left. -/
theorem runs_copy (s : Seat) (c : Cells) (authors : List String) (anchor : Nat) :
    (∃ b, c "" = some (.file b) ∧ s.Fits ".at-temp" ∧
      Runs s (Work.orRemove (of s.path).temp ((of s.path).makeCopy authors anchor)) c (.ok ())
        (Function.update c ".at-temp" (some (.file (Authorship.retag b authors anchor))))) ∨
    ∃ p c₁, Runs s (Work.orRemove (of s.path).temp ((of s.path).makeCopy authors anchor)) c
      (.error p) c₁ ∧ (∀ suf, suf ≠ ".at-temp" → c₁ suf = c suf) ∧
        (c₁ ".at-temp" = none ∨ c₁ ".at-temp" = c ".at-temp") := by
  by_cases h : ∃ b, c "" = some (.file b) ∧ s.Fits "" ∧ s.Clear c ".at-temp"
  · obtain ⟨b, hb, hf, htemp⟩ := h
    exact .inl ⟨b, hb, htemp.1, (runs_makeCopy_file hb hf htemp authors anchor).orRemove _⟩
  · right
    have hb (b : Utf8.Bytes) : c "" ≠ some (.file b) ∨ ¬ s.Fits "" ∨ ¬ s.Clear c ".at-temp" := by
      by_contra hno
      push Not at hno
      exact h ⟨b, hno⟩
    obtain ⟨p, c', hrun, rfl | ⟨htemp, rfl⟩⟩ := runs_makeCopy_error hb authors anchor
    -- Where no working copy was made, the removal may take one that was there before.
    · exact ⟨p, _, hrun.orRemove_error temp_mem, fun _ hne => s.without_of_ne _ hne,
        s.without_self _ _⟩
    · have hclear : s.Clear (Function.update c ".at-temp" (some (.file []))) ".at-temp" :=
        ⟨htemp.1, by simp⟩
      have hend := hrun.orRemove_error temp_mem
      rw [Seat.without_of_clear hclear, Function.update_idem] at hend
      exact ⟨p, _, hend, fun _ hne => Function.update_of_ne hne _ _,
        .inl (Function.update_self _ _ _)⟩

/-- The working copy takes the place of a file in the output of the mode. -/
theorem runs_replace {suf output : String} (ho : output = s.path ++ suf) (hs : suf ∈ suffixes)
    (hne : ".at-temp" ≠ suf) (hclear : s.Clear c suf) (hf : s.Fits ".at-temp")
    (hn : c ".at-temp" = some (.file new)) :
    Runs s (do
      Work.note .trace ("Writing " ++ output)
      Work.apply .replace output (·.removeIfPresent output)
      Work.apply .replace output (·.rename (of s.path).temp output)) c (.ok ())
      (Function.update (Function.update (Function.update c suf none) ".at-temp" none) suf
        (some (.file new))) := by
  refine (Runs.note .trace _).bind ((Runs.remove ho hs hclear .replace output).bind ?_)
  refine Runs.rename rfl ho temp_mem hs hne hf hclear.1 ?_ ?_ .replace output
  · rw [Function.update_of_ne hne, hn]
  · exact Function.update_self suf none c

/-- The working copy moves to the output of the mode, or it is gone and all else is as it was. -/
theorem runs_install (hb : c "" = some (.file b))
    (hn : c ".at-temp" = some (.file new)) (hf : s.Fits ".at-temp") (mode : Mode) :
    (∃ c', Runs s (Work.orRemove (of s.path).temp ((of s.path).install mode)) c (.ok ()) c' ∧
      s.Fits (outputSuffix mode) ∧ (mode = .backup → s.Fits ".at-save") ∧
        Cells.Replaced mode c new c') ∨
    ∃ p c', Runs s (Work.orRemove (of s.path).temp ((of s.path).install mode)) c (.error p) c' ∧
      (∀ suf, suf ≠ ".at-temp" → c' suf = c suf) ∧ c' ".at-temp" = none := by
  have hlive : s.Clear c "" := ⟨hf.live, by simp [hb]⟩
  have htemp : s.Clear c ".at-temp" := ⟨hf, by simp [hn]⟩
  have hgone {p : Problem} (h : Runs s ((of s.path).install mode) c (.error p) c) :
      ∃ p c', Runs s (Work.orRemove (of s.path).temp ((of s.path).install mode)) c (.error p) c' ∧
        (∀ suf, suf ≠ ".at-temp" → c' suf = c suf) ∧ c' ".at-temp" = none := by
    have hend := h.orRemove_error temp_mem
    rw [Seat.without_of_clear htemp] at hend
    exact ⟨p, _, hend, fun _ hne => Function.update_of_ne hne _ _, Function.update_self _ _ _⟩
  have hput := runs_replace (live_eq s) live_mem (by decide) hlive hf hn
  cases mode with
  | noBackup => exact .inl ⟨_, hput.orRemove _, hf.live, by simp, by simp, by simp, by simp, by simp⟩
  | restore => exact .inl ⟨_, hput.orRemove _, hf.live, by simp, by simp, by simp, by simp, by simp⟩
  | test =>
    by_cases htest : s.Clear c ".at-test"
    · exact .inl ⟨_, (runs_replace rfl test_mem (by decide) htest hf hn).orRemove _, htest.1,
        by simp, by simp, by simp, by simp, by simp⟩
    · exact .inr (hgone ((Runs.note .trace _).bind
        ((Runs.remove_error rfl test_mem htest .replace _).bind_error _)))
  | backup =>
    by_cases hsave : s.Clear c ".at-save"
    · have hpath : (of s.path).backup = s.path ++ ".at-save" := rfl
      have hremove := Runs.remove hpath backup_mem hsave .removeOldBackup (of s.path).backup
      have hmove := Runs.rename (live_eq s) hpath live_mem backup_mem (by decide) hf.live hsave.1
        (by simpa using hb) (Function.update_self _ _ c) .backUp s.path
      have hout := runs_replace (live_eq s) live_mem (by decide)
        (c := Function.update (Function.update (Function.update c ".at-save" none) "" none)
          ".at-save" (some (.file b)))
        ⟨hf.live, by simp⟩ hf (by simpa using hn)
      exact .inl ⟨_, ((Runs.note .trace _).bind (hremove.bind (hmove.bind hout))).orRemove _, hf.live,
        fun _ => hsave.1, by simp, by simp [hb], by simp, by simp⟩
    · exact .inr (hgone ((Runs.note .trace _).bind
        ((Runs.remove_error rfl backup_mem hsave .removeOldBackup _).bind_error _)))

/-- How putting a file back ends, and what is in the slots then. -/
inductive Restores (s : Seat) (c : Cells) : Except Problem Written → Cells → Prop
  | restored {b : Utf8.Bytes} {c' : Cells} (fits : s.Fits ".at-save")
      (backup : c ".at-save" = some (.file b)) (live : c' "" = some (.file b))
      (gone : c' ".at-save" = none) (temp : c' ".at-temp" = c ".at-temp")
      (test : c' ".at-test" = c ".at-test") : Restores s c (.ok .restored) c'
  | nothing (h : s.Fits ".at-save" → c ".at-save" = none) : Restores s c (.ok .nothingToRestore) c
  | failed (p : Problem) (h : c "" = some .dir) : Restores s c (.error p) c

/-- A file is put back as it is, if there is one. -/
theorem runs_restore (hc : c ".at-save" ≠ some .dir) :
    ∃ res c', Runs s (of s.path).restore c res c' ∧ Restores s c res c' := by
  have hhas (j : Journal) (hj : j.disk.Holds s c) :
      (!j.disk.has (of s.path).backup) = !(if s.Fits ".at-save" then c ".at-save" else none).isSome := by
    rw [← hj.node? backup_mem, Disk.node?, Option.isSome_map]
    rfl
  rw [restore]
  by_cases hf : s.Fits ".at-save"
  · simp only [if_pos hf] at hhas
    cases hb : c ".at-save" with
    | none =>
      rw [hb] at hhas
      exact ⟨_, c, Runs.get_ite hhas (Runs.pure _), .nothing fun _ => hb⟩
    | some n =>
      rw [hb] at hhas
      cases n with
      | dir => exact absurd hb hc
      | file b =>
        by_cases hlive : s.Clear c ""
        · have hmove := Runs.rename (c := Function.update c "" none)
            (show (of s.path).backup = s.path ++ ".at-save" from rfl) (live_eq s) backup_mem live_mem
            (by decide) hf hf.live (by simpa using hb) (by simp) .restore (of s.path).backup
          refine ⟨_, _, Runs.get_ite hhas ((Runs.note .debug _).bind
            ((Runs.remove (live_eq s) live_mem hlive .remove _).bind (hmove.bind (Runs.pure _)))), ?_⟩
          exact .restored hf hb (by simp) (by simp) (by simp) (by simp)
        · refine ⟨_, c, Runs.get_ite hhas ((Runs.note .debug _).bind
            ((Runs.remove_error (live_eq s) live_mem hlive .remove _).bind_error _)), .failed _ ?_⟩
          by_contra hdir
          exact hlive ⟨hf.live, hdir⟩
  · simp only [if_neg hf] at hhas
    exact ⟨_, c, Runs.get_ite hhas (Runs.pure _), .nothing fun h => absurd h hf⟩

end Slots

theorem Cells.Installed.output {mode : Mode} {c c' : Cells} {new : Utf8.Bytes}
    (h : Cells.Installed mode c new c') : c' (Slots.outputSuffix mode) = some (.file new) := by
  cases mode with
  | test => exact h.test
  | backup => exact h.live
  | noBackup => exact h.live
  | restore => exact h.live

namespace Record

variable {r : Record} {s : Seat} {mode : Mode} {c : Cells}

/-- How a write ends, and what is in the slots then. -/
inductive Ends (r : Record) (mode : Mode) (s : Seat) (c : Cells) :
    Except Problem Written → Cells → Prop
  | installed {b : Utf8.Bytes} {n : Nat} {c' : Cells} (type : r.typeName.isSome = true)
      (anchor : r.anchor = some n) (disposition : r.disposition ≠ .skip)
      (live : c "" = some (.file b)) (fits : s.Fits (Slots.outputSuffix mode))
      (fitsBackup : mode = .backup → s.Fits ".at-save")
      (out : Cells.Installed mode c (Authorship.retag b r.written n) c') :
      Ends r mode s c (.ok .installed) c'
  | skipped {c' : Cells}
      (nothing : r.typeName.isSome = true → r.anchor.isSome = true → r.disposition = .skip)
      (cleaned : Cells.Cleaned mode c c') (temp : c' ".at-temp" = c ".at-temp") :
      Ends r mode s c (.ok .skipped) c'
  | failed (p : Problem) {c' : Cells} (cleared : Cells.Cleared mode c c')
      (temp : c' ".at-temp" = none ∨ c' ".at-temp" = c ".at-temp") : Ends r mode s c (.error p) c'

theorem write_eq_install {name : String} {n : Nat} (hm : mode ≠ .restore)
    (hname : r.typeName = some name) (hn : r.anchor = some n) (hd : r.disposition ≠ .skip) :
    r.write mode = do
      (Slots.of r.path).removeOld mode
      Work.note .info ("Processing type: " ++ name)
      Work.note .debug ("Final author list for " ++ name ++ " is: " ++ Quoted.encodeList r.written)
      Work.orRemove (Slots.of r.path).temp ((Slots.of r.path).makeCopy r.written n)
      Work.orRemove (Slots.of r.path).temp ((Slots.of r.path).install mode)
      return .installed := by
  rw [write, if_neg hm, hname, hn]
  cases h : r.disposition with
  | merge => rfl
  | overwrite => rfl
  | skip => exact absurd h hd

theorem write_eq_skip (hm : mode ≠ .restore)
    (h : r.typeName.isSome = true → r.anchor.isSome = true → r.disposition = .skip) :
    r.write mode = do
      (Slots.of r.path).removeOld mode
      Work.note .info ("Skipping file: " ++ (Slots.of r.path).live)
      return .skipped := by
  rw [write, if_neg hm]
  cases hname : r.typeName with
  | none => rfl
  | some name =>
    cases hn : r.anchor with
    | none => rfl
    | some n =>
      rw [h (by rw [hname]; rfl) (by rw [hn]; rfl)]

theorem runs_write (hp : r.path = s.path) (hm : mode ≠ .restore) (c : Cells) :
    ∃ res c', Runs s (r.write mode) c res c' ∧ r.Ends mode s c res c' := by
  obtain ⟨c₁, hold, hclean, htemp⟩ | ⟨p, c₁, hold, hclear, htemp⟩ := Slots.runs_removeOld s c mode
  · by_cases ht : r.typeName.isSome = true → r.anchor.isSome = true → r.disposition = .skip
    · rw [write_eq_skip hm ht, hp]
      exact ⟨_, c₁, hold.bind ((Runs.note .info _).bind (Runs.pure _)), .skipped ht hclean htemp⟩
    · push Not at ht
      obtain ⟨htype, hanchor, hd⟩ := ht
      obtain ⟨name, hname⟩ := Option.isSome_iff_exists.1 htype
      obtain ⟨n, hn⟩ := Option.isSome_iff_exists.1 hanchor
      rw [write_eq_install hm hname hn hd, hp]
      obtain ⟨b, hb, hf, hcopy⟩ | ⟨p, c₂, hcopy, hrest, hgone⟩ := Slots.runs_copy s c₁ r.written n
      · have hcopied : Function.update c₁ ".at-temp" (some (.file (Authorship.retag b r.written n)))
            "" = some (.file b) := by
          rw [Function.update_of_ne (by decide), hb]
        obtain ⟨c₃, hinst, hfit, hsave, hout⟩ | ⟨p, c₃, hinst, hrest, hgone⟩ :=
          Slots.runs_install hcopied (Function.update_self _ _ c₁) hf mode
        · refine ⟨_, c₃, hold.bind ((Runs.note .info _).bind ((Runs.note .debug _).bind
            (hcopy.bind (hinst.bind (Runs.pure _))))), ?_⟩
          exact .installed htype hn hd (hclean.live ▸ hb) hfit hsave (hclean.installed hout)
        · refine ⟨_, c₃, hold.bind ((Runs.note .info _).bind ((Runs.note .debug _).bind
            (hcopy.bind (hinst.bind_error _)))), .failed p (hclean.cleared.of_temp ?_) (.inl hgone)⟩
          intro suf hne
          rw [hrest suf hne, Function.update_of_ne hne]
      · refine ⟨_, c₂, hold.bind ((Runs.note .info _).bind ((Runs.note .debug _).bind
          (hcopy.bind_error _))), .failed p (hclean.cleared.of_temp hrest) ?_⟩
        rwa [htemp] at hgone
  · refine ⟨_, c₁, ?_, .failed p hclear (.inr htemp)⟩
    rw [write, if_neg hm, hp]
    exact hold.bind_error _

end Record

end Byline
