import Byline.Proofs.Authorship.Effect
import Byline.Proofs.Authorship.SameText
import Byline.Proofs.Diff.Hunks
import Byline.Proofs.Run.Process

/-!
# What the entry of a record says of its file

The entry of a record is made from what was read before the write and what is read after it. If the
record was written, the entry and the file agree in every detail (`Record.process_audited`), and if
it was not, the entry claims no change and there is none.

The outcome is told by the texts of the two files, line by line. A file whose text stays may get
other octets; `Record.process_unchanged_iff` says when it does.
-/

namespace Byline

open Authorship (EndsWithLine IsRegular insertsCrlf replacedTags)

/-- Two files show the same lines if their texts are cut into the same lines. -/
theorem Utf8.textLines_eq_iff {b b' : Utf8.Bytes} : Utf8.textLines b = Utf8.textLines b' ↔
    Byline.lines (Utf8.decodeLossy b) = Byline.lines (Utf8.decodeLossy b') :=
  List.map_inj_right fun _ _ h => String.ofList_injective h

namespace Diff

theorem applyAll?_compare (oldName newName : String) (old new : List String) :
    Delta.applyAll? old (compare oldName newName old new).deltas = some new :=
  (Delta.patches_between old new).applyFrom?_eq

theorem isEmpty_compare {oldName newName : String} {old new : List String} :
    (compare oldName newName old new).isEmpty = true ↔ old = new := by
  rw [isEmpty, List.isEmpty_iff]
  exact Delta.between_eq_nil_iff

end Diff

namespace Record

variable {r : Record} {mode : Mode} {d d' : Disk}

/-- The entry of a record whose file held `old` and was written as `new`. -/
def writtenEntry (r : Record) (mode : Mode) (old new : Utf8.Bytes) : ReportEntry :=
  { r.report (if (r.difference mode old new).isEmpty then .unchanged else .changed) with
    authors := r.written
    hashBefore := some (Digest.hex old)
    hashAfter := some (Digest.hex new)
    diff := some (r.difference mode old new) }

theorem isEmpty_difference {old new : Utf8.Bytes} : (r.difference mode old new).isEmpty = true ↔
    Utf8.textLines old = Utf8.textLines new := by
  rw [difference]
  exact Diff.isEmpty_compare

theorem outcome_writtenEntry (r : Record) (mode : Mode) (old new : Utf8.Bytes) :
    (r.writtenEntry mode old new).outcome =
      if Utf8.textLines old = Utf8.textLines new then .unchanged else .changed := by
  simp only [writtenEntry, report, isEmpty_difference]

/-- What becomes of a record that is processed: the record, its entry, and the disk. -/
inductive Processed (r : Record) (mode : Mode) (d : Disk) : Record → ReportEntry → Disk → Prop
  | written {old new : Utf8.Bytes} {n : Nat} {d' : Disk} (before : d.read r.path = .ok old)
      (anchor : r.anchor = some n) (hnew : new = Authorship.retag old r.written n)
      (after : d'.read ((Slots.of r.path).output mode) = .ok new) :
      Processed r mode d { r with diff := some (r.difference mode old new) }
        (r.writtenEntry mode old new) d'
  | left {e : ReportEntry} {d' : Disk} (outcome : e.outcome = .skipped ∨ e.outcome = .failed)
      (diff : e.diff = none) (hashAfter : e.hashAfter = none)
      (live : d'.node? r.path = d.node? r.path) : Processed r mode d r e d'

/-- A record keeps the difference that its entry shows. -/
theorem process_fst (r : Record) (mode : Mode) (j : Journal) :
    (r.process mode j).1 = { r with diff := (r.process mode j).2.1.diff.or r.diff } := by
  rw [process]
  cases j.disk.read r.path with
  | error c => rfl
  | ok before =>
    cases r.write mode j with
    | error p j' => rfl
    | ok w j' =>
      cases w with
      | installed =>
        simp only [compareOutput]
        cases j'.disk.read ((Slots.of r.path).output mode) <;> rfl
      | skipped => rfl
      | restored => rfl
      | nothingToRestore => rfl

/-- A live file that can be read has a seat, and what becomes of its record is told by its slots. -/
theorem processed (r : Record) (hm : mode ≠ .restore) (hd : d.root.Proper) {log : Log}
    {r' : Record} {e : ReportEntry} {j : Journal}
    (h : r.process mode { disk := d, log := log } = (r', e, j)) :
    r.Processed mode d r' e j.disk := by
  cases hread : d.read r.path with
  | error c =>
    rw [process] at h
    simp only [hread] at h
    obtain ⟨rfl, rfl, rfl⟩ := h
    have hdisk := Journal.disk_addLog (j := { disk := d, log := log }) rfl
    exact .left (.inr rfl) rfl rfl (congrArg (·.node? r.path) (hdisk _))
  | ok old =>
    obtain ⟨s, hs, hp⟩ := Disk.exists_seat_of_node? (Disk.read_eq_ok.1 hread)
    have hheld := Disk.holds_cells hd hs
    have hlive {d' : Disk} {c : Cells} (h : d'.Holds s c) :
        d'.node? r.path = if s.Fits "" then c "" else none := by
      rw [← hp, ← String.append_empty (s := s.path), h.node? Slots.live_mem]
    have hnode := (hlive hheld).symm.trans (Disk.read_eq_ok.1 hread)
    have hfit : s.Fits "" := by
      by_contra hf
      simp [hf] at hnode
    rw [if_pos hfit] at hnode
    obtain ⟨e₁, c', hyields, hfate⟩ := r.yields_process hp.symm hm hfit hnode
    obtain ⟨j₁, hstep, -, hend, -⟩ := hyields { disk := d, log := log } rfl hheld
    obtain ⟨rfl, rfl⟩ := Prod.mk.inj ((congrArg Prod.snd h).symm.trans hstep)
    obtain rfl : r' = { r with diff := e.diff.or r.diff } := by
      rw [← show _ = r' from congrArg Prod.fst h, process_fst, h]
    cases hfate with
    | @written n new diff _ type anchor disposition hnew fits fitsBackup hdiff out =>
      subst hdiff
      refine .written hread anchor hnew ?_
      rw [← hp, Slots.output_eq]
      exact hend.read (Slots.outputSuffix_mem mode) fits out.output
    | skipped nothing cleaned temp =>
      exact .left (.inl rfl) rfl rfl (by rw [hlive hend, hlive hheld, cleaned.live])
    | failed p cleared temp =>
      exact .left (.inr rfl) rfl rfl (by rw [hlive hend, hlive hheld, cleared.live])

/-- The entry and the record say what was done to the file: which octets it held, which octets are
in the output of the mode now, and how the lines of the one are made of those of the other. -/
structure Audited (r : Record) (mode : Mode) (old new : Utf8.Bytes) (n : Nat) (diff : Diff)
    (d d' : Disk) (r' : Record) (e : ReportEntry) : Prop where
  before : d.read r.path = .ok old
  after : d'.read ((Slots.of r.path).output mode) = .ok new
  anchor : r.anchor = some n
  authors : e.authors = r.written
  retagged : new = Authorship.retag old e.authors n
  hashBefore : e.hashBefore = some (Digest.hex old)
  hashAfter : e.hashAfter = some (Digest.hex new)
  entry : e.diff = some diff
  record : r' = { r with diff := some diff }
  applies : Delta.applyAll? (Utf8.textLines old) diff.deltas = some (Utf8.textLines new)

/-- Whatever stands on the disk, the entry of a record that was written agrees with the file before
and after. If the record was not written, its entry has no difference and no second digest, and the
live file is as it was. -/
theorem process_audited (r : Record) (hm : mode ≠ .restore) (hd : d.root.Proper) {log : Log}
    {r' : Record} {e : ReportEntry} {j : Journal}
    (h : r.process mode { disk := d, log := log } = (r', e, j)) :
    (e.outcome = .changed ∨ e.outcome = .unchanged →
      ∃ old new n diff, r.Audited mode old new n diff d j.disk r' e) ∧
    (e.outcome = .skipped ∨ e.outcome = .failed →
      e.diff = none ∧ e.hashAfter = none ∧ j.disk.node? r.path = d.node? r.path) := by
  cases r.processed hm hd h with
  | @written old new n _ before anchor hnew after =>
    refine ⟨fun _ => ⟨old, new, n, r.difference mode old new, ?_⟩, fun hout => ?_⟩
    · exact ⟨before, after, anchor, rfl, hnew, rfl, rfl, rfl, rfl, Diff.applyAll?_compare _ _ _ _⟩
    · rw [outcome_writtenEntry] at hout
      split_ifs at hout <;> simp at hout
  | left outcome diff hashAfter live =>
    refine ⟨fun hout => ?_, fun _ => ⟨diff, hashAfter, live⟩⟩
    rcases outcome with he | he <;> simp [he] at hout

theorem process_audited_stale : staleDisk.root.Proper ∧
    let (r', e, j) := staleRecord.process .backup { disk := staleDisk }
    e.outcome = .changed ∧
      ∃ old new n diff, staleRecord.Audited .backup old new n diff staleDisk j.disk r' e := by
  have hd : staleDisk.root.Proper := by decide +kernel
  have hout : (staleRecord.process .backup { disk := staleDisk }).2.1.outcome = .changed := by
    decide +kernel
  exact ⟨hd, hout, (process_audited staleRecord (by decide) hd rfl).1 (.inl hout)⟩

/-- The outcome is told by the texts of the file before and after, and the same file has the same
text. A file with the same text is the same file if and only if each tag that the authors replaced
was a text with the terminator that its place in the file gives a tag. -/
theorem process_unchanged_iff (r : Record) (hm : mode ≠ .restore) (hd : d.root.Proper) {log : Log}
    {r' : Record} {e : ReportEntry} {j : Journal}
    (h : r.process mode { disk := d, log := log } = (r', e, j))
    (hout : e.outcome = .changed ∨ e.outcome = .unchanged) :
    ∃ old new n, d.read r.path = .ok old ∧
      j.disk.read ((Slots.of r.path).output mode) = .ok new ∧ r.anchor = some n ∧
      e.hashBefore = some (Digest.hex old) ∧ e.hashAfter = some (Digest.hex new) ∧
      (e.outcome = .unchanged ↔ Utf8.textLines old = Utf8.textLines new) ∧
      (new = old → e.outcome = .unchanged) ∧
      ((∀ name ∈ r.written, EndsWithLine name) → e.outcome = .unchanged →
        (new = old ↔ ∀ line ∈ replacedTags (Utf8.lines old) n,
          IsRegular (insertsCrlf (Utf8.lines old)) line)) := by
  cases r.processed hm hd h with
  | @written old new n _ before anchor hnew after =>
    have htexts : (r.writtenEntry mode old new).outcome = .unchanged ↔
        Utf8.textLines old = Utf8.textLines new := by
      rw [outcome_writtenEntry]
      split_ifs with he <;> simp [he]
    refine ⟨old, new, n, before, after, anchor, rfl, rfl, htexts, fun he => ?_, fun hn he => ?_⟩
    · exact htexts.2 (congrArg Utf8.textLines he.symm)
    · subst hnew
      exact Authorship.retag_eq_self_iff hn (Utf8.textLines_eq_iff.1 (htexts.1 he)).symm
  | left outcome => rcases outcome with he | he <;> simp [he] at hout

/-- A file whose tag ends with a line feed only, unlike its first line. -/
def mixedDisk : Disk where
  root := .dir [("A.java",
    .file (Utf8.ofString "/**\r\n * @author J\n */\r\npublic class A {}\r\n"))]
  home := []

def mixedRecord : Record :=
  { path := "A.java", typeName := some "A", authors := ["J"], anchor := some 3 }

theorem process_unchanged_iff_mixed : mixedDisk.root.Proper ∧ ∃ r' e j,
    mixedRecord.process .noBackup { disk := mixedDisk } = (r', e, j) ∧ e.outcome = .unchanged ∧
      ∃ old new n, mixedDisk.read mixedRecord.path = .ok old ∧
        j.disk.read ((Slots.of mixedRecord.path).output .noBackup) = .ok new ∧
        (new = old ↔ ∀ line ∈ replacedTags (Utf8.lines old) n,
          IsRegular (insertsCrlf (Utf8.lines old)) line) := by
  have hd : mixedDisk.root.Proper := by decide +kernel
  have hout : (mixedRecord.process .noBackup { disk := mixedDisk }).2.1.outcome = .unchanged := by
    decide +kernel
  have hnames : ∀ name ∈ mixedRecord.written, EndsWithLine name := by decide +kernel
  obtain ⟨⟨r', e, j⟩, h⟩ : ∃ x, mixedRecord.process .noBackup { disk := mixedDisk } = x := ⟨_, rfl⟩
  rw [h] at hout
  obtain ⟨old, new, n, before, after, -, -, -, -, -, hsame⟩ :=
    process_unchanged_iff mixedRecord (by decide) hd h (.inr hout)
  exact ⟨hd, r', e, j, h, hout, old, new, n, before, after, hsame hnames hout⟩

/-- The tag gets another terminator, and the file counts as unchanged. -/
theorem process_unchanged_mixed :
    let (_, e, j) := mixedRecord.process .noBackup { disk := mixedDisk }
    e.outcome = .unchanged ∧ e.hashBefore ≠ e.hashAfter ∧
      j.disk.node? "A.java" ≠ mixedDisk.node? "A.java" := by
  decide +kernel

end Record

end Byline
