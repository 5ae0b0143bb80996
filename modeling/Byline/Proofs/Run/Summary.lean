import Byline.Proofs.Run.Tagging

/-!
# What the summary of a run counts

Each stage accounts for what it is given: a source is analyzed or discarded, a record that was
analyzed is dropped by the script or has an entry, and an entry has one of four outcomes
(`Settings.runOn_summary`). The records that were dropped are in no count if the script is no text
(`Settings.runOn_summary_brokenScript`).
-/

namespace Byline

section Loop

variable {α : Type} {f : Record → Journal → α × Journal}

namespace Records

theorem length_inOrder (f : Record → Journal → α × Journal) (rs : List Record) (j : Journal) :
    (inOrder f rs j).1.length = rs.length := by
  induction rs generalizing j with
  | nil => rfl
  | cons r rs ih => exact congrArg (· + 1) (ih _)

/-- What holds of the result of each step holds of all results. -/
theorem forall_mem_inOrder {p : α → Prop} (h : ∀ r j, p (f r j).1) (rs : List Record)
    (j : Journal) : ∀ a ∈ (inOrder f rs j).1, p a := by
  induction rs generalizing j with
  | nil => exact fun a ha => absurd ha List.not_mem_nil
  | cons r rs ih => exact List.forall_mem_cons.2 ⟨h r j, ih _⟩

end Records

end Loop

/-- The outcomes of files that are tagged or skipped. -/
def Outcome.ofTagging : List Outcome := [.changed, .unchanged, .skipped, .failed]

theorem Record.process_outcome (r : Record) (mode : Mode) (j : Journal) :
    (r.process mode j).2.1.outcome ∈ Outcome.ofTagging := by
  have hskipped : Outcome.skipped ∈ Outcome.ofTagging := by decide
  have hfailed : Outcome.failed ∈ Outcome.ofTagging := by decide
  rw [process]
  cases j.disk.read r.path with
  | error c => exact hfailed
  | ok before =>
    cases r.write mode j with
    | error p j' => exact hfailed
    | ok w j' =>
      cases w with
      | installed =>
        simp only [compareOutput]
        cases j'.disk.read ((Slots.of r.path).output mode) with
        | error c => exact (by decide : Outcome.changed ∈ Outcome.ofTagging)
        | ok after =>
          simp only
          split
          · decide
          · decide
      | skipped => exact hskipped
      | restored => exact hskipped
      | nothingToRestore => exact hskipped

namespace Records

theorem length_processAll (mode : Mode) (rs : Records) (j : Journal) :
    (processAll mode rs j).1.length = rs.length := by
  rw [processAll_eq]
  exact length_inOrder _ rs j

theorem processAll_outcome (mode : Mode) (rs : Records) (j : Journal) :
    ∀ e ∈ (processAll mode rs j).1, e.outcome ∈ Outcome.ofTagging := by
  rw [processAll_eq]
  exact forall_mem_inOrder (fun r j => r.process_outcome mode j) rs j

end Records

/-- The entries with these outcomes are all there are. -/
theorem length_eq_countOutcome {files : List ReportEntry}
    (h : ∀ e ∈ files, e.outcome ∈ Outcome.ofTagging) :
    files.length = countOutcome .changed files + countOutcome .unchanged files +
      countOutcome .skipped files + countOutcome .failed files := by
  induction files with
  | nil => rfl
  | cons e files ih =>
    obtain ⟨he, hfiles⟩ := List.forall_mem_cons.1 h
    have ih := ih hfiles
    simp only [countOutcome, List.countP_cons, List.length_cons] at ih ⊢
    cases ho : e.outcome <;> simp [ho, Outcome.ofTagging] at he ⊢ <;> omega

/-- The records that a script drops are counted, and the count is lost if the script is no text. -/
theorem Script.load_counts {d : Disk} {j : Journal} (path : String) (rs : Records) (h : j.On d)
    (hh : d.held = none) :
    (∀ b, d.read path = .ok b → (load path rs j).2.1.toOption.isSome = Utf8.isValid b ∧
      ∃ dropped, dropped + (load path rs j).1.length = rs.length ∧
        ((load path rs j).2.1.toOption.map (·.skipped)).getD 0 =
          if Utf8.isValid b then dropped else 0) ∧
    ((∀ b, d.read path ≠ .ok b) → (load path rs j).1 = rs ∧
      ((load path rs j).2.1.toOption.map (·.skipped)).getD 0 = 0) := by
  refine ⟨fun b hb => ?_, fun hnot => ?_⟩
  · obtain ⟨act, -, hact⟩ := exists_act_runOctets b
    obtain ⟨-, hcount, hwhole⟩ := hact rs
    rw [load_of_read rs h hh hb, hwhole]
    cases Utf8.isValid b with
    | true => exact ⟨rfl, _, hcount, rfl⟩
    | false => exact ⟨rfl, _, hcount, rfl⟩
  · have hs : (d.read path).toOption = none := by
      rw [Option.eq_none_iff_forall_ne_some]
      intro b hb
      exact hnot b (toOption_eq_some.1 hb)
    obtain ⟨p, hload⟩ := load_of_not_read rs h hs
    rw [hload]
    exact ⟨rfl, rfl⟩

namespace Settings

variable {s : Settings} {d : Disk}

/-- What the summary counts. In a tagging run each source is analyzed or discarded, each entry has
one of the outcomes that are counted, and a record that was analyzed has an entry if the script did
not drop it. The dropped records are counted if the script is a text; of a script that is no text,
the lines before the first that is none drop records all the same. -/
theorem runOn_summary (s : Settings) (d : Disk) :
    let r := (s.runOn d).1
    (s.mode ≠ .restore →
      r.summary.enumerated = r.summary.analyzed + r.summary.discarded ∧
      r.files.length =
        r.summary.changed + r.summary.unchanged + r.summary.skipped + r.summary.failed ∧
      (∀ b, d.read s.rulesPath = .ok b → r.rules.isSome = Utf8.isValid b ∧
        ∃ dropped, r.summary.analyzed = dropped + r.files.length ∧
          r.summary.skippedByRules = if Utf8.isValid b then dropped else 0) ∧
      ((∀ b, d.read s.rulesPath ≠ .ok b) →
        r.summary.analyzed = r.files.length ∧ r.summary.skippedByRules = 0)) ∧
    (s.mode = .restore →
      r.files.length = r.summary.enumerated ∧
      r.summary.restored = countOutcome .restored r.files ∧
      r.summary.failed = countOutcome .failed r.files) := by
  intro r
  obtain ⟨j, hj, hrun⟩ := s.exists_run_eq d
  refine ⟨fun hm => ?_, fun hm => ?_⟩
  · rw [if_neg hm] at hrun
    obtain ⟨discarded, j₁, log, hj₁, hcount, hstages⟩ := s.runTagging_stages (s.sourceRecords d) hj
    have hr : r = (s.runTagging (s.sourceRecords d) j).1 := congrArg Prod.fst hrun
    rw [hr, hstages]
    simp only [makeReport]
    obtain ⟨hread, hunread⟩ := Script.load_counts s.rulesPath
      (Records.analyzed d.release (s.sourceRecords d)) hj₁ rfl
    generalize Script.load s.rulesPath (Records.analyzed d.release (s.sourceRecords d)) j₁ = loaded
      at hread hunread ⊢
    have hlength := Records.length_processAll s.mode loaded.1
      ((loaded.2.2.addLog log).note .info "Writing to disk")
    rw [hlength]
    refine ⟨hcount.symm, ?_, fun b hb => ?_, fun hnot => ?_⟩
    · rw [← hlength]
      exact length_eq_countOutcome (Records.processAll_outcome _ _ _)
    · obtain ⟨hrules, dropped, hdropped, hskipped⟩ := hread b hb
      exact ⟨hrules, dropped, hdropped.symm, hskipped⟩
    · obtain ⟨hkept, hskipped⟩ := hunread hnot
      exact ⟨congrArg List.length hkept.symm, hskipped⟩
  · rw [if_pos hm] at hrun
    have hr : r = (s.runRestore (s.sourceRecords d) j).1 := congrArg Prod.fst hrun
    rw [hr, runRestore, Records.restoreAll_eq]
    exact ⟨Records.length_inOrder _ _ _, rfl, rfl⟩

/-- A source, and a script that drops it and then is no text. -/
def brokenScriptDisk : Disk where
  root := .dir [(".authors", .file (Utf8.ofString "$ A\n!skip\n" ++ [0xFF])),
    ("p", .dir [("A.java", .file (Utf8.ofString "public class A {}\n"))])]
  home := []

/-- The record that was dropped is in no count. -/
theorem runOn_summary_brokenScript :
    let s : Settings := ⟨"p", "p", ".authors", .backup, none, {}⟩
    let r := (s.runOn brokenScriptDisk).1
    r.files.length = 0 ∧ r.summary = { enumerated := 1, analyzed := 1 } ∧
      r.summary.analyzed ≠ r.summary.skippedByRules + r.summary.changed + r.summary.unchanged +
        r.summary.skipped + r.summary.failed := by
  decide +kernel

end Settings

end Byline
