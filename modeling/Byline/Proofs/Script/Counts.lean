import Byline.Proofs.Script.Records

/-!
# What the counts of a script say

The counts of a script are kept apart from the records, and agree with them (`State.Accounts`): the
records that left are those counted as dropped, and where none left, the names in the lists of all
records grew by those counted as added less those counted as removed. One line keeps the accounts,
and so does any number of lines (`accounts_step_run`).

The operation of a line is treated record by record: what it does to the names of one record is what
it counts for that record (`Operation.names_singleton`).
-/

namespace Byline

/-- The number of names in both lists of a record. -/
def Record.names (r : Record) : Nat := r.authors.length + r.newAuthors.length

/-- The number of names in the lists of all records. -/
def Records.names (rs : Records) : Nat := total (rs.map Record.names)

namespace Record

/-- A name is given to a record that lacks it, and to no other. -/
theorem names_addNew (r : Record) (name : String) :
    (r.addNew name).names = r.names + if r.lacksNew name then 1 else 0 := by
  unfold names addNew lacksNew Names.add
  split
  · rw [List.length_append]
    rfl
  · rfl

/-- The names that are dropped are counted in both lists. -/
theorem names_dropAuthors (r : Record) (p : String → Bool) :
    (r.dropAuthors p).names + r.countAuthors p = r.names := by
  have hfilter (names : List String) : (names.filter (!p ·)).length + names.countP p = names.length := by
    have hsplit := List.length_eq_countP_add_countP p (l := names)
    rw [List.countP_eq_length_filter (p := fun a => ¬ p a = true)] at hsplit
    simp only [Bool.not_eq_true, Bool.decide_eq_false] at hsplit
    omega
  have hauthors := hfilter r.authors
  have hnew := hfilter r.newAuthors
  simp only [names, dropAuthors, countAuthors]
  omega

end Record

namespace Records

theorem names_append (rs rs' : Records) : names (rs ++ rs') = names rs + names rs' := by
  rw [names, List.map_append, total_append]
  rfl

@[simp]
theorem names_nil : names [] = 0 := rfl

@[simp]
theorem names_cons (r : Record) (rs : Records) : names (r :: rs) = r.names + names rs := rfl

end Records

/-- What is left out of a list, and what is left of it. -/
theorem countP_isNone_add_length_filterMap {α β : Type} (f : α → Option β) (l : List α) :
    (l.countP fun a => (f a).isNone) + (l.filterMap f).length = l.length := by
  rw [List.length_filterMap_eq_countP, l.length_eq_countP_add_countP fun a => (f a).isNone]
  congr 2
  funext a
  cases f a <;> rfl

namespace Script

open Records (names_append names_cons)

/-! ## Operations -/

namespace Operation

variable (op : Operation) (rs : Records)

/-- Does the operation drop the record? -/
def drops (r : Record) : Bool := (op.act r).isNone

/-- What is counted for one record is what happens to its names, unless it is dropped. -/
theorem names_singleton (r : Record) :
    (op.apply [r]).names + Records.names ([r].filter op.drops) + (op.count [r]).removed =
      r.names + (op.count [r]).added := by
  have hkept {r' : Record} (h : op.act r = some r') :
      op.apply [r] = [r'] ∧ [r].filter op.drops = [] := by
    simp [apply_eq, drops, h]
  cases op with
  | nothing => rfl
  | dispose f d =>
    rw [(hkept rfl).1, (hkept rfl).2]
    split <;> rfl
  | drop f =>
    by_cases hf : Records.covers f r = true
    · simp [apply, count, drops, act, Records.skip, hf]
    · simp [apply, count, drops, act, Records.skip, hf]
  | give f name =>
    rw [(hkept rfl).1, (hkept rfl).2]
    by_cases hf : Records.covers f r = true
    · have hnames := r.names_addNew name
      by_cases hl : r.lacksNew name = true
      · simpa [count, Records.gaining, Records.covered, hf, hl] using hnames
      · simpa [count, Records.gaining, Records.covered, hf, hl] using hnames
    · simp [count, Records.gaining, Records.covered, hf]
  | remove f p =>
    rw [(hkept rfl).1, (hkept rfl).2]
    by_cases hf : Records.covers f r = true
    · simpa [count, Records.countRemoved, Records.covered, total, hf] using r.names_dropAuthors p
    · simp [count, Records.countRemoved, Records.covered, total, hf]

/-- What is counted is what happens to the names of all records that are not dropped. -/
theorem names_apply :
    (op.apply rs).names + Records.names (rs.filter op.drops) + (op.count rs).removed =
      rs.names + (op.count rs).added := by
  induction rs with
  | nil => cases op <;> rfl
  | cons r rs ih =>
    have hr := op.names_singleton r
    rw [← List.singleton_append, op.apply_append, op.count_append, List.filter_append, names_append,
      names_append, names_append, Stats.added_add, Stats.removed_add]
    have hnames : Records.names [r] = r.names := rfl
    omega

/-- The records that are counted as dropped are those that are. -/
theorem skipped_count : (op.count rs).skipped = rs.countP op.drops := by
  have hcount := op.skipped_count_add_length rs
  have hleft := countP_isNone_add_length_filterMap op.act rs
  rw [op.apply_eq] at hcount
  change rs.countP op.drops + _ = _ at hleft
  omega

end Operation

/-! ## Accounts -/

namespace State

/-- The counts of the second state are those of the first and what happened since, in `n` lines. -/
structure Accounts (n : Nat) (s s' : State) : Prop where
  /-- Each line is counted. -/
  lines : s'.stats.lines = s.stats.lines + n
  /-- Each record that left the collection is counted. -/
  records : ∃ act, Keeps act ∧ s'.records = s.records.filterMap act ∧
    s'.stats.skipped = s.stats.skipped + s.records.countP fun r => (act r).isNone
  added_le : s.stats.added ≤ s'.stats.added
  removed_le : s.stats.removed ≤ s'.stats.removed
  /-- If no record left the collection, the lists of names grew by the names that were added less
  those that were removed. -/
  names : s'.records.length = s.records.length →
    (s'.records.names : Int) - s.records.names =
      (s'.stats.added - s.stats.added) - (s'.stats.removed - s.stats.removed)

namespace Accounts

variable {s s' s'' : State} {m n : Nat}

/-- What is left of the collection and what was dropped is what it was before. -/
theorem skipped_add_length (h : s.Accounts n s') :
    s'.stats.skipped + s'.records.length = s.stats.skipped + s.records.length := by
  obtain ⟨act, -, hrecords, hskipped⟩ := h.records
  have hlength := countP_isNone_add_length_filterMap act s.records
  rw [hskipped, hrecords]
  omega

theorem length_le (h : s.Accounts n s') : s'.records.length ≤ s.records.length := by
  obtain ⟨act, -, hrecords, -⟩ := h.records
  rw [hrecords]
  exact List.length_filterMap_le act s.records

theorem refl (s : State) : s.Accounts 0 s where
  lines := rfl
  records := ⟨some, .some, List.filterMap_some.symm, by simp⟩
  added_le := Nat.le_refl _
  removed_le := Nat.le_refl _
  names := fun _ => by omega

theorem trans (h : s.Accounts m s') (h' : s'.Accounts n s'') : s.Accounts (m + n) s'' where
  lines := by rw [h'.lines, h.lines, Nat.add_assoc]
  records := by
    obtain ⟨act, hkeeps, hrecords, hskipped⟩ := h.records
    obtain ⟨act', hkeeps', hrecords', hskipped'⟩ := h'.records
    refine ⟨fun r => (act r).bind act', hkeeps.bind hkeeps', ?_, ?_⟩
    · rw [hrecords', hrecords, List.filterMap_filterMap]
    · -- each is what the lengths before and after leave over
      have hfirst := countP_isNone_add_length_filterMap act s.records
      have hsecond := countP_isNone_add_length_filterMap act' s'.records
      have hboth := countP_isNone_add_length_filterMap (fun r => (act r).bind act') s.records
      rw [← List.filterMap_filterMap, ← hrecords] at hboth
      rw [← hrecords] at hfirst
      change s''.stats.skipped = _ + s.records.countP fun r => ((act r).bind act').isNone
      omega
  added_le := h.added_le.trans h'.added_le
  removed_le := h.removed_le.trans h'.removed_le
  names := by
    intro hlength
    have hle := h.length_le
    have hle' := h'.length_le
    have hnames := h.names (by omega)
    have hnames' := h'.names (by omega)
    omega

end Accounts

/-- One line keeps the accounts. -/
theorem accounts_step (s : State) (raw : String) : s.Accounts 1 (s.step raw).1 := by
  rw [step_eq]
  generalize s.block.operation (Line.read raw) = op
  have hnames := op.names_apply s.records
  constructor
  case lines => simp [after, counted, op.lines_count]
  case records =>
    exact ⟨op.act, op.keeps_act, op.apply_eq s.records,
      congrArg (s.stats.skipped + ·) (op.skipped_count s.records)⟩
  case added_le => simp [after, counted]
  case removed_le => simp [after, counted]
  case names =>
    intro hlength
    -- no record was dropped
    have hnone : s.records.filter op.drops = [] := by
      have hcount := op.skipped_count_add_length s.records
      rw [op.skipped_count, List.countP_eq_length_filter] at hcount
      change (op.apply s.records).length = _ at hlength
      exact List.length_eq_zero_iff.1 (by omega)
    rw [hnone, Records.names_nil] at hnames
    simp only [after, counted, Stats.added_add, Stats.removed_add]
    omega

/-- So does any number of lines. -/
theorem accounts_steps (s : State) (raws : List String) :
    s.Accounts raws.length (s.steps raws).1 := by
  induction raws generalizing s with
  | nil => exact .refl s
  | cons raw raws ih =>
    rw [List.length_cons, Nat.add_comm]
    exact (accounts_step s raw).trans (ih _)

end State

/-- The counts are exact after each line and after any lines, and over a whole script the records
that were dropped and those that are left are those there were. -/
theorem accounts_step_run :
    (∀ (s : State) (raw : String), s.Accounts 1 (s.step raw).1) ∧
    (∀ (s : State) (raws : List String), s.Accounts raws.length (s.steps raws).1) ∧
    (∀ (source : String) (rs : Records),
      (run source rs).1.stats.skipped + (run source rs).1.records.length = rs.length) ∧
    ∀ (source : Utf8.Bytes) (rs : Records),
      (runOctets source rs).1.stats.skipped + (runOctets source rs).1.records.length =
        rs.length := by
  refine ⟨State.accounts_step, State.accounts_steps, fun source rs => ?_, fun source rs => ?_⟩
  · have h := State.accounts_steps { records := rs } ((lines source.toList).map String.ofList)
    exact h.skipped_add_length.trans (Nat.zero_add _)
  · obtain ⟨act, -, hact⟩ := exists_act_runOctets source
    exact (hact rs).2.1

end Script

end Byline
