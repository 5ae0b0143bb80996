import Byline.Proofs.Script.Operations
import Byline.Proofs.Text.Lines

/-!
# What a script does to each record

A script acts on each record alone. What becomes of a record hangs on the lines and on the record,
not on the other records (`Script.Effect`): the effect of lines is that of the first followed by
that of the rest (`Effect.followedBy`). A record that is not dropped keeps its path, its type and
its anchor, and each one that is dropped is counted.

So two runs on parts of a collection keep in step with the run on the whole (`State.Joins`), and
together they come to the same (`run_append`).
-/

namespace Byline.Script

/-- What lines do from a block on: the block that is open after them, and what becomes of each
record. -/
structure Effect where
  block : Block
  act : Record → Option Record

/-- What lines cannot change in a record. -/
def Keeps (act : Record → Option Record) : Prop :=
  ∀ r r', act r = some r' → r'.path = r.path ∧ r'.typeName = r.typeName ∧ r'.anchor = r.anchor

namespace Effect

variable {e e' : Effect} {s s' s'' : State}

/-- One state comes from another by the effect. -/
structure Links (e : Effect) (s s' : State) : Prop where
  block : s'.block = e.block
  records : s'.records = s.records.filterMap e.act
  skipped : s'.stats.skipped + s'.records.length = s.stats.skipped + s.records.length

/-- An effect, and then another. -/
def followedBy (e e' : Effect) : Effect := ⟨e'.block, fun r => (e.act r).bind e'.act⟩

theorem Links.trans (h : e.Links s s') (h' : e'.Links s' s'') :
    (e.followedBy e').Links s s'' := by
  refine ⟨h'.block, ?_, h'.skipped.trans h.skipped⟩
  rw [h'.records, h.records, List.filterMap_filterMap]
  rfl

end Effect

theorem links_some {b : Block} {s : State} (h : s.block = b) : Effect.Links ⟨b, some⟩ s s :=
  ⟨h, List.filterMap_some.symm, rfl⟩

theorem Keeps.some : Keeps some := by
  intro r r' h
  obtain rfl := Option.some.inj h
  exact ⟨rfl, rfl, rfl⟩

theorem Keeps.bind {f g : Record → Option Record} (hf : Keeps f) (hg : Keeps g) :
    Keeps fun r => (f r).bind g := by
  intro r r'' h
  obtain ⟨r', hr', hr''⟩ := Option.bind_eq_some_iff.1 h
  obtain ⟨hp, ht, ha⟩ := hf r r' hr'
  obtain ⟨hp', ht', ha'⟩ := hg r' r'' hr''
  exact ⟨hp'.trans hp, ht'.trans ht, ha'.trans ha⟩

theorem Operation.keeps_act (op : Operation) : Keeps op.act := by
  intro r r' h
  rcases of_act_eq_some h with rfl | ⟨name, rfl⟩ | ⟨p, rfl⟩ | ⟨d, rfl⟩ <;> exact ⟨rfl, rfl, rfl⟩

theorem links_after (s : State) (b : Block) (op : Operation) :
    Effect.Links ⟨b, op.act⟩ s (s.after b op) := by
  refine ⟨rfl, op.apply_eq s.records, ?_⟩
  change s.stats.skipped + (op.count s.records).skipped + (op.apply s.records).length = _
  rw [Nat.add_assoc, op.skipped_count_add_length]

/-- What a line does hangs on the open block, and on nothing else of the state. -/
theorem exists_effect_step (b : Block) (raw : String) :
    ∃ e : Effect, Keeps e.act ∧ ∀ s : State, s.block = b → e.Links s (s.step raw).1 := by
  refine ⟨⟨b.next (Line.read raw), (b.operation (Line.read raw)).act⟩, Operation.keeps_act _, ?_⟩
  rintro s rfl
  rw [State.step_eq]
  obtain ⟨hblock, hrecords, hskipped⟩ := links_after s.counted (s.block.next (Line.read raw))
    (s.block.operation (Line.read raw))
  exact ⟨hblock, hrecords, hskipped⟩

/-- The lines of a file have one effect on each record, up to the first line that is no text. -/
theorem exists_effect_stepsOctets (b : Block) (ls : List Utf8.Bytes) :
    ∃ e : Effect, Keeps e.act ∧ ∀ s : State, s.block = b →
      e.Links s (s.stepsOctets ls).1 ∧
        (s.stepsOctets ls).2.2 = ls.all fun l => (Utf8.decode? l).isSome := by
  induction ls generalizing b with
  | nil => exact ⟨⟨b, some⟩, Keeps.some, fun s hs => ⟨links_some hs, rfl⟩⟩
  | cons l ls ih =>
    cases hl : Utf8.decode? l with
    | none =>
      refine ⟨⟨b, some⟩, Keeps.some, fun s hs => ?_⟩
      rw [State.stepsOctets, hl, List.all_cons, hl]
      exact ⟨links_some hs, rfl⟩
    | some text =>
      obtain ⟨e, hk, he⟩ := exists_effect_step b (String.ofList (chomp text))
      obtain ⟨e', hk', he'⟩ := ih e.block
      refine ⟨e.followedBy e', hk.bind hk', fun s hs => ?_⟩
      have hstep := he s hs
      obtain ⟨hrest, hwhole⟩ := he' _ hstep.block
      rw [State.stepsOctets, hl, List.all_cons, hl]
      exact ⟨hstep.trans hrest, hwhole⟩

/-- A script has one effect on each record, whatever the other records are, and counts those that
it drops. It is read to its end if it is a text. -/
theorem exists_act_runOctets (source : Utf8.Bytes) :
    ∃ act, Keeps act ∧ ∀ rs, (runOctets source rs).1.records = rs.filterMap act ∧
      (runOctets source rs).1.stats.skipped + (runOctets source rs).1.records.length = rs.length ∧
      (runOctets source rs).2.2 = Utf8.isValid source := by
  obtain ⟨e, hk, he⟩ := exists_effect_stepsOctets .none (Utf8.lines source)
  refine ⟨e.act, hk, fun rs => ?_⟩
  obtain ⟨hlinks, hwhole⟩ := he { records := rs } rfl
  refine ⟨hlinks.records, hlinks.skipped.trans (Nat.zero_add _), ?_⟩
  rw [runOctets, hwhole, ← Utf8.all_isValid_lines source]
  simp only [Utf8.isSome_decode?]

/-! ## Records apart and together -/

namespace State

/-- The state has the records of two others, and counts what they count. -/
structure Joins (s s₁ s₂ : State) : Prop where
  block_left : s₁.block = s.block
  block_right : s₂.block = s.block
  records : s.records = s₁.records ++ s₂.records
  lines_left : s₁.stats.lines = s.stats.lines
  lines_right : s₂.stats.lines = s.stats.lines
  skipped : s.stats.skipped = s₁.stats.skipped + s₂.stats.skipped
  added : s.stats.added = s₁.stats.added + s₂.stats.added
  removed : s.stats.removed = s₁.stats.removed + s₂.stats.removed

namespace Joins

variable {s s₁ s₂ : State}

/-- One operation on all records is the operation on either part. -/
theorem after (h : s.Joins s₁ s₂) (b : Block) (op : Operation) :
    (s.after b op).Joins (s₁.after b op) (s₂.after b op) where
  block_left := rfl
  block_right := rfl
  records := by
    change op.apply s.records = op.apply s₁.records ++ op.apply s₂.records
    rw [h.records, op.apply_append]
  lines_left := by simp [State.after, op.lines_count, h.lines_left]
  lines_right := by simp [State.after, op.lines_count, h.lines_right]
  skipped := by
    simp only [State.after, h.records, op.count_append, Stats.skipped_add, h.skipped]
    omega
  added := by
    simp only [State.after, h.records, op.count_append, Stats.added_add, h.added]
    omega
  removed := by
    simp only [State.after, h.records, op.count_append, Stats.removed_add, h.removed]
    omega

theorem counted (h : s.Joins s₁ s₂) : s.counted.Joins s₁.counted s₂.counted :=
  { h with
    lines_left := congrArg (· + 1) h.lines_left
    lines_right := congrArg (· + 1) h.lines_right }

theorem step (h : s.Joins s₁ s₂) (raw : String) :
    (s.step raw).1.Joins (s₁.step raw).1 (s₂.step raw).1 := by
  rw [step_eq, step_eq, step_eq, h.block_left, h.block_right]
  exact h.counted.after _ _

theorem steps (h : s.Joins s₁ s₂) (raws : List String) :
    (s.steps raws).1.Joins (s₁.steps raws).1 (s₂.steps raws).1 := by
  induction raws generalizing s s₁ s₂ with
  | nil => exact h
  | cons raw raws ih => exact ih (h.step raw)

end Joins

end State

/-- A script does to records together what it does to them apart: they stay as they are in either
run, in order, and all counts but that of the lines add up. -/
theorem run_append (source : String) (rs rs' : Records) :
    (run source (rs ++ rs')).1.records = (run source rs).1.records ++ (run source rs').1.records ∧
    (run source (rs ++ rs')).1.stats.lines = (run source rs).1.stats.lines ∧
    (run source (rs ++ rs')).1.stats.lines = (run source rs').1.stats.lines ∧
    (run source (rs ++ rs')).1.stats.skipped =
      (run source rs).1.stats.skipped + (run source rs').1.stats.skipped ∧
    (run source (rs ++ rs')).1.stats.added =
      (run source rs).1.stats.added + (run source rs').1.stats.added ∧
    (run source (rs ++ rs')).1.stats.removed =
      (run source rs).1.stats.removed + (run source rs').1.stats.removed := by
  have hstart : State.Joins { records := rs ++ rs' } { records := rs } { records := rs' } :=
    ⟨rfl, rfl, rfl, rfl, rfl, rfl, rfl, rfl⟩
  have h := hstart.steps ((lines source.toList).map String.ofList)
  exact ⟨h.records, h.lines_left.symm, h.lines_right.symm, h.skipped, h.added, h.removed⟩

end Byline.Script
