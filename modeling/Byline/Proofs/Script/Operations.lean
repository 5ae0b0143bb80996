import Byline.Script.Interpreter
import Mathlib.Data.List.Basic

/-!
# What a line does to the records

A line of a script stands for one operation on the records. Which one it is hangs on the line and
on the block that is open, and on nothing else of the state (`Block.operation`), and so does the
block that is open after it (`Block.next`). A line does its operation, counts it, and that is all
(`State.perform_eq`).

An operation treats each record alone (`Operation.act`, `Operation.apply_eq`), and its counts for
records together are those for the records apart, added up (`Operation.count_append`).
-/

namespace Byline

theorem total_append (ns ms : List Nat) : total (ns ++ ms) = total ns + total ms := by
  induction ns with
  | nil => exact (Nat.zero_add _).symm
  | cons n ns ih =>
    change n + total (ns ++ ms) = n + total ns + total ms
    rw [ih, Nat.add_assoc]

namespace Script

/-- The counts of one part of a script and of another. -/
instance : Add Stats where
  add a b := ⟨a.lines + b.lines, a.skipped + b.skipped, a.added + b.added, a.removed + b.removed⟩

namespace Stats

variable (a b : Stats)

@[simp]
theorem lines_add : (a + b).lines = a.lines + b.lines := rfl

@[simp]
theorem skipped_add : (a + b).skipped = a.skipped + b.skipped := rfl

@[simp]
theorem added_add : (a + b).added = a.added + b.added := rfl

@[simp]
theorem removed_add : (a + b).removed = a.removed + b.removed := rfl

end Stats

/-- An operation on records. -/
inductive Operation where
  /-- Nothing. -/
  | nothing
  /-- Gives an author to the records that a filter covers. -/
  | give (f : TypeFilter) (name : String)
  /-- Removes the authors for which `p` holds from the records that a filter covers. -/
  | remove (f : TypeFilter) (p : String → Bool)
  /-- Drops the records that a filter covers. -/
  | drop (f : TypeFilter)
  /-- Sets the disposition of the records that a filter covers. -/
  | dispose (f : TypeFilter) (d : Disposition)

namespace Operation

/-- The records after the operation. -/
def apply : Operation → Records → Records
  | nothing, rs => rs
  | give f name, rs => rs.giveAuthor f name
  | remove f p, rs => rs.removeAuthors f p
  | drop f, rs => rs.skip f
  | dispose f d, rs => rs.withDisposition f d

/-- What the operation adds to the counts. -/
def count : Operation → Records → Stats
  | give f name, rs => { added := (rs.gaining f name).length }
  | remove f p, rs => { removed := rs.countRemoved f p }
  | drop f, rs => { skipped := (rs.covered f).length }
  | _, _ => {}

/-- What becomes of a record. -/
def act : Operation → Record → Option Record
  | nothing, r => some r
  | give f name, r => some (if Records.covers f r then r.addNew name else r)
  | remove f p, r => some (if Records.covers f r then r.dropAuthors p else r)
  | drop f, r => if Records.covers f r then none else some r
  | dispose f d, r => some (if Records.covers f r then { r with disposition := d } else r)

/-- The operation that sets the disposition of that name, if there is one. -/
def ofToken (f : TypeFilter) (token : String) : Operation :=
  match Disposition.read? token with
  | some d => .dispose f d
  | none => .nothing

variable (op : Operation) (rs rs' : Records)

/-- Each record is treated alone. -/
theorem apply_eq : op.apply rs = rs.filterMap op.act := by
  have hupdate (f : TypeFilter) (g : Record → Record) :
      rs.update f g = rs.filterMap fun r => some (if Records.covers f r then g r else r) := by
    rw [Records.update, ← List.filterMap_eq_map]
    rfl
  cases op with
  | nothing => exact List.filterMap_some.symm
  | give f name => exact hupdate f (·.addNew name)
  | remove f p => exact hupdate f (Record.dropAuthors p)
  | dispose f d => exact hupdate f ({ · with disposition := d })
  | drop f =>
    change rs.skip f = _
    rw [Records.skip, ← List.filterMap_eq_filter]
    congr 1
    funext r
    cases h : Records.covers f r <;> simp [act, Option.guard, h]

theorem apply_append : op.apply (rs ++ rs') = op.apply rs ++ op.apply rs' := by
  rw [apply_eq, apply_eq, apply_eq, List.filterMap_append]

/-- A record that stays is as it was, or is changed in one way. -/
theorem of_act_eq_some {op : Operation} {r r' : Record} (h : op.act r = some r') :
    r' = r ∨ (∃ name, r' = r.addNew name) ∨ (∃ p, r' = r.dropAuthors p) ∨
      ∃ d, r' = { r with disposition := d } := by
  have hite (f : TypeFilter) (g : Record → Record)
      (h : some (if Records.covers f r then g r else r) = some r') : r' = r ∨ r' = g r := by
    obtain rfl := Option.some.inj h
    split
    · exact .inr rfl
    · exact .inl rfl
  cases op with
  | nothing => exact .inl (Option.some.inj h).symm
  | give f name => exact (hite f (·.addNew name) h).imp_right fun h => .inl ⟨name, h⟩
  | remove f p => exact (hite f (Record.dropAuthors p) h).imp_right fun h => .inr (.inl ⟨p, h⟩)
  | dispose f d =>
    exact (hite f ({ · with disposition := d }) h).imp_right fun h => .inr (.inr ⟨d, h⟩)
  | drop f =>
    by_cases hc : Records.covers f r = true
    · simp [act, hc] at h
    · exact .inl (by simpa [act, hc] using h.symm)

/-- The records that are dropped are counted. -/
theorem skipped_count_add_length :
    (op.count rs).skipped + (op.apply rs).length = rs.length := by
  have hupdate (f : TypeFilter) (g : Record → Record) : 0 + (rs.update f g).length = rs.length := by
    rw [Records.update, List.length_map, Nat.zero_add]
  cases op with
  | nothing => exact Nat.zero_add _
  | give f name => exact hupdate f (·.addNew name)
  | remove f p => exact hupdate f (Record.dropAuthors p)
  | dispose f d => exact hupdate f ({ · with disposition := d })
  | drop f =>
    change (rs.covered f).length + (rs.skip f).length = rs.length
    have hsplit := List.length_eq_countP_add_countP (Records.covers f) (l := rs)
    rw [hsplit, List.countP_eq_length_filter, List.countP_eq_length_filter]
    simp [Records.covered, Records.skip]

/-- An operation is no line. -/
theorem lines_count : (op.count rs).lines = 0 := by
  cases op <;> rfl

theorem count_append : op.count (rs ++ rs') = op.count rs + op.count rs' := by
  cases op with
  | nothing => rfl
  | dispose f d => rfl
  | give f name =>
    change ({ added := _ } : Stats) = { added := _ }
    rw [Records.gaining, Records.covered, List.filter_append, List.filter_append, List.length_append]
    rfl
  | remove f p =>
    change ({ removed := _ } : Stats) = { removed := _ }
    rw [Records.countRemoved, Records.covered, List.filter_append, List.map_append, total_append]
    rfl
  | drop f =>
    change ({ skipped := _ } : Stats) = { skipped := _ }
    rw [Records.covered, List.filter_append, List.length_append]
    rfl

end Operation

/-! ## The operation of a line -/

/-- Does the line open a block, or close the one before it? -/
def Line.isHeader : Line → Bool
  | .selection _ _ => true
  | .author _ => true
  | .malformed _ => true
  | _ => false

/-- The operation of a line in a block for the types that a filter covers. -/
def Line.underTypes (f : TypeFilter) : Line → Operation
  | .add name => .give f name
  | .remove text =>
    match AuthorFilter.read? text with
    | some g => .remove f g.accepts
    | none => .nothing
  | .command word => if word.toLower == "skip" then .drop f else .ofToken f word
  | _ => .nothing

/-- The operation of a line in a block for an author. -/
def Line.underAuthor (name : String) : Line → Operation
  | .add text =>
    match TypeFilter.read? text with
    | some f => .give f name
    | none => .nothing
  | .remove text =>
    match TypeFilter.read? text with
    | some f => .remove f (· == name)
    | none => .nothing
  | _ => .nothing

/-- The operation of a header: a block for types may start with a disposition. -/
def Line.atStart : Line → Operation
  | .selection filter (some token) =>
    match TypeFilter.read? filter with
    | some f => .ofToken f token
    | none => .nothing
  | _ => .nothing

namespace Block

/-- The block that is open after a line. -/
def next (b : Block) : Line → Block
  | .selection filter _ => .selection (TypeFilter.read? filter)
  | .author name => .author name
  | .malformed _ => .none
  | _ => b

/-- The operation of a line that is no header. -/
def within : Block → Line → Operation
  | .selection (some f), l => l.underTypes f
  | .author name, l => l.underAuthor name
  | _, _ => .nothing

theorem next_of_not_header {l : Line} (h : l.isHeader = false) (b : Block) : b.next l = b := by
  cases l with
  | inert | command | add | remove => rfl
  | _ => exact absurd h Bool.noConfusion

/-- The operation of a line. -/
def operation (b : Block) (l : Line) : Operation := if l.isHeader then l.atStart else b.within l

end Block

namespace State

/-- The state after an operation in a block. -/
def after (s : State) (b : Block) (op : Operation) : State :=
  ⟨b, s.stats + op.count s.records, op.apply s.records⟩

theorem dispose_eq (s : State) (b : Block) (f : TypeFilter) (token : String) :
    (⟨b, s.stats, (dispose f token s.records).1⟩ : State) = s.after b (.ofToken f token) := by
  unfold dispose Operation.ofToken
  cases Disposition.read? token <;> rfl

/-- A header does its operation in the block that it opens. -/
theorem perform_header {l : Line} (h : l.isHeader = true) (s : State) :
    (s.perform l).1 = s.after (s.block.next l) l.atStart := by
  cases l with
  | author name => rfl
  | malformed text => rfl
  | selection filter disposition =>
    cases disposition with
    | none => cases hf : TypeFilter.read? filter <;> simp [perform, select, Block.next, hf] <;> rfl
    | some token =>
      cases hf : TypeFilter.read? filter with
      | none => simp [perform, select, Block.next, Line.atStart, hf]; rfl
      | some f =>
        rw [Line.atStart, Block.next, hf, ← dispose_eq]
        simp [perform, select, hf]
  | _ => exact absurd h Bool.false_ne_true

/-- In a block for types a line does what it says under the filter. -/
theorem perform_underTypes {l : Line} (h : l.isHeader = false) (f : TypeFilter) (stats : Stats)
    (rs : Records) :
    ((⟨.selection (some f), stats, rs⟩ : State).perform l).1 =
      (⟨.selection (some f), stats, rs⟩ : State).after (.selection (some f)) (l.underTypes f) := by
  cases l with
  | inert => rfl
  | add name => rfl
  | remove text => cases hg : AuthorFilter.read? text <;> simp [perform, Line.underTypes, hg] <;> rfl
  | command word =>
    by_cases hw : (word.toLower == "skip") = true
    · simp [perform, Line.underTypes, hw]
      rfl
    · simp [perform, Line.underTypes, hw, ← dispose_eq]
  | _ => exact absurd h Bool.noConfusion

/-- In a block for an author a line does what it says for that author. -/
theorem perform_underAuthor {l : Line} (h : l.isHeader = false) (name : String) (stats : Stats)
    (rs : Records) :
    ((⟨.author name, stats, rs⟩ : State).perform l).1 =
      (⟨.author name, stats, rs⟩ : State).after (.author name) (l.underAuthor name) := by
  cases l with
  | inert => rfl
  | command word => rfl
  | add text => cases hf : TypeFilter.read? text <;> simp [perform, Line.underAuthor, hf] <;> rfl
  | remove text => cases hf : TypeFilter.read? text <;> simp [perform, Line.underAuthor, hf] <;> rfl
  | _ => exact absurd h Bool.noConfusion

/-- A line that is no header does its operation in the block that is open. -/
theorem perform_of_not_header {l : Line} (h : l.isHeader = false) (s : State) :
    (s.perform l).1 = s.after s.block (s.block.within l) := by
  obtain ⟨b, stats, rs⟩ := s
  cases b with
  | author name => exact perform_underAuthor h name stats rs
  | none =>
    cases l with
    | inert | command | add | remove => rfl
    | _ => exact absurd h Bool.noConfusion
  | selection filter =>
    cases filter with
    | some f => exact perform_underTypes h f stats rs
    | none =>
      cases l with
      | inert | command | add | remove => rfl
      | _ => exact absurd h Bool.noConfusion

/-- A line does its operation, and nothing else. -/
theorem perform_eq (s : State) (l : Line) :
    (s.perform l).1 = s.after (s.block.next l) (s.block.operation l) := by
  unfold Block.operation
  split
  next h => exact perform_header h s
  next h =>
    have h := Bool.eq_false_iff.2 h
    rw [perform_of_not_header h, Block.next_of_not_header h]

/-- The state with one more line counted. -/
def counted (s : State) : State := { s with stats := { s.stats with lines := s.stats.lines + 1 } }

theorem step_eq (s : State) (raw : String) :
    (s.step raw).1 =
      s.counted.after (s.block.next (Line.read raw)) (s.block.operation (Line.read raw)) :=
  perform_eq s.counted (Line.read raw)

end State

end Script

end Byline
