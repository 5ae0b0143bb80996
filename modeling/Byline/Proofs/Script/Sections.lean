import Byline.Proofs.Script.Operations

/-!
# Sections of a script

A script can be cut at its headers into sections: a header, and the lines after it up to the next
one. Each section is read by itself, its lines against its header alone (`Section.operations`), and
the records that a script leaves are those that the operations of its sections leave, one section
after the other (`records_run_sections`). So no section reaches into the next one, and what stands
before the first header does nothing.

What becomes of one record under these operations is `Operation.actAll`, so that the records that a
script leaves can be told record by record (`records_run_act`).
-/

namespace Byline.Script

/-- A header, and the lines after it up to the next header. -/
structure Section where
  header : Line
  body : List Line

/-- What a section does to the records. A header that cannot be used, or whose filter is none, takes
its lines with it; a disposition in a header comes first. -/
def Section.operations (s : Section) : List Operation :=
  match s.header with
  | .selection filter disposition =>
    match TypeFilter.read? filter with
    | some f => (disposition.toList.map (Operation.ofToken f)) ++ s.body.map (·.underTypes f)
    | none => []
  | .author name => s.body.map (·.underAuthor name)
  | _ => []

/-- The lines before the first header, and the sections. -/
def cut : List Line → List Line × List Section
  | [] => ([], [])
  | l :: ls =>
    let (body, rest) := cut ls
    if l.isHeader then ([], ⟨l, body⟩ :: rest) else (l :: body, rest)

/-- The sections of a script. -/
def sections (source : String) : List Section :=
  (cut ((lines source.toList).map fun l => Line.read (String.ofList l))).2

/-- The records after operations, one after the other. -/
def Operation.applyAll (ops : List Operation) (rs : Records) : Records :=
  ops.foldl (fun rs op => op.apply rs) rs

theorem Operation.applyAll_append (ops ops' : List Operation) (rs : Records) :
    applyAll (ops ++ ops') rs = applyAll ops' (applyAll ops rs) :=
  List.foldl_append

/-- Does a line that is no header do nothing in the block? -/
def Block.Idle (b : Block) : Prop := ∀ l, b.within l = .nothing

theorem Block.Idle.applyAll {b : Block} (h : b.Idle) (ls : List Line) (rs : Records) :
    Operation.applyAll (ls.map b.within) rs = rs := by
  induction ls with
  | nil => rfl
  | cons l ls ih =>
    rw [List.map_cons, h l]
    exact ih

/-- A section does what its header does, and then what its lines do in the block that it opens. -/
theorem Section.applyAll_operations {l : Line} (h : l.isHeader = true) (b : Block)
    (body : List Line) (rs : Records) :
    Operation.applyAll (Section.operations ⟨l, body⟩) rs =
      Operation.applyAll (body.map (b.next l).within) (l.atStart.apply rs) := by
  cases l with
  | author name => rfl
  | malformed text => exact (Block.Idle.applyAll (fun _ => rfl) body rs).symm
  | selection filter disposition =>
    cases hf : TypeFilter.read? filter with
    | none =>
      have hoperations : Section.operations ⟨.selection filter disposition, body⟩ = [] := by
        simp only [Section.operations, hf]
      have hstart : (Line.selection filter disposition).atStart = .nothing := by
        cases disposition <;> simp only [Line.atStart, hf]
      have hidle : (Block.selection none).Idle := fun _ => rfl
      rw [hoperations, hstart, Block.next, hf, hidle.applyAll]
      rfl
    | some f =>
      have hoperations : Section.operations ⟨.selection filter disposition, body⟩ =
          disposition.toList.map (Operation.ofToken f) ++ body.map (·.underTypes f) := by
        simp only [Section.operations, hf]
      rw [hoperations, Operation.applyAll_append, Block.next, hf]
      cases disposition with
      | none => rfl
      | some token =>
        simp only [Line.atStart, hf]
        rfl
  | _ => exact absurd h Bool.noConfusion

/-- The lines before the first header act in the block that is open, and each section by itself. -/
theorem State.records_steps (s : State) (raws : List String) :
    (s.steps raws).1.records =
      Operation.applyAll ((cut (raws.map Line.read)).2.flatMap Section.operations)
        (Operation.applyAll ((cut (raws.map Line.read)).1.map s.block.within) s.records) := by
  -- a header ends the lines that act in the open block; all others join them
  induction raws generalizing s with
  | nil => rfl
  | cons raw raws ih =>
    change ((s.step raw).1.steps raws).1.records = _
    rw [ih, step_eq, List.map_cons, cut]
    cases h : (Line.read raw).isHeader with
    | true =>
      have hoperation : s.block.operation (Line.read raw) = (Line.read raw).atStart := if_pos h
      rw [hoperation]
      simp only [if_true, List.flatMap_cons, Operation.applyAll_append,
        Section.applyAll_operations h s.block]
      rfl
    | false =>
      have hnext : s.block.next (Line.read raw) = s.block := Block.next_of_not_header h s.block
      have hoperation : s.block.operation (Line.read raw) = s.block.within (Line.read raw) := by
        rw [Block.operation, h]
        rfl
      rw [hnext, hoperation]
      rfl

/-- The records that a script leaves are those that the operations of its sections leave. -/
theorem records_run (source : String) (rs : Records) : (run source rs).1.records =
    Operation.applyAll ((sections source).flatMap Section.operations) rs := by
  have hidle : Block.none.Idle := fun _ => rfl
  have h := State.records_steps { records := rs } ((lines source.toList).map String.ofList)
  rw [hidle.applyAll, List.map_map] at h
  rw [run, h]
  rfl

/-- The records that a script leaves are those that its sections leave, one after the other. -/
theorem records_run_sections (source : String) (rs : Records) :
    (run source rs).1.records =
      (sections source).foldl (fun rs s => Operation.applyAll s.operations rs) rs := by
  rw [records_run, Operation.applyAll, List.foldl_flatMap]
  rfl

/-! ## Record by record -/

/-- What becomes of a record under operations, one after the other. -/
def Operation.actAll (ops : List Operation) (r : Record) : Option Record :=
  ops.foldlM (fun r op => op.act r) r

theorem Operation.applyAll_eq (ops : List Operation) (rs : Records) :
    applyAll ops rs = rs.filterMap (actAll ops) := by
  induction ops generalizing rs with
  | nil => exact List.filterMap_some.symm
  | cons op ops ih =>
    have hall : actAll (op :: ops) = fun r => (op.act r).bind (actAll ops) := by
      funext r
      rw [actAll, List.foldlM_cons]
      rfl
    change applyAll ops (op.apply rs) = _
    rw [ih, op.apply_eq, List.filterMap_filterMap, hall]

/-- A script does to each record what the operations of its sections do to it, whatever the other
records are. What one operation does to a record is in `Operation.act`. -/
theorem records_run_act (source : String) (rs : Records) : (run source rs).1.records =
    rs.filterMap (Operation.actAll ((sections source).flatMap Section.operations)) := by
  rw [records_run, Operation.applyAll_eq]

end Byline.Script
